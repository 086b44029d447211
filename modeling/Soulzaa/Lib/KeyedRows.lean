/-
Rows that are read and updated by key, as a table with a primary key.

An update changes every row that has the key, and no key.  Where keys are distinct
it changes the one row that a read finds, and the sum of a column moves by what
that row moves.
-/

import Mathlib.Algebra.BigOperators.Group.List.Basic
import Mathlib.Data.List.Nodup

namespace Soulzaa.KeyedRows

variable {Row Key : Type} [DecidableEq Key]

def find (key : Row → Key) (wanted : Key) (rows : List Row) : Option Row :=
  rows.find? fun row => key row = wanted

def update (key : Row → Key) (wanted : Key) (change : Row → Row) (rows : List Row) : List Row :=
  rows.map fun row => if key row = wanted then change row else row

variable {key : Row → Key} {wanted other : Key} {change : Row → Row} {rows : List Row} {row : Row}

theorem key_of_find (found : find key wanted rows = some row) : key row = wanted := by
  have matched := List.find?_some found
  exact of_decide_eq_true matched

theorem mem_of_find (found : find key wanted rows = some row) : row ∈ rows :=
  List.mem_of_find?_eq_some found

theorem find_of_mem (distinct : (rows.map key).Nodup) (member : row ∈ rows) :
    find key (key row) rows = some row := by
  cases found : find key (key row) rows with
  | none =>
      have absent := List.find?_eq_none.mp found row member
      simp at absent
  | some first =>
      rw [List.inj_on_of_nodup_map distinct (mem_of_find found) member (key_of_find found)]

theorem find_concat :
    find key wanted (rows ++ [row]) =
      (find key wanted rows).or (if key row = wanted then some row else none) := by
  unfold find
  rw [List.find?_append, List.find?_singleton]
  simp only [decide_eq_true_eq]

theorem mem_update (member : row ∈ update key wanted change rows) :
    ∃ before ∈ rows, row = if key before = wanted then change before else before := by
  obtain ⟨before, inside, written⟩ := List.mem_map.mp member
  exact ⟨before, inside, written.symm⟩

/-- The update keeps keys. -/
def KeepsKey (key : Row → Key) (change : Row → Row) : Prop :=
  ∀ row, key (change row) = key row

theorem KeepsKey.written (keeps : KeepsKey key change) (row : Row) :
    key (if key row = wanted then change row else row) = key row := by
  split
  · exact keeps row
  · rfl

/-- A column that the change keeps is the same after the update. -/
theorem map_update {Value : Type} {column : Row → Value}
    (keeps : ∀ row, column (change row) = column row) :
    (update key wanted change rows).map column = rows.map column := by
  unfold update
  rw [List.map_map]
  apply List.map_congr_left
  intro row _
  rw [Function.comp_apply]
  split
  · exact keeps row
  · rfl

theorem keys_update (keeps : KeepsKey key change) :
    (update key wanted change rows).map key = rows.map key :=
  map_update keeps

theorem find_update (keeps : KeepsKey key change) :
    find key other (update key wanted change rows) =
      (find key other rows).map fun row => if key row = wanted then change row else row := by
  unfold find update
  rw [List.find?_map]
  congr 1
  congr 1
  funext row
  simp only [Function.comp_apply, keeps.written]

theorem find_update_self (keeps : KeepsKey key change)
    (found : find key wanted rows = some row) :
    find key wanted (update key wanted change rows) = some (change row) := by
  rw [find_update keeps, found, Option.map_some, if_pos (key_of_find found)]

theorem find_update_other (keeps : KeepsKey key change) (different : other ≠ wanted) :
    find key other (update key wanted change rows) = find key other rows := by
  rw [find_update keeps]
  cases found : find key other rows with
  | none => rfl
  | some row =>
      rw [Option.map_some, if_neg]
      rw [key_of_find found]
      exact different

theorem find_update_eq_ite (keeps : KeepsKey key change) :
    find key other (update key wanted change rows) =
      if other = wanted then (find key other rows).map change else find key other rows := by
  by_cases same : other = wanted
  · subst same
    rw [if_pos rfl, find_update keeps]
    cases found : find key other rows with
    | none => rfl
    | some row => rw [Option.map_some, Option.map_some, if_pos (key_of_find found)]
  · rw [if_neg same, find_update_other keeps same]

/-- An update that makes no row hold counts no more of them. -/
theorem countP_update_le {holds : Row → Bool}
    (kept : ∀ row, holds (change row) = true → holds row = true) :
    (update key wanted change rows).countP holds ≤ rows.countP holds := by
  unfold update
  rw [List.countP_map]
  refine List.countP_mono_left fun row _ isHeld => ?_
  rw [Function.comp_apply] at isHeld
  split at isHeld
  · exact kept row isHeld
  · exact isHeld

theorem filter_ne_of_absent (absent : wanted ∉ rows.map key) :
    (rows.filter fun other => key other ≠ wanted) = rows := by
  refine List.filter_eq_self.mpr fun other member => decide_eq_true fun isKey => absent ?_
  rw [← isKey]
  exact List.mem_map_of_mem member

/-- Where keys are distinct, to leave out a key leaves out one row. -/
theorem countP_filter_ne (holds : Row → Bool) (distinct : (rows.map key).Nodup)
    (found : find key wanted rows = some row) :
    rows.countP holds =
      (rows.filter fun other => key other ≠ wanted).countP holds + if holds row then 1 else 0 := by
  induction rows with
  | nil => cases found
  | cons first rest ih =>
      obtain ⟨absent, restDistinct⟩ := List.nodup_cons.mp distinct
      unfold find at found ih
      by_cases same : key first = wanted
      · rw [List.find?_cons_of_pos (by simpa using same)] at found
        cases found
        rw [List.filter_cons_of_neg (by simpa using same), filter_ne_of_absent (same ▸ absent),
          List.countP_cons]
      · rw [List.find?_cons_of_neg (by simpa using same)] at found
        rw [List.filter_cons_of_pos (by simpa using same), List.countP_cons, List.countP_cons,
          ih restDistinct found, Nat.add_right_comm]

/-- An update leaves the rows of other keys. -/
theorem filter_ne_update (keeps : KeepsKey key change) :
    ((update key wanted change rows).filter fun other => key other ≠ wanted) =
      rows.filter fun other => key other ≠ wanted := by
  induction rows with
  | nil => rfl
  | cons first rest ih =>
      change List.filter _ ((if key first = wanted then change first else first) ::
        update key wanted change rest) = _
      by_cases same : key first = wanted
      · have changed : key (change first) = wanted := (keeps first).trans same
        rw [if_pos same, List.filter_cons_of_neg (by simpa using changed),
          List.filter_cons_of_neg (by simpa using same), ih]
      · rw [if_neg same, List.filter_cons_of_pos (by simpa using same),
          List.filter_cons_of_pos (by simpa using same), ih]

/-- Without the key there is nothing to update. -/
theorem update_of_absent (absent : wanted ∉ rows.map key) :
    update key wanted change rows = rows := by
  unfold update
  rw [List.map_congr_left, List.map_id]
  intro row member
  rw [if_neg, id]
  intro same
  exact absent (same ▸ List.mem_map_of_mem member)

/-- Two changes that agree on the row with the key update alike. -/
theorem update_congr {second : Row → Row} (distinct : (rows.map key).Nodup)
    (found : find key wanted rows = some row) (agree : change row = second row) :
    update key wanted change rows = update key wanted second rows := by
  unfold update
  apply List.map_congr_left
  intro other member
  split
  · rename_i same
    have isRow := find_of_mem distinct member
    rw [same, found] at isRow
    rw [← Option.some_inj.mp isRow, agree]
  · rfl

theorem update_eq_self (distinct : (rows.map key).Nodup)
    (found : find key wanted rows = some row) (fixed : change row = row) :
    update key wanted change rows = rows := by
  have asIdentity : update key wanted change rows = update key wanted id rows :=
    update_congr distinct found fixed
  rw [asIdentity]
  unfold update
  simp only [id, ite_self, List.map_id']

theorem update_update {second : Row → Row} (keeps : KeepsKey key change) :
    update key wanted second (update key wanted change rows) =
      update key wanted (second ∘ change) rows := by
  unfold update
  rw [List.map_map]
  apply List.map_congr_left
  intro row _
  by_cases same : key row = wanted
  · simp only [Function.comp_apply, if_pos same, keeps row]
  · simp only [Function.comp_apply, if_neg same]

/-- Updates of several keys, one after another, where a second update of a row changes nothing. -/
theorem foldl_update {change : Key → Row → Row} (keeps : ∀ wanted, KeepsKey key (change wanted))
    (settles : ∀ wanted row, change wanted (change wanted row) = change wanted row)
    (wanted : List Key) :
    wanted.foldl (fun rows each => update key each (change each) rows) rows =
      rows.map fun row => if key row ∈ wanted then change (key row) row else row := by
  induction wanted generalizing rows with
  | nil => simp only [List.foldl_nil, List.not_mem_nil, if_false, List.map_id']
  | cons first rest ih =>
      rw [List.foldl_cons, ih]
      unfold update
      rw [List.map_map]
      apply List.map_congr_left
      intro row _
      rw [Function.comp_apply]
      by_cases isFirst : key row = first
      · rw [if_pos isFirst, keeps first row, isFirst, if_pos List.mem_cons_self, settles, ite_self]
      · rw [if_neg isFirst]
        refine if_congr ?_ rfl rfl
        rw [List.mem_cons]
        exact ⟨.inr, fun either => either.resolve_left isFirst⟩

theorem find_map {Other : Type} {shown : Row → Other} {shownKey : Other → Key}
    (keeps : ∀ row, shownKey (shown row) = key row) :
    find shownKey wanted (rows.map shown) = (find key wanted rows).map shown := by
  unfold find
  rw [List.find?_map]
  congr 2
  funext row
  rw [Function.comp_apply, keeps]

/-- A row whose key is there already is not inserted. -/
def insertNew (key : Row → Key) (rows : List Row) (row : Row) : List Row :=
  if key row ∈ rows.map key then rows else rows ++ [row]

def insertEach (key : Row → Key) (added rows : List Row) : List Row :=
  added.foldl (insertNew key) rows

/-- New rows of different keys are all inserted. -/
theorem insertEach_fresh {added : List Row} (distinct : (added.map key).Nodup)
    (fresh : ∀ row ∈ added, key row ∉ rows.map key) : insertEach key added rows = rows ++ added := by
  induction added generalizing rows with
  | nil => exact (List.append_nil rows).symm
  | cons first rest ih =>
      obtain ⟨notLater, others⟩ := List.nodup_cons.mp distinct
      have inserted : insertNew key rows first = rows ++ [first] :=
        if_neg (fresh first List.mem_cons_self)
      show insertEach key rest (insertNew key rows first) = rows ++ first :: rest
      rw [inserted, ih others, List.append_assoc, List.singleton_append]
      intro row member
      rw [List.map_append, List.map_singleton, List.mem_append, List.mem_singleton]
      rintro (there | same)
      · exact fresh row (List.mem_cons_of_mem first member) there
      · exact notLater (same ▸ List.mem_map_of_mem member)

/-- A row is inserted, or takes the place of the one with its key. -/
def upsert (key : Row → Key) (row : Row) (rows : List Row) : List Row :=
  if key row ∈ rows.map key then update key (key row) (fun _ => row) rows else rows ++ [row]

theorem find_of_key (there : wanted ∈ rows.map key) : ∃ row, find key wanted rows = some row := by
  obtain ⟨row, member, isKey⟩ := List.mem_map.mp there
  have found : (find key wanted rows).isSome = true := by
    unfold find
    rw [List.find?_isSome]
    exact ⟨row, member, decide_eq_true isKey⟩
  exact Option.isSome_iff_exists.mp found

theorem find_upsert :
    find key wanted (upsert key row rows) =
      if wanted = key row then some row else find key wanted rows := by
  unfold upsert
  split
  · rename_i there
    obtain ⟨before, found⟩ := find_of_key there
    unfold find update at *
    by_cases same : wanted = key row
    · rw [if_pos same, same, List.find?_map]
      have isFirst : (rows.find? ((fun other => decide (key other = key row)) ∘
          fun other => if key other = key row then row else other)) = some before := by
        rw [← found]
        congr 1
        funext other
        rw [Function.comp_apply]
        split
        · rename_i isKey
          simp only [isKey]
        · rfl
      rw [isFirst, Option.map_some, if_pos (key_of_find found)]
    · rw [if_neg same, List.find?_map]
      have isSame : (fun other => decide (key other = wanted)) ∘
          (fun other => if key other = key row then row else other) =
            fun other => decide (key other = wanted) := by
        funext other
        rw [Function.comp_apply]
        split
        · rename_i isKey
          rw [isKey]
        · rfl
      rw [isSame]
      cases isFound : rows.find? fun other => decide (key other = wanted) with
      | none => rfl
      | some other =>
          have isOther : key other = wanted := key_of_find isFound
          rw [Option.map_some, if_neg fun isRow => same (isOther.symm.trans isRow)]
  · rename_i absent
    rw [find_concat]
    by_cases same : wanted = key row
    · have unfound : find key wanted rows = none := by
        refine List.find?_eq_none.mpr fun other member isOther => absent ?_
        rw [← same, ← of_decide_eq_true isOther]
        exact List.mem_map_of_mem member
      rw [unfound, Option.none_or, if_pos same.symm, if_pos same]
    · rw [if_neg fun isRow => same isRow.symm, if_neg same, Option.or_none]

theorem keepsKey_replace (row : Row) :
    KeepsKey key fun other => if key other = key row then row else other := by
  intro other
  dsimp only
  split
  · rename_i same
    exact same.symm
  · rfl

theorem upsert_of_there (there : key row ∈ rows.map key) :
    upsert key row rows =
      update key (key row) (fun other => if key other = key row then row else other) rows := by
  unfold upsert update
  rw [if_pos there]
  apply List.map_congr_left
  intro other _
  dsimp only
  split
  · rfl
  · rfl

theorem nodup_upsert (distinct : (rows.map key).Nodup) :
    ((upsert key row rows).map key).Nodup := by
  by_cases there : key row ∈ rows.map key
  · rw [upsert_of_there there, keys_update (keepsKey_replace row)]
    exact distinct
  · unfold upsert
    rw [if_neg there, List.map_append, List.map_singleton]
    exact List.nodup_append.mpr ⟨distinct, List.nodup_singleton _, fun other member last isLast =>
      fun same => there (by rw [← List.mem_singleton.mp isLast, ← same]; exact member)⟩

/-- Where the row before is not counted, the row is counted once more. -/
theorem countP_upsert {holds : Row → Bool} (distinct : (rows.map key).Nodup)
    (uncounted : ∀ before, find key (key row) rows = some before → holds before = false) :
    (upsert key row rows).countP holds = rows.countP holds + if holds row then 1 else 0 := by
  by_cases there : key row ∈ rows.map key
  · obtain ⟨before, found⟩ := find_of_key there
    have keeps : KeepsKey key fun other => if key other = key row then row else other :=
      keepsKey_replace row
    have isRow := find_update_self keeps found
    rw [if_pos (key_of_find found)] at isRow
    have without := countP_filter_ne holds distinct found
    have distinctAfter : ((update key (key row) (fun other =>
        if key other = key row then row else other) rows).map key).Nodup := by
      rw [keys_update keeps]
      exact distinct
    rw [uncounted before found] at without
    rw [upsert_of_there there, countP_filter_ne holds distinctAfter isRow, filter_ne_update keeps,
      without]
    rfl
  · unfold upsert
    rw [if_neg there, List.countP_append, List.countP_singleton]

theorem mem_upsert {other : Row} (member : other ∈ upsert key row rows) :
    other = row ∨ other ∈ rows := by
  unfold upsert at member
  split at member
  · obtain ⟨before, inside, rfl⟩ := mem_update member
    split
    · exact Or.inl rfl
    · exact Or.inr inside
  · rcases List.mem_append.mp member with inside | isNew
    · exact Or.inr inside
    · exact Or.inl (List.mem_singleton.mp isNew)

/-- No key goes. -/
theorem key_mem_upsert (there : wanted ∈ rows.map key) :
    wanted ∈ (upsert key row rows).map key := by
  unfold upsert
  split
  · obtain ⟨stored, inside, isKey⟩ := List.mem_map.mp there
    unfold update
    rw [List.map_map]
    refine List.mem_map.mpr ⟨stored, inside, ?_⟩
    rw [Function.comp_apply]
    split
    · rename_i same
      exact same.symm.trans isKey
    · exact isKey
  · rw [List.map_append]
    exact List.mem_append_left _ there

/-- The sum of a column over the rows of a key. -/
def total {Amount : Type} [AddCommMonoid Amount] (key : Row → Key) (column : Row → Amount)
    (wanted : Key) (rows : List Row) : Amount :=
  ((rows.filter fun row => key row = wanted).map column).sum

/-- Rows of one key add to its total, and to no other. -/
theorem total_append {Amount : Type} [AddCommMonoid Amount] {column : Row → Amount}
    {added : List Row} (own : ∀ row ∈ added, key row = wanted) :
    total key column other (rows ++ added) =
      total key column other rows + if other = wanted then (added.map column).sum else 0 := by
  unfold total
  rw [List.filter_append, List.map_append, List.sum_append]
  congr 1
  split
  · rename_i same
    rw [List.filter_eq_self.mpr fun row member => decide_eq_true ((own row member).trans same.symm)]
  · rename_i different
    have none_there : (added.filter fun row => key row = other) = [] := by
      refine List.filter_eq_nil_iff.mpr ?_
      intro row member isOther
      exact different ((of_decide_eq_true isOther).symm.trans (own row member))
    rw [none_there]
    rfl

theorem total_cons {Amount : Type} [AddCommMonoid Amount] {column : Row → Amount} :
    total key column wanted (row :: rows) =
      (if key row = wanted then column row else 0) + total key column wanted rows := by
  unfold total
  rw [List.filter_cons]
  by_cases same : key row = wanted
  · rw [if_pos (decide_eq_true same), List.map_cons, List.sum_cons, if_pos same]
  · rw [if_neg (fun isKey => same (of_decide_eq_true isKey)), if_neg same, zero_add]

theorem total_concat {Amount : Type} [AddCommMonoid Amount] {column : Row → Amount}
    {more : List Row} :
    total key column wanted (rows ++ more) =
      total key column wanted rows + total key column wanted more := by
  unfold total
  rw [List.filter_append, List.map_append, List.sum_append]

theorem total_eq_zero {Amount : Type} [AddCommMonoid Amount] {column : Row → Amount}
    (absent : ∀ row ∈ rows, key row ≠ wanted) : total key column wanted rows = 0 := by
  have none_there : (rows.filter fun row => key row = wanted) = [] := by
    refine List.filter_eq_nil_iff.mpr ?_
    intro row member isWanted
    exact absent row member (of_decide_eq_true isWanted)
  unfold total
  rw [none_there]
  rfl

/-- Where keys are distinct a total is one row's. -/
theorem total_le_of_distinct {column : Row → Nat} {most : Nat} (distinct : (rows.map key).Nodup)
    (bounded : ∀ row ∈ rows, key row = wanted → column row ≤ most) :
    total key column wanted rows ≤ most := by
  induction rows with
  | nil => exact Nat.zero_le most
  | cons first rest ih =>
      obtain ⟨absent, restDistinct⟩ := List.nodup_cons.mp distinct
      rw [total_cons]
      by_cases same : key first = wanted
      · have others : total key column wanted rest = 0 :=
          total_eq_zero fun row member isKey =>
            absent (same.trans isKey.symm ▸ List.mem_map_of_mem member)
        rw [if_pos same, others]
        exact bounded first List.mem_cons_self same
      · rw [if_neg same, zero_add]
        exact ih restDistinct fun row member => bounded row (List.mem_cons_of_mem first member)

theorem sum_update {Amount : Type} [AddCommMonoid Amount] (column : Row → Amount)
    (change : Row → Row) {gain : Amount} (distinct : (rows.map key).Nodup)
    (found : find key wanted rows = some row) (gains : column (change row) = column row + gain) :
    ((update key wanted change rows).map column).sum = (rows.map column).sum + gain := by
  induction rows with
  | nil => cases found
  | cons first rest ih =>
      obtain ⟨absent, restDistinct⟩ := List.nodup_cons.mp distinct
      unfold update find at *
      rw [List.map_cons, List.map_cons, List.sum_cons, List.map_cons, List.sum_cons]
      by_cases same : key first = wanted
      · rw [List.find?_cons_of_pos (by simpa using same)] at found
        cases found
        have untouched : update key wanted change rest = rest := update_of_absent (same ▸ absent)
        unfold update at untouched
        rw [if_pos same, untouched, gains, add_assoc, add_assoc, add_comm gain]
      · rw [List.find?_cons_of_neg (by simpa using same)] at found
        rw [if_neg same, ih restDistinct found, add_assoc]

end Soulzaa.KeyedRows
