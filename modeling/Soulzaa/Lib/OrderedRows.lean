/-
Rows that a table hands out in the order of a key, no key twice.

Two such lists are the same when each key finds the same row in both.
-/

import Mathlib.Order.Lattice
import Soulzaa.Lib.KeyedRows

namespace Soulzaa.OrderedRows

open KeyedRows

variable {Row Key : Type} [LinearOrder Key]

def Ordered (key : Row → Key) (rows : List Row) : Prop :=
  rows.Pairwise fun first second => key first < key second

/-- A row whose key is there already is not inserted. -/
def insertNew (key : Row → Key) (row : Row) : List Row → List Row
  | [] => [row]
  | first :: rest =>
      if key row < key first then row :: first :: rest
      else if key row = key first then first :: rest
      else first :: insertNew key row rest

variable {key : Row → Key} {wanted : Key} {rows others : List Row} {row : Row}

theorem Ordered.distinct (ordered : Ordered key rows) : (rows.map key).Nodup := by
  refine List.pairwise_map.mpr (ordered.imp ?_)
  intro first second less
  exact less.ne

theorem find_none_of_lt (below : ∀ row ∈ rows, wanted < key row) : find key wanted rows = none := by
  refine List.find?_eq_none.mpr ?_
  intro row member same
  exact (below row member).ne' (of_decide_eq_true same)

theorem find_cons : find key wanted (row :: rows) =
    if key row = wanted then some row else find key wanted rows := by
  unfold find
  rw [List.find?_cons]
  by_cases same : key row = wanted
  · rw [decide_eq_true same, if_pos same]
  · rw [decide_eq_false same, if_neg same]

theorem mem_insertNew {other : Row} (member : other ∈ insertNew key row rows) :
    other = row ∨ other ∈ rows := by
  induction rows with
  | nil => exact .inl (List.mem_singleton.mp member)
  | cons first rest ih =>
      unfold insertNew at member
      split at member
      · exact List.mem_cons.mp member
      · split at member
        · exact .inr member
        · rcases List.mem_cons.mp member with rfl | later
          · exact .inr List.mem_cons_self
          · exact (ih later).imp_right (List.mem_cons_of_mem first)

theorem ordered_insertNew (ordered : Ordered key rows) : Ordered key (insertNew key row rows) := by
  induction rows with
  | nil => exact List.pairwise_singleton _ row
  | cons first rest ih =>
      obtain ⟨above, later⟩ := List.pairwise_cons.mp ordered
      unfold insertNew
      split
      · rename_i less
        refine List.pairwise_cons.mpr ⟨?_, ordered⟩
        intro other member
        rcases List.mem_cons.mp member with rfl | inRest
        · exact less
        · exact less.trans (above other inRest)
      · rename_i notLess
        split
        · exact ordered
        · rename_i different
          refine List.pairwise_cons.mpr ⟨?_, ih later⟩
          intro other member
          rcases mem_insertNew member with rfl | inRest
          · exact lt_of_le_of_ne (not_lt.mp notLess) (Ne.symm different)
          · exact above other inRest

theorem find_insertNew (ordered : Ordered key rows) :
    find key wanted (insertNew key row rows) =
      (find key wanted rows).or (if key row = wanted then some row else none) := by
  induction rows with
  | nil =>
      show find key wanted [row] = _
      rw [find_cons]
      rfl
  | cons first rest ih =>
      obtain ⟨above, later⟩ := List.pairwise_cons.mp ordered
      unfold insertNew
      split
      · rename_i less
        rw [find_cons]
        by_cases own : key row = wanted
        · have absent : find key wanted (first :: rest) = none := by
            refine find_none_of_lt ?_
            intro other member
            rw [← own]
            rcases List.mem_cons.mp member with rfl | inRest
            · exact less
            · exact less.trans (above other inRest)
          rw [if_pos own, absent, if_pos own]
          rfl
        · rw [if_neg own, if_neg own, Option.or_none]
      · split
        · rename_i same
          rw [find_cons]
          by_cases own : key first = wanted
          · rw [if_pos own]
            rfl
          · rw [if_neg own, if_neg (same ▸ own), Option.or_none]
        · rw [find_cons, find_cons, ih later]
          split
          · rfl
          · rfl

theorem ordered_update {change : Row → Row} (keeps : KeepsKey key change)
    (ordered : Ordered key rows) : Ordered key (update key wanted change rows) := by
  unfold Ordered at ordered ⊢
  rw [← List.pairwise_map (f := key)] at ordered ⊢
  rw [keys_update keeps]
  exact ordered

theorem ordered_filter (keeps : Row → Bool) (ordered : Ordered key rows) :
    Ordered key (rows.filter keeps) := List.Pairwise.filter keeps ordered

/-- A filter that goes by the key. -/
theorem find_filter (kept : Key → Bool) :
    find key wanted (rows.filter fun row => kept (key row)) =
      if kept wanted then find key wanted rows else none := by
  induction rows with
  | nil =>
      show none = if kept wanted then none else none
      rw [ite_self]
  | cons first rest ih =>
      rw [List.filter_cons, find_cons]
      by_cases own : key first = wanted
      · rw [own, if_pos rfl]
        split
        · rw [find_cons, if_pos own]
        · rename_i dropped
          rw [ih, if_neg dropped]
      · rw [if_neg own]
        split
        · rw [find_cons, if_neg own]
          exact ih
        · exact ih

/-- What each key finds is the whole list. -/
theorem eq_of_find (ordered : Ordered key rows) (others_ordered : Ordered key others)
    (same : ∀ wanted, find key wanted rows = find key wanted others) : rows = others := by
  induction rows generalizing others with
  | nil =>
      cases others with
      | nil => rfl
      | cons second rest =>
          have found := same (key second)
          rw [find_cons, if_pos rfl] at found
          cases found
  | cons first rest ih =>
      obtain ⟨above, later⟩ := List.pairwise_cons.mp ordered
      cases others with
      | nil =>
          have found := same (key first)
          rw [find_cons, if_pos rfl] at found
          cases found
      | cons second tail =>
          obtain ⟨aboveSecond, laterSecond⟩ := List.pairwise_cons.mp others_ordered
          have equalKeys : key first = key second := by
            rcases lt_trichotomy (key first) (key second) with less | equal | more
            · have found := same (key first)
              rw [find_cons, if_pos rfl, find_none_of_lt] at found
              · cases found
              · intro other member
                rcases List.mem_cons.mp member with rfl | inTail
                · exact less
                · exact less.trans (aboveSecond other inTail)
            · exact equal
            · have found := same (key second)
              rw [find_none_of_lt, find_cons, if_pos rfl] at found
              · cases found
              · intro other member
                rcases List.mem_cons.mp member with rfl | inRest
                · exact more
                · exact more.trans (above other inRest)
          have heads := same (key first)
          rw [find_cons, find_cons, if_pos rfl, if_pos equalKeys.symm] at heads
          obtain rfl := Option.some.inj heads
          congr 1
          refine ih later laterSecond ?_
          intro wanted
          by_cases own : key first = wanted
          · subst own
            rw [find_none_of_lt above, find_none_of_lt aboveSecond]
          · have found := same wanted
            rw [find_cons, find_cons, if_neg own, if_neg own] at found
            exact found

end Soulzaa.OrderedRows
