/-
The EXP of a month against the ledger, over whole runs.

What a progress row holds is compared with the awards of its month, less the reversals of
their purchases that were recorded in it.  The repository increments whatever the row
holds, so the two agree as long as every write finds a row of its own month, or an empty one.
-/

import Soulzaa.Lib.Bookkeeping
import Soulzaa.Wealth.Exp

namespace Soulzaa.Wealth

open Bookkeeping Tables WealthExpLedgerService WealthMonthlyResetService WealthRepository

/-- A purchase of a user in a month. -/
abbrev Purchase := UserId × PeriodKey × String

def WealthExpLedger.purchase (row : WealthExpLedger) : Purchase :=
  (row.userId, row.periodKey, row.sourceRef)

def WealthExpLedger.signed (row : WealthExpLedger) : Int :=
  match row.direction with
  | .award => row.amount
  | .reversal => -row.amount

def WealthExpLedger.posting (row : WealthExpLedger) : Posting Purchase Int :=
  { account := row.purchase
    amount := row.signed }

/-- The purchase was awarded to the user in the month. -/
def AwardedIn (rows : List WealthExpLedger) (purchase : Purchase) : Prop :=
  ∃ row ∈ rows, row.direction = .award ∧ row.purchase = purchase

instance (rows : List WealthExpLedger) (purchase : Purchase) : Decidable (AwardedIn rows purchase) :=
  inferInstanceAs (Decidable (∃ row ∈ rows, row.direction = .award ∧ row.purchase = purchase))

/-- The AWARD amounts of the user's purchases of the month. -/
def awardedExp (rows : List WealthExpLedger) (userId : UserId) (periodKey : PeriodKey) : Int :=
  ((rows.filter fun row =>
    row.direction = .award ∧ row.userId = userId ∧ row.periodKey = periodKey).map
      WealthExpLedger.amount).sum

/-- The REVERSAL amounts of the user's purchases of the month that were recorded in it. -/
def reversedExp (rows : List WealthExpLedger) (userId : UserId) (periodKey : PeriodKey) : Int :=
  ((rows.filter fun row =>
    row.direction = .reversal ∧ row.userId = userId ∧ row.periodKey = periodKey ∧
      AwardedIn rows row.purchase).map WealthExpLedger.amount).sum

/-- Every live row holds the EXP of its month. -/
def HoldsMonths (tables : Tables) : Prop :=
  ∀ progress ∈ tables.progress,
    progress.currentExp =
      max 0 (awardedExp tables.ledger.rows progress.userId progress.periodKey -
        reversedExp tables.ledger.rows progress.userId progress.periodKey)

/-! ### Runs -/

inductive WealthEvent where
  | award (input : WealthAwardInput)
  | reverse (input : WealthReverseInput)
  | reset (ending : Ending)
  | configure (levels : List WealthLevel) (downgradeConfig : WealthDowngradeConfig)
  | pass (months : Nat)

def step (tables : Tables) : WealthEvent → Tables
  | .award input =>
      match award tables input with
      | .ok (after, _) => after
      | .error _ => tables
  | .reverse input =>
      match reverse tables input with
      | .ok after => after
      | .error _ => tables
  | .reset ending => run tables ending
  | .configure levels downgradeConfig =>
      { tables with
        levels := levels
        downgradeConfig := downgradeConfig }
  | .pass months => { tables with currentPeriodKey := tables.currentPeriodKey + months }

/-- What an award answers is what is stored once it is done. -/
def AnswersStored (tables : Tables) : WealthEvent → Prop
  | .award input =>
      ∀ after result, award tables input = .ok (after, result) →
        result.currentExp = toNumber (storedExp (after.getProgress input.userId))
  | _ => True

/-- The call is refused, or was made before. -/
def Idle (tables : Tables) (amount : Int) (idempotencyKey : String) : Prop :=
  amount ≤ 0 ∨ tables.ledger.find? idempotencyKey ≠ none

/-- The row is of this month or empty, and no reversal of the purchase came first. -/
def FindsMonth (tables : Tables) (input : WealthAwardInput) : Prop :=
  (∀ progress ∈ tables.getProgress input.userId,
    progress.periodKey = tables.currentPeriodKey ∨ progress.currentExp = 0) ∧
  (AwardedIn tables.ledger.rows (input.userId, tables.currentPeriodKey, input.sourceRef) ∨
    ∀ row ∈ tables.ledger.rows,
      row.purchase ≠ (input.userId, tables.currentPeriodKey, input.sourceRef))

/-- A row of this month is written for a purchase of this month only, of which something
is outstanding; and no entry is left for one of which nothing is. -/
def ReversesMonth (tables : Tables) (input : WealthReverseInput) : Prop :=
  ∀ progress ∈ tables.getProgress input.userId, progress.periodKey = tables.currentPeriodKey →
    if AwardedIn tables.ledger.rows (input.userId, tables.currentPeriodKey, input.sourceRef) then
      0 < tables.netAwardedForSourceRef input.sourceRef ∧
        ∀ row ∈ tables.ledger.rows, row.direction = .award → row.sourceRef = input.sourceRef →
          row.purchase = (input.userId, tables.currentPeriodKey, input.sourceRef)
    else progress.currentExp = 0 ∨ tables.netAwardedForSourceRef input.sourceRef ≤ 0

/-- The run does not process a row of the new month that holds EXP. -/
def RollsOver (tables : Tables) (ending : Ending) : Prop :=
  startRun tables = none ∨
    ∀ userId ∈ ending.processed (tables.progress.map WealthUserProgress.userId),
      tables.history.find? (userId, previousPeriodKey tables.currentPeriodKey) ≠ none ∨
        ∀ progress ∈ tables.getProgress userId,
          progress.periodKey = tables.currentPeriodKey → progress.currentExp = 0

/-- The condition on a step of a run. -/
def InMonth (tables : Tables) : WealthEvent → Prop
  | .award input => Idle tables input.amount input.idempotencyKey ∨ FindsMonth tables input
  | .reverse input => Idle tables input.amount input.idempotencyKey ∨ ReversesMonth tables input
  | .reset ending => RollsOver tables ending
  | .configure _ _ => True
  | .pass _ => True

/-! ### The ledger of a month -/

variable {rows : List WealthExpLedger} {row : WealthExpLedger} {userId : UserId}
  {periodKey : PeriodKey} {purchase : Purchase}

def selects (rows : List WealthExpLedger) (userId : UserId) (periodKey : PeriodKey)
    (purchase : Purchase) : Bool :=
  purchase.1 = userId ∧ purchase.2.1 = periodKey ∧ AwardedIn rows purchase

/-- The postings to the purchases that were awarded to the user in the month. -/
def counted (rows : List WealthExpLedger) (userId : UserId) (periodKey : PeriodKey) : Int :=
  (((rows.map WealthExpLedger.posting).filter fun posting =>
    selects rows userId periodKey posting.account).map Posting.amount).sum

def heldFor (rows : List WealthExpLedger) (purchase : Purchase) : Int :=
  net (rows.map WealthExpLedger.posting) purchase

theorem selects_eq_true (userId : UserId) (periodKey : PeriodKey) :
    selects rows userId periodKey purchase = true ↔
      purchase.1 = userId ∧ purchase.2.1 = periodKey ∧ AwardedIn rows purchase :=
  decide_eq_true_iff

theorem awardedIn_of_mem (member : row ∈ rows) (isAward : row.direction = .award) :
    AwardedIn rows row.purchase := ⟨row, member, isAward, rfl⟩

theorem awardedIn_append_iff :
    AwardedIn (rows ++ [row]) purchase ↔
      AwardedIn rows purchase ∨ (row.direction = .award ∧ row.purchase = purchase) := by
  unfold AwardedIn
  simp only [List.mem_append, List.mem_singleton, or_and_right, exists_or, exists_eq_left]

theorem sum_filter_map {Row : Type} (part : List Row) (selected : Row → Bool) (amount : Row → Int) :
    ((part.filter selected).map amount).sum =
      (part.map fun row => if selected row then amount row else 0).sum := by
  induction part with
  | nil => rfl
  | cons first rest ih =>
      rw [List.filter_cons, List.map_cons, List.sum_cons, ← ih]
      split
      · rw [List.map_cons, List.sum_cons]
      · rw [zero_add]

/-- Each row is counted as an award, or taken off as a reversal, or neither. -/
theorem counted_row (member : row ∈ rows) (userId : UserId) (periodKey : PeriodKey) :
    (if selects rows userId periodKey row.purchase then row.signed else 0) =
      (if row.direction = .award ∧ row.userId = userId ∧ row.periodKey = periodKey then row.amount
        else 0) -
      (if row.direction = .reversal ∧ row.userId = userId ∧ row.periodKey = periodKey ∧
          AwardedIn rows row.purchase then row.amount else 0) := by
  have selected : selects rows userId periodKey row.purchase = true ↔
      row.userId = userId ∧ row.periodKey = periodKey ∧ AwardedIn rows row.purchase :=
    selects_eq_true userId periodKey
  unfold WealthExpLedger.signed
  cases direction : row.direction with
  | award =>
      have awarded := awardedIn_of_mem member direction
      simp only [selected, awarded, reduceCtorEq, false_and, and_true, true_and, if_false, sub_zero]
  | reversal =>
      simp only [selected, reduceCtorEq, false_and, true_and, if_false, zero_sub]
      by_cases counts : row.userId = userId ∧ row.periodKey = periodKey ∧
          AwardedIn rows row.purchase
      · rw [if_pos counts, if_pos counts]
      · rw [if_neg counts, if_neg counts]
        rfl

theorem counted_eq (rows : List WealthExpLedger) (userId : UserId) (periodKey : PeriodKey) :
    counted rows userId periodKey =
      awardedExp rows userId periodKey - reversedExp rows userId periodKey := by
  unfold counted awardedExp reversedExp
  rw [sum_filter_map, sum_filter_map, sum_filter_map, List.map_map]
  -- The rows that are counted are fixed; the induction is on those that are summed.
  have general : ∀ part : List WealthExpLedger, (∀ row ∈ part, row ∈ rows) →
      (part.map fun row =>
        if selects rows userId periodKey row.purchase then row.signed else 0).sum =
      (part.map fun row => if row.direction = .award ∧ row.userId = userId ∧
        row.periodKey = periodKey then row.amount else 0).sum -
      (part.map fun row => if row.direction = .reversal ∧ row.userId = userId ∧
        row.periodKey = periodKey ∧ AwardedIn rows row.purchase then row.amount else 0).sum := by
    intro part inside
    induction part with
    | nil => rfl
    | cons first rest ih =>
        have later := ih fun row member => inside row (List.mem_cons_of_mem first member)
        have here := counted_row (inside first List.mem_cons_self) userId periodKey
        simp only [List.map_cons, List.sum_cons]
        omega
  have whole := general rows fun _ member => member
  simp only [decide_eq_true_eq]
  exact whole

/-- A row counts for its purchase, once the purchase is awarded. -/
theorem counted_append (stable : row.direction = .award →
      AwardedIn rows row.purchase ∨ ∀ other ∈ rows, other.purchase ≠ row.purchase)
    (userId : UserId) (periodKey : PeriodKey) :
    counted (rows ++ [row]) userId periodKey =
      counted rows userId periodKey +
        (if selects (rows ++ [row]) userId periodKey row.purchase then row.signed else 0) := by
  have same : ∀ other ∈ rows, selects (rows ++ [row]) userId periodKey other.purchase =
      selects rows userId periodKey other.purchase := by
    intro other member
    rw [Bool.eq_iff_iff, selects_eq_true, selects_eq_true, awardedIn_append_iff]
    constructor
    · rintro ⟨isUser, isMonth, before | ⟨isAward, samePurchase⟩⟩
      · exact ⟨isUser, isMonth, before⟩
      · refine ⟨isUser, isMonth, ?_⟩
        rcases stable isAward with awarded | first
        · rw [← samePurchase]
          exact awarded
        · exact absurd samePurchase.symm (first other member)
    · rintro ⟨isUser, isMonth, before⟩
      exact ⟨isUser, isMonth, Or.inl before⟩
  unfold counted
  rw [List.map_append, List.filter_append, List.map_append, List.sum_append]
  congr 1
  · congr 2
    apply List.filter_congr
    intro posting member
    obtain ⟨other, inside, rfl⟩ := List.mem_map.mp member
    exact same other inside
  · rw [List.map_singleton, List.filter_singleton]
    have isSelected : selects (rows ++ [row]) userId periodKey row.posting.account =
        selects (rows ++ [row]) userId periodKey row.purchase := rfl
    rw [isSelected]
    cases selects (rows ++ [row]) userId periodKey row.purchase with
    | true => exact List.sum_singleton
    | false => rfl

theorem heldFor_append : heldFor (rows ++ [row]) purchase =
    heldFor rows purchase + (if row.purchase = purchase then row.signed else 0) := by
  unfold heldFor
  rw [List.map_append, net_append, List.map_singleton, net_cons, net_nil, add_zero]
  rfl

/-- No purchase of the month is reversed by more than it was awarded. -/
def Covered (rows : List WealthExpLedger) : Prop :=
  ∀ purchase, AwardedIn rows purchase → 0 ≤ heldFor rows purchase

theorem counted_nonneg (covered : Covered rows) (userId : UserId) (periodKey : PeriodKey) :
    0 ≤ counted rows userId periodKey := by
  apply sum_selected_nonneg
  intro purchase selected
  exact covered purchase ((selects_eq_true userId periodKey).mp selected).2.2

/-! ### Rows that hold their months -/

structure Settled (tables : Tables) : Prop where
  distinct : (tables.progress.map WealthUserProgress.userId).Nodup
  past : ∀ progress ∈ tables.progress, progress.periodKey ≤ tables.currentPeriodKey
  exact : ∀ progress ∈ tables.progress,
    progress.currentExp = counted tables.ledger.rows progress.userId progress.periodKey
  live : ∀ row ∈ tables.ledger.rows, row.direction = .award →
    ∃ progress, tables.getProgress row.userId = some progress ∧ row.periodKey ≤ progress.periodKey
  positive : ∀ row ∈ tables.ledger.rows, 0 ≤ row.amount
  covered : Covered tables.ledger.rows

variable {tables after : Tables} {progress : WealthUserProgress}

theorem holdsMonths_of_settled (settled : Settled tables) : HoldsMonths tables := by
  intro progress member
  have nonneg := counted_nonneg settled.covered progress.userId progress.periodKey
  rw [settled.exact progress member, ← counted_eq, max_eq_right nonneg]

theorem counted_of_unawarded (none : ∀ sourceRef, ¬AwardedIn rows (userId, periodKey, sourceRef)) :
    counted rows userId periodKey = 0 := by
  unfold counted
  rw [List.filter_eq_nil_iff.mpr, List.map_nil, List.sum_nil]
  intro posting member selected
  obtain ⟨isUser, isMonth, awarded⟩ := (selects_eq_true userId periodKey).mp selected
  apply none posting.account.2.2
  rw [← isUser, ← isMonth]
  exact awarded

theorem heldFor_of_absent (absent : ∀ row ∈ rows, row.purchase ≠ purchase) :
    heldFor rows purchase = 0 := by
  unfold heldFor net
  rw [List.filter_eq_nil_iff.mpr, List.map_nil, List.sum_nil]
  intro posting member isPurchase
  obtain ⟨row, inside, rfl⟩ := List.mem_map.mp member
  exact absent row inside (of_decide_eq_true isPurchase)

theorem progress_of_mem (settled : Settled tables) (member : progress ∈ tables.progress) :
    tables.getProgress progress.userId = some progress :=
  KeyedRows.find_of_mem settled.distinct member

theorem mem_of_getProgress (found : tables.getProgress userId = some progress) :
    progress ∈ tables.progress ∧ progress.userId = userId :=
  ⟨KeyedRows.mem_of_find found, KeyedRows.key_of_find found⟩

/-- A month the row has not come to, or a user without one, has no awards. -/
theorem counted_of_later (settled : Settled tables)
    (later : ∀ progress ∈ tables.getProgress userId, progress.periodKey < periodKey) :
    counted tables.ledger.rows userId periodKey = 0 := by
  apply counted_of_unawarded
  rintro sourceRef ⟨row, member, isAward, isPurchase⟩
  obtain ⟨progress, found, isLive⟩ := settled.live row member isAward
  have isUser : row.userId = userId := congrArg Prod.fst isPurchase
  have isMonth : row.periodKey = periodKey := congrArg (fun purchase => purchase.2.1) isPurchase
  rw [isUser] at found
  rw [isMonth] at isLive
  exact absurd isLive (Nat.not_le.mpr (later progress found))

theorem rows_of_addLedger (added : tables.addLedger row = some after) :
    after.ledger.rows = tables.ledger.rows ++ [row] ∧ after.progress = tables.progress ∧
      after.currentPeriodKey = tables.currentPeriodKey := by
  obtain ⟨ledger, created, rfl⟩ := Option.map_eq_some_iff.mp added
  exact ⟨(UniqueTable.rows_of_create created).2, rfl, rfl⟩

/-- Another month than the row's, or another user's, is as it was. -/
theorem counted_of_elsewhere (stable : row.direction = .award →
      AwardedIn rows row.purchase ∨ ∀ other ∈ rows, other.purchase ≠ row.purchase)
    (elsewhere : ¬(row.userId = userId ∧ row.periodKey = periodKey)) :
    counted (rows ++ [row]) userId periodKey = counted rows userId periodKey := by
  rw [counted_append stable, if_neg, add_zero]
  intro selected
  obtain ⟨isUser, isMonth, -⟩ := (selects_eq_true userId periodKey).mp selected
  exact elsewhere ⟨isUser, isMonth⟩

/-! ### An award -/

section Award

variable {input : WealthAwardInput}

theorem counted_awardRow (stable : AwardedIn rows (input.userId, periodKey, input.sourceRef) ∨
      ∀ row ∈ rows, row.purchase ≠ (input.userId, periodKey, input.sourceRef)) :
    counted (rows ++ [awardRow input periodKey]) input.userId periodKey =
      counted rows input.userId periodKey + input.amount := by
  have selected : selects (rows ++ [awardRow input periodKey]) input.userId periodKey
      (awardRow input periodKey).purchase = true :=
    (selects_eq_true _ _).mpr ⟨rfl, rfl, awardedIn_append_iff.mpr (Or.inr ⟨rfl, rfl⟩)⟩
  rw [counted_append fun _ => stable, if_pos selected]
  rfl

theorem covered_awardRow (covered : Covered rows) (positive : 0 < input.amount)
    (stable : AwardedIn rows (input.userId, periodKey, input.sourceRef) ∨
      ∀ row ∈ rows, row.purchase ≠ (input.userId, periodKey, input.sourceRef)) :
    Covered (rows ++ [awardRow input periodKey]) := by
  intro purchase awarded
  have adds : 0 ≤ if (awardRow input periodKey).purchase = purchase then
      (awardRow input periodKey).signed else 0 := by
    split
    · exact le_of_lt positive
    · exact le_refl 0
  rw [heldFor_append]
  rcases awardedIn_append_iff.mp awarded with before | ⟨-, isPurchase⟩
  · exact add_nonneg (covered purchase before) adds
  · rcases stable with before | first
    · rw [← isPurchase] at adds ⊢
      exact add_nonneg (covered _ before) adds
    · have absent : ∀ row ∈ rows, row.purchase ≠ purchase := by
        rw [← isPurchase]
        exact first
      rw [heldFor_of_absent absent, zero_add]
      exact adds

theorem counted_of_findsMonth (settled : Settled tables) (finds : FindsMonth tables input) :
    counted tables.ledger.rows input.userId tables.currentPeriodKey =
      storedExp (tables.getProgress input.userId) := by
  cases found : tables.getProgress input.userId with
  | none =>
      apply counted_of_later settled
      intro progress isRow
      rw [found] at isRow
      cases isRow
  | some progress =>
      obtain ⟨member, isUser⟩ := mem_of_getProgress found
      have exact := settled.exact progress member
      unfold storedExp
      dsimp only
      by_cases isMonth : progress.periodKey = tables.currentPeriodKey
      · rw [exact, isUser, isMonth]
      · have empty := (finds.1 progress found).resolve_left isMonth
        have past := settled.past progress member
        rw [empty]
        apply counted_of_later settled
        intro other isRow
        rw [found] at isRow
        cases isRow
        exact lt_of_le_of_ne past isMonth

theorem baseExp_of_findsMonth (finds : FindsMonth tables input) :
    baseExp (tables.getProgress input.userId) tables.currentPeriodKey =
      storedExp (tables.getProgress input.userId) := by
  cases found : tables.getProgress input.userId with
  | none => rfl
  | some progress =>
      unfold baseExp storedExp
      dsimp only
      split
      · rfl
      · rename_i isOther
        exact ((finds.1 progress found).resolve_left isOther).symm

end Award

theorem getProgress_changeProgress {change : WealthUserProgress → WealthUserProgress}
    (keeps : KeyedRows.KeepsKey WealthUserProgress.userId change) (userId other : UserId) :
    (tables.changeProgress userId change).getProgress other =
      if other = userId then (tables.getProgress other).map change else tables.getProgress other :=
  KeyedRows.find_update_eq_ite keeps

theorem keeps_awarded (amount newLevel : Int) (periodKey : PeriodKey) :
    KeyedRows.KeepsKey WealthUserProgress.userId (awarded amount newLevel periodKey) := fun _ => rfl

theorem keeps_reversed (newExp newLevel : Int) :
    KeyedRows.KeepsKey WealthUserProgress.userId (reversed newExp newLevel) := fun _ => rfl

theorem keeps_rolledOver (newPeriodKey : PeriodKey) (level : Int) :
    KeyedRows.KeepsKey WealthUserProgress.userId (rolledOver newPeriodKey level) := fun _ => rfl

theorem distinct_changeProgress {change : WealthUserProgress → WealthUserProgress}
    (keeps : KeyedRows.KeepsKey WealthUserProgress.userId change)
    (distinct : (tables.progress.map WealthUserProgress.userId).Nodup) (userId : UserId) :
    ((tables.changeProgress userId change).progress.map WealthUserProgress.userId).Nodup := by
  unfold changeProgress
  rw [KeyedRows.keys_update keeps]
  exact distinct

/-- The row of the user after an award. -/
theorem getProgress_upsertProgress (tables : Tables) (input : WealthAwardInput)
    (periodKey : PeriodKey) (newLevel : Int) :
    (upsertProgress tables input periodKey newLevel).getProgress input.userId =
      some
        { userId := input.userId
          currentExp := storedExp (tables.getProgress input.userId) + input.amount
          currentLevel := newLevel
          periodKey := periodKey } := by
  unfold upsertProgress
  cases found : tables.getProgress input.userId with
  | some progress =>
      dsimp only
      rw [getProgress_changeProgress (keeps_awarded _ _ _), if_pos rfl, found, Option.map_some]
      have isUser : progress.userId = input.userId := (mem_of_getProgress found).2
      rw [← isUser]
      rfl
  | none =>
      unfold getProgress addProgress at *
      dsimp only
      rw [KeyedRows.find_concat, found, Option.none_or, if_pos rfl]
      unfold storedExp
      rw [zero_add]

theorem getProgress_upsertProgress_other (tables : Tables) (input : WealthAwardInput)
    (periodKey : PeriodKey) (newLevel : Int) {other : UserId} (isOther : other ≠ input.userId) :
    (upsertProgress tables input periodKey newLevel).getProgress other =
      tables.getProgress other := by
  unfold upsertProgress
  split
  · rw [getProgress_changeProgress (keeps_awarded _ _ _), if_neg isOther]
  · unfold getProgress addProgress
    rw [KeyedRows.find_concat, if_neg (Ne.symm isOther), Option.or_none]

theorem distinct_upsertProgress (distinct : (tables.progress.map WealthUserProgress.userId).Nodup)
    (input : WealthAwardInput) (periodKey : PeriodKey) (newLevel : Int) :
    ((upsertProgress tables input periodKey newLevel).progress.map
      WealthUserProgress.userId).Nodup := by
  unfold upsertProgress
  split
  · exact distinct_changeProgress (keeps_awarded _ _ _) distinct _
  · rename_i absent
    unfold addProgress
    rw [List.map_append, List.map_singleton]
    refine List.Nodup.append distinct (List.nodup_singleton _)
      (List.disjoint_singleton.mpr ?_)
    intro taken
    obtain ⟨progress, member, isUser⟩ := List.mem_map.mp taken
    have missed := List.find?_eq_none.mp absent progress member
    exact missed (decide_eq_true isUser)

/-- Of the rows one user's is written, and the ledger gets one row, of the clock's month. -/
structure Writes (tables after : Tables) (row : WealthExpLedger) : Prop where
  rows : after.ledger.rows = tables.ledger.rows ++ [row]
  month : row.periodKey = tables.currentPeriodKey
  clock : after.currentPeriodKey = tables.currentPeriodKey
  distinct : (after.progress.map WealthUserProgress.userId).Nodup
  others : ∀ userId, userId ≠ row.userId → after.getProgress userId = tables.getProgress userId

/-- The user's row agrees with the ledger, so all rows do. -/
theorem settled_of_writes (settled : Settled tables) {row : WealthExpLedger}
    (writes : Writes tables after row)
    (stable : row.direction = .award →
      AwardedIn tables.ledger.rows row.purchase ∨
        ∀ other ∈ tables.ledger.rows, other.purchase ≠ row.purchase)
    (own : ∀ progress ∈ after.getProgress row.userId,
      progress.periodKey ≤ tables.currentPeriodKey ∧
        progress.currentExp = counted after.ledger.rows row.userId progress.periodKey)
    (live : ∀ progress ∈ tables.getProgress row.userId,
      ∃ later ∈ after.getProgress row.userId, progress.periodKey ≤ later.periodKey)
    (ownLive : row.direction = .award →
      ∃ later ∈ after.getProgress row.userId, row.periodKey ≤ later.periodKey)
    (positive : 0 ≤ row.amount) (covered : Covered after.ledger.rows) : Settled after := by
  have kept : ∀ progress ∈ after.progress, progress.userId ≠ row.userId →
      progress ∈ tables.progress := by
    intro progress member isOther
    have found : after.getProgress progress.userId = some progress :=
      KeyedRows.find_of_mem writes.distinct member
    rw [writes.others _ isOther] at found
    exact (mem_of_getProgress found).1
  have ownRow : ∀ progress ∈ after.progress, progress.userId = row.userId →
      after.getProgress row.userId = some progress := by
    intro progress member isUser
    rw [← isUser]
    exact KeyedRows.find_of_mem writes.distinct member
  refine ⟨writes.distinct, ?_, ?_, ?_, ?_, covered⟩
  · intro progress member
    rw [writes.clock]
    by_cases isUser : progress.userId = row.userId
    · exact (own progress (ownRow progress member isUser)).1
    · exact settled.past progress (kept progress member isUser)
  · intro progress member
    by_cases isUser : progress.userId = row.userId
    · rw [isUser]
      exact (own progress (ownRow progress member isUser)).2
    · rw [settled.exact progress (kept progress member isUser), writes.rows,
        counted_of_elsewhere stable fun both => isUser both.1.symm]
  · intro entry member isAward
    rw [writes.rows] at member
    rcases List.mem_append.mp member with inside | added
    · obtain ⟨progress, found, isLive⟩ := settled.live entry inside isAward
      by_cases isUser : entry.userId = row.userId
      · rw [isUser] at found ⊢
        obtain ⟨later, isLater, ordered⟩ := live progress found
        exact ⟨later, isLater, isLive.trans ordered⟩
      · rw [writes.others _ isUser]
        exact ⟨progress, found, isLive⟩
    · rw [List.mem_singleton.mp added] at isAward ⊢
      exact ownLive isAward
  · intro entry member
    rw [writes.rows] at member
    rcases List.mem_append.mp member with inside | added
    · exact settled.positive entry inside
    · rw [List.mem_singleton.mp added]
      exact positive

theorem same_of_idleAward {input : WealthAwardInput} {result : WealthAwardResult}
    (idle : Idle tables input.amount input.idempotencyKey)
    (awards : award tables input = .ok (after, result)) : after = tables := by
  unfold award at awards
  split at awards
  · cases awards
  · rename_i positive
    dsimp only at awards
    split at awards
    · cases awards
      rfl
    · rename_i isNew
      exact absurd isNew (idle.resolve_left positive)

/-- A repeated award answers what the row holds, whatever its month. -/
theorem answer_of_idleAward {input : WealthAwardInput} {result : WealthAwardResult}
    (idle : Idle tables input.amount input.idempotencyKey)
    (awards : award tables input = .ok (after, result)) :
    result.currentExp = toNumber (storedExp (tables.getProgress input.userId)) := by
  unfold award at awards
  split at awards
  · cases awards
  · rename_i positive
    dsimp only at awards
    split at awards
    · cases awards
      rfl
    · rename_i isNew
      exact absurd isNew (idle.resolve_left positive)

/-- A fresh award: the row and the ledger get the amount, and the answer is the row's EXP. -/
theorem award_of_fresh {input : WealthAwardInput} {result : WealthAwardResult}
    (fresh : ¬Idle tables input.amount input.idempotencyKey)
    (awards : award tables input = .ok (after, result)) :
    result.currentExp = toNumber (baseExp (tables.getProgress input.userId)
        tables.currentPeriodKey + input.amount) ∧
      ∃ newLevel, applyAward tables input tables.currentPeriodKey newLevel = some after := by
  obtain ⟨positive, isNew⟩ := not_or.mp fresh
  unfold award at awards
  rw [if_neg positive, Decidable.of_not_not isNew] at awards
  dsimp only at awards
  split at awards
  · cases awards
  · rename_i stored applies
    cases awards
    exact ⟨rfl, _, applies⟩

theorem getProgress_applyAward {input : WealthAwardInput} {newLevel : Int}
    (applies : applyAward tables input periodKey newLevel = some after) (userId : UserId) :
    after.getProgress userId =
      (upsertProgress tables input periodKey newLevel).getProgress userId := by
  unfold getProgress
  rw [(rows_of_addLedger applies).2.1]

theorem ledger_upsertProgress (tables : Tables) (input : WealthAwardInput) (periodKey : PeriodKey)
    (newLevel : Int) :
    (upsertProgress tables input periodKey newLevel).ledger = tables.ledger ∧
      (upsertProgress tables input periodKey newLevel).currentPeriodKey =
        tables.currentPeriodKey := by
  unfold upsertProgress
  split <;> exact ⟨rfl, rfl⟩

theorem settled_applyAward (settled : Settled tables) {input : WealthAwardInput}
    (positive : 0 < input.amount) (finds : FindsMonth tables input) {newLevel : Int}
    (applies : applyAward tables input tables.currentPeriodKey newLevel = some after) :
    Settled after := by
  obtain ⟨rows, progress, clock⟩ := rows_of_addLedger applies
  obtain ⟨ledger, sameClock⟩ :=
    ledger_upsertProgress tables input tables.currentPeriodKey newLevel
  rw [ledger] at rows
  have own : after.getProgress input.userId = some
      { userId := input.userId
        currentExp := storedExp (tables.getProgress input.userId) + input.amount
        currentLevel := newLevel
        periodKey := tables.currentPeriodKey } :=
    (getProgress_applyAward applies _).trans (getProgress_upsertProgress _ _ _ _)
  have writes : Writes tables after (awardRow input tables.currentPeriodKey) := by
    refine ⟨rows, rfl, clock.trans sameClock, ?_, ?_⟩
    · rw [progress]
      exact distinct_upsertProgress settled.distinct _ _ _
    · intro userId isOther
      rw [getProgress_applyAward applies]
      exact getProgress_upsertProgress_other tables input _ newLevel isOther
  refine settled_of_writes settled writes (fun _ => finds.2) ?_ ?_ ?_ (le_of_lt positive) ?_
  · intro row isRow
    change row ∈ after.getProgress input.userId at isRow
    rw [own] at isRow
    cases isRow
    refine ⟨le_refl _, ?_⟩
    rw [rows]
    change _ = counted (tables.ledger.rows ++ [awardRow input tables.currentPeriodKey])
      input.userId tables.currentPeriodKey
    rw [counted_awardRow finds.2, counted_of_findsMonth settled finds]
  · intro row isRow
    exact ⟨_, own, settled.past row (mem_of_getProgress isRow).1⟩
  · intro _
    exact ⟨_, own, le_refl _⟩
  · rw [rows]
    exact covered_awardRow settled.covered positive finds.2

/-! ### A reversal -/

section Reversal

variable {input : WealthReverseInput}

theorem netAwarded_le_heldFor (positive : ∀ row ∈ tables.ledger.rows, 0 ≤ row.amount)
    (only : ∀ row ∈ tables.ledger.rows, row.direction = .award → row.sourceRef = input.sourceRef →
      row.purchase = (input.userId, periodKey, input.sourceRef)) :
    tables.netAwardedForSourceRef input.sourceRef ≤
      heldFor tables.ledger.rows (input.userId, periodKey, input.sourceRef) := by
  have signedOf : ∀ row : WealthExpLedger, (match row.direction with
      | .award => row.amount
      | .reversal => -row.amount) = row.signed := fun _ => rfl
  unfold netAwardedForSourceRef heldFor net
  rw [sum_filter_map, sum_filter_map, List.map_map]
  apply List.sum_le_sum
  intro row member
  change (if decide (row.sourceRef = input.sourceRef) = true then row.signed else 0) ≤
    if decide (row.purchase = (input.userId, periodKey, input.sourceRef)) = true then row.signed
      else 0
  simp only [decide_eq_true_eq]
  by_cases isSource : row.sourceRef = input.sourceRef
  · rw [if_pos isSource]
    split
    · exact le_refl _
    · rename_i isOther
      have amount := positive row member
      unfold WealthExpLedger.signed
      cases direction : row.direction with
      | award => exact absurd (only row member direction isSource) isOther
      | reversal => exact neg_nonpos.mpr amount
  · have isOther : row.purchase ≠ (input.userId, periodKey, input.sourceRef) :=
      fun same => isSource (congrArg (fun purchase => purchase.2.2) same)
    rw [if_neg isSource, if_neg isOther]

/-- The amount that is recorded. -/
def recordedAmount (tables : Tables) (input : WealthReverseInput) : Int :=
  if 0 < min input.amount (tables.netAwardedForSourceRef input.sourceRef) then
    min input.amount (tables.netAwardedForSourceRef input.sourceRef)
  else input.amount

/-- The EXP and level that are written, if the row is of this month. -/
def writtenBy (tables : Tables) (input : WealthReverseInput) : Option (Int × Int) :=
  if (tables.getProgress input.userId).map WealthUserProgress.periodKey =
      some tables.currentPeriodKey ∧
        0 < min input.amount (tables.netAwardedForSourceRef input.sourceRef) then
    let newExp := max 0 (storedExp (tables.getProgress input.userId) -
      min input.amount (tables.netAwardedForSourceRef input.sourceRef))
    some (newExp, levelForExp tables.levels newExp)
  else none

theorem same_of_idleReverse (idle : Idle tables input.amount input.idempotencyKey)
    (reverses : reverse tables input = .ok after) : after = tables := by
  unfold reverse at reverses
  split at reverses
  · cases reverses
  · rename_i positive
    split at reverses
    · cases reverses
      rfl
    · rename_i isNew
      exact absurd isNew (idle.resolve_left positive)

theorem reverse_of_fresh (fresh : ¬Idle tables input.amount input.idempotencyKey)
    (reverses : reverse tables input = .ok after) :
    applyReversal tables input (recordedAmount tables input) tables.currentPeriodKey
      (writtenBy tables input) = some after := by
  obtain ⟨positive, isNew⟩ := not_or.mp fresh
  unfold reverse at reverses
  rw [if_neg positive, Decidable.of_not_not isNew] at reverses
  dsimp only at reverses
  split at reverses
  · cases reverses
  · rename_i stored applies
    cases reverses
    exact applies

/-- The user of a purchase of this month has a row of this month. -/
theorem current_of_awardedIn (settled : Settled tables) {sourceRef : String}
    (awarded : AwardedIn tables.ledger.rows (userId, tables.currentPeriodKey, sourceRef)) :
    ∃ progress, tables.getProgress userId = some progress ∧
      progress.periodKey = tables.currentPeriodKey := by
  obtain ⟨row, member, isAward, isPurchase⟩ := awarded
  obtain ⟨progress, found, isLive⟩ := settled.live row member isAward
  have isUser : row.userId = userId := congrArg Prod.fst isPurchase
  have isMonth : row.periodKey = tables.currentPeriodKey :=
    congrArg (fun purchase => purchase.2.1) isPurchase
  rw [isUser] at found
  rw [isMonth] at isLive
  exact ⟨progress, found, le_antisymm (settled.past progress (mem_of_getProgress found).1) isLive⟩

theorem counted_reversalRow (input : WealthReverseInput) (amount : Int) (month : PeriodKey) :
    counted (rows ++ [reversalRow input amount month]) input.userId month =
      counted rows input.userId month -
        (if AwardedIn rows (input.userId, month, input.sourceRef) then amount else 0) := by
  have unaward : (reversalRow input amount month).direction = .award →
      AwardedIn rows (reversalRow input amount month).purchase ∨
        ∀ other ∈ rows, other.purchase ≠ (reversalRow input amount month).purchase :=
    fun isAward => nomatch isAward
  have selected : selects (rows ++ [reversalRow input amount month]) input.userId month
      (reversalRow input amount month).purchase = true ↔
        AwardedIn rows (input.userId, month, input.sourceRef) := by
    rw [selects_eq_true, awardedIn_append_iff]
    constructor
    · rintro ⟨-, -, before | ⟨isAward, -⟩⟩
      · exact before
      · cases isAward
    · intro before
      exact ⟨rfl, rfl, Or.inl before⟩
  rw [counted_append unaward, sub_eq_add_neg]
  congr 1
  by_cases awarded : AwardedIn rows (input.userId, month, input.sourceRef)
  · rw [if_pos (selected.mpr awarded), if_pos awarded]
    rfl
  · rw [if_neg fun isSelected => awarded (selected.mp isSelected), if_neg awarded, neg_zero]

/-- What the condition says of the user's row, once it is of this month. -/
theorem purchase_of_reversesMonth (reversesMonth : ReversesMonth tables input)
    (found : tables.getProgress input.userId = some progress)
    (isMonth : progress.periodKey = tables.currentPeriodKey) :
    (AwardedIn tables.ledger.rows (input.userId, tables.currentPeriodKey, input.sourceRef) →
      0 < tables.netAwardedForSourceRef input.sourceRef ∧
        ∀ row ∈ tables.ledger.rows, row.direction = .award → row.sourceRef = input.sourceRef →
          row.purchase = (input.userId, tables.currentPeriodKey, input.sourceRef)) ∧
    (¬AwardedIn tables.ledger.rows (input.userId, tables.currentPeriodKey, input.sourceRef) →
      progress.currentExp = 0 ∨ tables.netAwardedForSourceRef input.sourceRef ≤ 0) := by
  have clean := reversesMonth progress found isMonth
  constructor
  · intro awarded
    rw [if_pos awarded] at clean
    exact clean
  · intro unawarded
    rw [if_neg unawarded] at clean
    exact clean

theorem covered_reversalRow (settled : Settled tables) (positive : 0 < input.amount)
    (reversesMonth : ReversesMonth tables input) :
    Covered (tables.ledger.rows ++
      [reversalRow input (recordedAmount tables input) tables.currentPeriodKey]) := by
  intro purchase awarded
  have before : AwardedIn tables.ledger.rows purchase := by
    rcases awardedIn_append_iff.mp awarded with before | ⟨isAward, -⟩
    · exact before
    · cases isAward
  have held := settled.covered purchase before
  rw [heldFor_append]
  split
  · rename_i isPurchase
    subst isPurchase
    obtain ⟨progress, found, isMonth⟩ := current_of_awardedIn settled before
    obtain ⟨outstanding, only⟩ :=
      (purchase_of_reversesMonth reversesMonth found isMonth).1 before
    have atMost := netAwarded_le_heldFor settled.positive only
    have taken : recordedAmount tables input ≤
        tables.netAwardedForSourceRef input.sourceRef := by
      unfold recordedAmount
      rw [if_pos (lt_min positive outstanding)]
      exact min_le_right _ _
    change 0 ≤ heldFor tables.ledger.rows
      (input.userId, tables.currentPeriodKey, input.sourceRef) + -recordedAmount tables input
    omega
  · rw [add_zero]
    exact held

theorem recordedAmount_pos (positive : 0 < input.amount) : 0 < recordedAmount tables input := by
  unfold recordedAmount
  split
  · assumption
  · exact positive

/-- The row after a reversal of something outstanding. -/
theorem exp_of_reversed (settled : Settled tables) (positive : 0 < input.amount)
    (reversesMonth : ReversesMonth tables input)
    (found : tables.getProgress input.userId = some progress)
    (isMonth : progress.periodKey = tables.currentPeriodKey)
    (outstanding : 0 < min input.amount (tables.netAwardedForSourceRef input.sourceRef)) :
    max 0 (progress.currentExp - min input.amount (tables.netAwardedForSourceRef input.sourceRef)) =
      counted (tables.ledger.rows ++
        [reversalRow input (recordedAmount tables input) tables.currentPeriodKey])
          input.userId tables.currentPeriodKey := by
  obtain ⟨member, isUser⟩ := mem_of_getProgress found
  have exact := settled.exact progress member
  rw [isUser, isMonth] at exact
  have recorded : recordedAmount tables input =
      min input.amount (tables.netAwardedForSourceRef input.sourceRef) := if_pos outstanding
  have covered := covered_reversalRow settled positive reversesMonth
  have nonneg := counted_nonneg covered input.userId tables.currentPeriodKey
  rw [counted_reversalRow] at nonneg ⊢
  by_cases awarded : AwardedIn tables.ledger.rows
      (input.userId, tables.currentPeriodKey, input.sourceRef)
  · rw [if_pos awarded] at nonneg ⊢
    rw [recorded] at nonneg ⊢
    rw [exact]
    exact max_eq_right nonneg
  · rw [if_neg awarded, ← exact, sub_zero]
    have net := lt_of_lt_of_le outstanding (min_le_right _ _)
    have empty := ((purchase_of_reversesMonth reversesMonth found isMonth).2 awarded).resolve_right
      (Int.not_le.mpr net)
    rw [empty, zero_sub]
    exact max_eq_left (by omega)

/-- The row that is not written, because it is of another month or nothing is outstanding. -/
theorem exp_of_unreversed (settled : Settled tables) (positive : 0 < input.amount)
    (reversesMonth : ReversesMonth tables input)
    (found : tables.getProgress input.userId = some progress)
    (unwritten : ¬(progress.periodKey = tables.currentPeriodKey ∧
      0 < min input.amount (tables.netAwardedForSourceRef input.sourceRef))) :
    progress.currentExp =
      counted (tables.ledger.rows ++
        [reversalRow input (recordedAmount tables input) tables.currentPeriodKey])
          input.userId progress.periodKey := by
  obtain ⟨member, isUser⟩ := mem_of_getProgress found
  have exact := settled.exact progress member
  rw [isUser] at exact
  rw [exact]
  by_cases isMonth : progress.periodKey = tables.currentPeriodKey
  · have unawarded : ¬AwardedIn tables.ledger.rows
        (input.userId, tables.currentPeriodKey, input.sourceRef) := by
      intro awarded
      have clean := (purchase_of_reversesMonth reversesMonth found isMonth).1 awarded
      exact unwritten ⟨isMonth, lt_min positive clean.1⟩
    rw [isMonth, counted_reversalRow, if_neg unawarded, sub_zero]
  · have unaward : (reversalRow input (recordedAmount tables input)
        tables.currentPeriodKey).direction = .award →
          AwardedIn tables.ledger.rows (input.userId, tables.currentPeriodKey, input.sourceRef) ∨
            ∀ other ∈ tables.ledger.rows,
              other.purchase ≠ (input.userId, tables.currentPeriodKey, input.sourceRef) :=
      fun isAward => nomatch isAward
    rw [counted_of_elsewhere unaward fun both => isMonth both.2.symm]

theorem settled_applyReversal (settled : Settled tables) (positive : 0 < input.amount)
    (reversesMonth : ReversesMonth tables input)
    (applies : applyReversal tables input (recordedAmount tables input) tables.currentPeriodKey
      (writtenBy tables input) = some after) : Settled after := by
  have covered := covered_reversalRow settled positive reversesMonth
  have unaward : (reversalRow input (recordedAmount tables input)
      tables.currentPeriodKey).direction = .award → ∀ {goal : Prop}, goal :=
    fun isAward => nomatch isAward
  have recorded : 0 ≤ recordedAmount tables input := le_of_lt (recordedAmount_pos positive)
  unfold applyReversal at applies
  cases isWritten : writtenBy tables input with
  | none =>
      rw [isWritten] at applies
      obtain ⟨rows, sameProgress, clock⟩ := rows_of_addLedger applies
      have same : ∀ userId, after.getProgress userId = tables.getProgress userId := by
        intro userId
        unfold getProgress
        rw [sameProgress]
      have writes : Writes tables after
          (reversalRow input (recordedAmount tables input) tables.currentPeriodKey) := by
        refine ⟨rows, rfl, clock, ?_, fun userId _ => same userId⟩
        rw [sameProgress]
        exact settled.distinct
      refine settled_of_writes settled writes (fun isAward => unaward isAward) ?_ ?_
        (fun isAward => unaward isAward) recorded (rows ▸ covered)
      · intro progress isRow
        rw [same] at isRow
        refine ⟨settled.past progress (mem_of_getProgress isRow).1, ?_⟩
        rw [rows]
        apply exp_of_unreversed settled positive reversesMonth isRow
        rintro ⟨isMonth, outstanding⟩
        have isCurrent : (tables.getProgress input.userId).map WealthUserProgress.periodKey =
            some tables.currentPeriodKey := by
          rw [show tables.getProgress input.userId = some progress from isRow, Option.map_some,
            isMonth]
        unfold writtenBy at isWritten
        rw [if_pos ⟨isCurrent, outstanding⟩] at isWritten
        cases isWritten
      · intro progress isRow
        rw [same]
        exact ⟨progress, isRow, le_refl _⟩
  | some pair =>
      obtain ⟨newExp, newLevel⟩ := pair
      rw [isWritten] at applies
      obtain ⟨changedRows, sameProgress, clock⟩ := rows_of_addLedger applies
      have rows : after.ledger.rows = tables.ledger.rows ++
          [reversalRow input (recordedAmount tables input) tables.currentPeriodKey] := changedRows
      have same : ∀ userId, after.getProgress userId =
          (tables.changeProgress input.userId (reversed newExp newLevel)).getProgress userId := by
        intro userId
        unfold getProgress
        rw [sameProgress]
      have writes : Writes tables after
          (reversalRow input (recordedAmount tables input) tables.currentPeriodKey) := by
        refine ⟨rows, rfl, clock, ?_, ?_⟩
        · rw [sameProgress]
          exact distinct_changeProgress (keeps_reversed _ _) settled.distinct _
        · intro userId isOther
          rw [same, getProgress_changeProgress (keeps_reversed _ _)]
          exact if_neg isOther
      have own : after.getProgress input.userId =
          (tables.getProgress input.userId).map (reversed newExp newLevel) := by
        rw [same, getProgress_changeProgress (keeps_reversed _ _), if_pos rfl]
      unfold writtenBy at isWritten
      split at isWritten
      · rename_i both
        obtain ⟨isCurrent, outstanding⟩ := both
        cases isWritten
        obtain ⟨progress, found, isMonth⟩ := Option.map_eq_some_iff.mp isCurrent
        refine settled_of_writes settled writes (fun isAward => unaward isAward) ?_ ?_
          (fun isAward => unaward isAward) recorded (rows ▸ covered)
        · intro row isRow
          change row ∈ after.getProgress input.userId at isRow
          rw [own, found] at isRow
          cases isRow
          refine ⟨le_of_eq isMonth, ?_⟩
          rw [rows]
          change _ = counted _ input.userId progress.periodKey
          rw [isMonth, ← exp_of_reversed settled positive reversesMonth found isMonth outstanding]
          rfl
        · intro row isRow
          change row ∈ tables.getProgress input.userId at isRow
          change ∃ later ∈ after.getProgress input.userId, _
          rw [own, isRow]
          exact ⟨_, rfl, le_refl _⟩
      · cases isWritten

end Reversal

/-! ### A reset -/

/-- The user was processed before, or his row holds no EXP of the new month. -/
def Rolls (tables : Tables) (closingPeriodKey : PeriodKey) (userId : UserId) : Prop :=
  tables.history.find? (userId, closingPeriodKey) ≠ none ∨
    ∀ progress ∈ tables.getProgress userId,
      progress.periodKey = tables.currentPeriodKey → progress.currentExp = 0

theorem settled_of_same (settled : Settled tables) (progress : after.progress = tables.progress)
    (ledger : after.ledger = tables.ledger)
    (later : tables.currentPeriodKey ≤ after.currentPeriodKey) : Settled after := by
  have same : ∀ userId, after.getProgress userId = tables.getProgress userId := by
    intro userId
    unfold getProgress
    rw [progress]
  refine ⟨?_, ?_, ?_, ?_, ?_, ?_⟩
  · rw [progress]
    exact settled.distinct
  · intro row member
    rw [progress] at member
    exact (settled.past row member).trans later
  · rw [progress, ledger]
    exact settled.exact
  · rw [ledger]
    intro row member isAward
    rw [same]
    exact settled.live row member isAward
  · rw [ledger]
    exact settled.positive
  · rw [ledger]
    exact settled.covered

/-- A row that is rolled over holds nothing, and its new month has no EXP yet. -/
theorem settled_resetProgress (settled : Settled tables) (level : Int)
    (rolls : ∀ progress ∈ tables.getProgress userId,
      progress.periodKey = tables.currentPeriodKey → progress.currentExp = 0) :
    Settled (resetProgressForNewMonth tables userId tables.currentPeriodKey level) := by
  have keeps := keeps_rolledOver tables.currentPeriodKey level
  have none : ∀ progress ∈ tables.getProgress userId,
      counted tables.ledger.rows userId tables.currentPeriodKey = 0 := by
    intro progress found
    obtain ⟨member, isUser⟩ := mem_of_getProgress found
    by_cases isMonth : progress.periodKey = tables.currentPeriodKey
    · have exact := settled.exact progress member
      rw [rolls progress found isMonth, isUser, isMonth] at exact
      exact exact.symm
    · apply counted_of_later settled
      intro other isRow
      rw [found] at isRow
      cases isRow
      exact lt_of_le_of_ne (settled.past progress member) isMonth
  refine ⟨distinct_changeProgress keeps settled.distinct _, ?_, ?_, ?_, settled.positive,
    settled.covered⟩
  · intro row member
    obtain ⟨earlier, inside, isRow⟩ := KeyedRows.mem_update member
    split at isRow
    · rw [isRow]
      exact le_refl _
    · rw [isRow]
      exact settled.past earlier inside
  · intro row member
    obtain ⟨earlier, inside, isRow⟩ := KeyedRows.mem_update member
    split at isRow
    · rename_i isUser
      have found := progress_of_mem settled inside
      rw [isUser] at found
      rw [isRow]
      change 0 = counted tables.ledger.rows earlier.userId tables.currentPeriodKey
      rw [isUser, none earlier found]
    · rw [isRow]
      exact settled.exact earlier inside
  · intro row member isAward
    obtain ⟨progress, found, isLive⟩ := settled.live row member isAward
    unfold resetProgressForNewMonth
    rw [getProgress_changeProgress keeps, found]
    split
    · exact ⟨_, rfl, isLive.trans (settled.past progress (mem_of_getProgress found).1)⟩
    · exact ⟨progress, rfl, isLive⟩

theorem find?_ensure_of_found {history : UniqueTable WealthMonthlyHistory.key}
    {key : UserId × PeriodKey} (found : history.find? key ≠ none) (row : WealthMonthlyHistory) :
    (history.ensure row).find? key ≠ none := by
  intro missing
  apply found
  rw [UniqueTable.find?_eq_none_iff] at missing ⊢
  intro taken
  obtain ⟨stored, member, isKey⟩ := List.mem_map.mp taken
  exact missing (List.mem_map.mpr ⟨stored, UniqueTable.mem_ensure_of_mem member, isKey⟩)

theorem settled_processUser (settled : Settled tables) (config : WealthDowngradeConfig)
    {closingPeriodKey : PeriodKey} (rolls : Rolls tables closingPeriodKey userId) :
    Settled (processUser tables config closingPeriodKey tables.currentPeriodKey userId) := by
  unfold processUser
  split
  · exact settled
  · rename_i isNew
    split
    · exact settled
    · rename_i progress found
      have kept : Settled (createMonthlyHistory tables
          (historyRow config closingPeriodKey progress)) :=
        settled_of_same settled rfl rfl (le_refl _)
      exact settled_resetProgress kept _ (rolls.resolve_left (not_not.mpr isNew))

theorem rolls_processUser (config : WealthDowngradeConfig) {closingPeriodKey : PeriodKey}
    {other : UserId} (rolls : Rolls tables closingPeriodKey other) :
    Rolls (processUser tables config closingPeriodKey tables.currentPeriodKey userId)
      closingPeriodKey other := by
  unfold processUser
  split
  · exact rolls
  · split
    · exact rolls
    · rcases rolls with processed | empty
      · exact Or.inl (find?_ensure_of_found processed _)
      · refine Or.inr ?_
        intro row isRow isMonth
        unfold resetProgressForNewMonth at isRow
        change row ∈ getProgress (changeProgress _ _ _) other at isRow
        rw [getProgress_changeProgress (keeps_rolledOver _ _)] at isRow
        split at isRow
        · obtain ⟨earlier, -, rfl⟩ := Option.map_eq_some_iff.mp isRow
          rfl
        · exact empty row isRow isMonth

theorem clock_processUser (config : WealthDowngradeConfig)
    (closingPeriodKey newPeriodKey : PeriodKey) :
    (processUser tables config closingPeriodKey newPeriodKey userId).currentPeriodKey =
      tables.currentPeriodKey := by
  unfold processUser
  split
  · rfl
  · split <;> rfl

theorem settled_processAll (settled : Settled tables) (config : WealthDowngradeConfig)
    {closingPeriodKey : PeriodKey} {userIds : List UserId}
    (rolls : ∀ userId ∈ userIds, Rolls tables closingPeriodKey userId) :
    Settled (processAll tables config closingPeriodKey tables.currentPeriodKey userIds) := by
  unfold processAll
  induction userIds generalizing tables with
  | nil => exact settled
  | cons first rest ih =>
      have next := settled_processUser settled config (rolls first List.mem_cons_self)
      have later := ih next fun userId member =>
        rolls_processUser config (rolls userId (List.mem_cons_of_mem first member))
      rw [clock_processUser] at later
      exact later

theorem settled_run (settled : Settled tables) {ending : Ending}
    (rollsOver : RollsOver tables ending) : Settled (run tables ending) := by
  unfold run
  cases isStarted : startRun tables with
  | none => exact settled
  | some started =>
      have rolls := rollsOver.resolve_left (isStarted ▸ Option.some_ne_none started)
      obtain ⟨runs, rfl⟩ : ∃ runs, started = { tables with resetRuns := runs } := by
        unfold startRun at isStarted
        dsimp only at isStarted
        split at isStarted
        · cases isStarted
          exact ⟨_, rfl⟩
        · split at isStarted
          · cases isStarted
            exact ⟨_, rfl⟩
          · cases isStarted
      have started : Settled { tables with resetRuns := runs } :=
        settled_of_same settled rfl rfl (le_refl _)
      have processed := settled_processAll started tables.downgradeConfig rolls
      unfold processRun
      dsimp only
      split
      · exact settled_of_same processed rfl rfl (le_refl _)
      · exact settled_of_same processed rfl rfl (le_refl _)
      · exact processed

/-! ### Runs -/

theorem settled_step (settled : Settled tables) {event : WealthEvent}
    (inMonth : InMonth tables event) : Settled (step tables event) := by
  cases event with
  | award input =>
      unfold step
      dsimp only
      cases awards : award tables input with
      | error failure => exact settled
      | ok pair =>
          obtain ⟨after, result⟩ := pair
          by_cases idle : Idle tables input.amount input.idempotencyKey
          · rw [same_of_idleAward idle awards]
            exact settled
          · obtain ⟨-, newLevel, applies⟩ := award_of_fresh idle awards
            exact settled_applyAward settled (Int.not_le.mp (not_or.mp idle).1)
              (inMonth.resolve_left idle) applies
  | reverse input =>
      unfold step
      dsimp only
      cases reverses : reverse tables input with
      | error failure => exact settled
      | ok after =>
          by_cases idle : Idle tables input.amount input.idempotencyKey
          · rw [same_of_idleReverse idle reverses]
            exact settled
          · exact settled_applyReversal settled (Int.not_le.mp (not_or.mp idle).1)
              (inMonth.resolve_left idle) (reverse_of_fresh idle reverses)
  | reset ending => exact settled_run settled inMonth
  | configure levels downgradeConfig => exact settled_of_same settled rfl rfl (le_refl _)
  | pass months => exact settled_of_same settled rfl rfl (Nat.le_add_right _ _)

theorem answersStored_of_inMonth {event : WealthEvent} (inMonth : InMonth tables event) :
    AnswersStored tables event := by
  cases event with
  | award input =>
      intro after result awards
      by_cases idle : Idle tables input.amount input.idempotencyKey
      · rw [same_of_idleAward idle awards, answer_of_idleAward idle awards]
      · obtain ⟨answer, newLevel, applies⟩ := award_of_fresh idle awards
        have finds := inMonth.resolve_left idle
        rw [answer, getProgress_applyAward applies, getProgress_upsertProgress,
          baseExp_of_findsMonth finds]
        rfl
  | reverse _ => exact trivial
  | reset _ => exact trivial
  | configure _ _ => exact trivial
  | pass _ => exact trivial

/-- No user has wealth yet. -/
def noWealth (levels : List WealthLevel) (downgradeConfig : WealthDowngradeConfig)
    (currentPeriodKey : PeriodKey) : Tables :=
  { levels := levels
    downgradeConfig := downgradeConfig
    currentPeriodKey := currentPeriodKey }

theorem settled_noWealth (levels : List WealthLevel) (downgradeConfig : WealthDowngradeConfig)
    (currentPeriodKey : PeriodKey) :
    Settled (noWealth levels downgradeConfig currentPeriodKey) where
  distinct := List.nodup_nil
  past := List.forall_mem_nil _
  exact := List.forall_mem_nil _
  live := List.forall_mem_nil _
  positive := List.forall_mem_nil _
  covered := by
    rintro purchase ⟨row, member, -⟩
    cases member

/-- Where every write finds a row of its month, or an empty one, every row holds the EXP of
its month and every award answers what is stored. -/
theorem holdsMonths_of_inMonth (levels : List WealthLevel)
    (downgradeConfig : WealthDowngradeConfig) (currentPeriodKey : PeriodKey)
    (events : List WealthEvent)
    (inMonth : Runs.Each step InMonth (noWealth levels downgradeConfig currentPeriodKey) events) :
    Runs.Always step HoldsMonths (noWealth levels downgradeConfig currentPeriodKey) events ∧
      Runs.Each step AnswersStored (noWealth levels downgradeConfig currentPeriodKey) events := by
  have kept : ∀ (tables : Tables) (event : WealthEvent), Settled tables → InMonth tables event →
      Settled (step tables event) := fun _ _ settled inMonth => settled_step settled inMonth
  have gives : ∀ (tables : Tables) (event : WealthEvent), Settled tables → InMonth tables event →
      AnswersStored tables event := fun _ _ _ inMonth => answersStored_of_inMonth inMonth
  have start := settled_noWealth levels downgradeConfig currentPeriodKey
  constructor
  · have always := Runs.always_of_each kept _ start events inMonth
    exact always.imp fun _ settled => holdsMonths_of_settled settled
  · exact Runs.each_of_each kept gives _ start events inMonth

/-! ### Two months of one user -/

instance (tables : Tables) (amount : Int) (idempotencyKey : String) :
    Decidable (Idle tables amount idempotencyKey) :=
  inferInstanceAs (Decidable (amount ≤ 0 ∨ tables.ledger.find? idempotencyKey ≠ none))

instance (tables : Tables) (input : WealthAwardInput) : Decidable (FindsMonth tables input) :=
  inferInstanceAs (Decidable (_ ∧ (_ ∨ _)))

instance (tables : Tables) (input : WealthReverseInput) : Decidable (ReversesMonth tables input) :=
  inferInstanceAs (Decidable (∀ progress ∈ tables.getProgress input.userId,
    progress.periodKey = tables.currentPeriodKey → ite _ _ _))

instance (tables : Tables) (ending : Ending) : Decidable (RollsOver tables ending) :=
  match isStarted : startRun tables with
  | none => .isTrue (Or.inl isStarted)
  | some started =>
      decidable_of_iff
        (∀ userId ∈ ending.processed (tables.progress.map WealthUserProgress.userId),
          tables.history.find? (userId, previousPeriodKey tables.currentPeriodKey) ≠ none ∨
            ∀ progress ∈ tables.getProgress userId,
              progress.periodKey = tables.currentPeriodKey → progress.currentExp = 0)
        ⟨Or.inr, fun rolls => rolls.resolve_left (isStarted ▸ Option.some_ne_none started)⟩

instance (tables : Tables) (event : WealthEvent) : Decidable (InMonth tables event) :=
  match event with
  | .award input =>
      inferInstanceAs (Decidable (Idle tables input.amount input.idempotencyKey ∨ _))
  | .reverse input =>
      inferInstanceAs (Decidable (Idle tables input.amount input.idempotencyKey ∨ _))
  | .reset ending => inferInstanceAs (Decidable (RollsOver tables ending))
  | .configure _ _ => .isTrue trivial
  | .pass _ => .isTrue trivial

def purchaseOf (amount : Int) (order : String) : WealthEvent :=
  .award
    { userId := "user"
      amount := amount
      sourceRef := order
      idempotencyKey := order }

def refundOf (amount : Int) (order key : String) : WealthEvent :=
  .reverse
    { userId := "user"
      sourceRef := order
      amount := amount
      idempotencyKey := key }

/-- A purchase partly refunded in its month, the rest after it; the reset is late. -/
theorem holdsMonths_twoMonths :
    Runs.Always step HoldsMonths (noWealth [] {} 10)
        [purchaseOf 100 "first", refundOf 40 "first" "part", purchaseOf 100 "first", .pass 1,
          refundOf 60 "first" "rest", .reset .completes, purchaseOf 50 "second"] ∧
      Runs.Each step AnswersStored (noWealth [] {} 10)
        [purchaseOf 100 "first", refundOf 40 "first" "part", purchaseOf 100 "first", .pass 1,
          refundOf 60 "first" "rest", .reset .completes, purchaseOf 50 "second"] :=
  holdsMonths_of_inMonth [] {} 10 _ (by decide +kernel)

/-- The reversals of the user's purchases of the month, whenever they were recorded. -/
def everReversedExp (rows : List WealthExpLedger) (userId : UserId) (periodKey : PeriodKey) : Int :=
  ((rows.filter fun row =>
    row.direction = .reversal ∧ row.userId = userId ∧
      AwardedIn rows (userId, periodKey, row.sourceRef)).map WealthExpLedger.amount).sum

/-- A refund after the month leaves the row of the month, which is still the live one; and
an award onto it adds to the EXP of the closed month, and answers another amount. -/
theorem differs_afterMonth :
    (let tables := Runs.run step (noWealth [] {} 10)
        [purchaseOf 100 "first", .pass 1, refundOf 40 "first" "part"]
      ∃ progress ∈ tables.progress, progress.periodKey = 10 ∧ progress.currentExp = 100 ∧
        max 0 (awardedExp tables.ledger.rows "user" 10 -
          everReversedExp tables.ledger.rows "user" 10) = 60) ∧
    let tables := Runs.run step (noWealth [] {} 10) [purchaseOf 100 "first", .pass 1]
    ∃ progress ∈ (step tables (purchaseOf 50 "second")).progress,
      progress.periodKey = 11 ∧ progress.currentExp = 150 ∧
        max 0 (awardedExp (step tables (purchaseOf 50 "second")).ledger.rows "user" 11 -
          everReversedExp (step tables (purchaseOf 50 "second")).ledger.rows "user" 11) = 50 ∧
        (award tables
          { userId := "user"
            amount := 50
            sourceRef := "second"
            idempotencyKey := "second" }).toOption.map (fun pair => pair.2.currentExp) = some 50 := by
  constructor
  · decide +kernel
  · decide +kernel

end Soulzaa.Wealth
