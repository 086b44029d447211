/-
A refund against the purchase it is for.

The effective level is the larger of the month's floor and the level of the EXP.  An award
keeps the larger one, and a reversal writes the level of the EXP alone.  Whether it writes
is decided by the month of the row, not by the month of the award.
-/

import Soulzaa.Wealth.Months

namespace Soulzaa.Wealth

open Tables WealthExpLedgerService WealthRepository

structure Refund where
  userId : UserId
  sourceRef : String
  amount : Int
  awardKey : String
  reversalKey : String
  deriving DecidableEq, Repr

namespace Refund

variable (refund : Refund)

def award : WealthAwardInput :=
  { userId := refund.userId
    amount := refund.amount
    sourceRef := refund.sourceRef
    idempotencyKey := refund.awardKey }

def reverse : WealthReverseInput :=
  { userId := refund.userId
    sourceRef := refund.sourceRef
    amount := refund.amount
    idempotencyKey := refund.reversalKey }

/-- Neither call was made before. -/
structure New (tables : Tables) : Prop where
  award : tables.ledger.Absent refund.awardKey
  reversal : tables.ledger.Absent refund.reversalKey
  apart : refund.reversalKey ≠ refund.awardKey

end Refund

namespace Tables

def currentExp (tables : Tables) (userId : UserId) : Int := storedExp (tables.getProgress userId)

def currentLevel (tables : Tables) (userId : UserId) : Int := oldLevel (tables.getProgress userId)

/-- The user has a row of this month, or none yet. -/
def InCurrentMonth (tables : Tables) (userId : UserId) : Prop :=
  ∀ progress ∈ tables.getProgress userId, progress.periodKey = tables.currentPeriodKey

instance (tables : Tables) (userId : UserId) : Decidable (tables.InCurrentMonth userId) :=
  inferInstanceAs (Decidable (∀ progress ∈ tables.getProgress userId, _))

/-- The EXP and the level of the user are the same. -/
def SameProgress (tables after : Tables) (userId : UserId) : Prop :=
  after.currentExp userId = tables.currentExp userId ∧
    after.currentLevel userId = tables.currentLevel userId

instance (tables after : Tables) (userId : UserId) :
    Decidable (tables.SameProgress after userId) :=
  inferInstanceAs (Decidable (_ ∧ _))

/-- The purchase was awarded to the user, in closed months only. -/
def AwardedEarlier (tables : Tables) (userId : UserId) (sourceRef : String) : Prop :=
  (∃ row ∈ tables.ledger.rows,
    row.direction = .award ∧ row.userId = userId ∧ row.sourceRef = sourceRef) ∧
    ∀ row ∈ tables.ledger.rows, row.direction = .award → row.sourceRef = sourceRef →
      row.periodKey < tables.currentPeriodKey

instance (tables : Tables) (userId : UserId) (sourceRef : String) :
    Decidable (tables.AwardedEarlier userId sourceRef) :=
  inferInstanceAs (Decidable (_ ∧ _))

end Tables

/-- A refund undoes a purchase of this month, and leaves this month alone where the purchase
was of a closed one. -/
structure Refunds (tables : Tables) (refund : Refund) : Prop where
  undone : tables.SameProgress (step (step tables (.award refund.award)) (.reverse refund.reverse))
    refund.userId
  closed : tables.AwardedEarlier refund.userId refund.sourceRef →
    tables.SameProgress (step tables (.reverse refund.reverse)) refund.userId

/-- The level is that of the EXP alone, and not less than nothing is outstanding. -/
def Undoable (tables : Tables) (refund : Refund) : Prop :=
  0 ≤ tables.currentExp refund.userId ∧
    0 ≤ tables.netAwardedForSourceRef refund.sourceRef ∧
    levelForExp tables.levels (tables.currentExp refund.userId) = tables.currentLevel refund.userId

/-- Nothing is outstanding, or there is nothing to take: no row, or no EXP and no floor. -/
def Untouched (tables : Tables) (refund : Refund) : Prop :=
  tables.netAwardedForSourceRef refund.sourceRef ≤ 0 ∨
    tables.getProgress refund.userId = none ∨
    (tables.currentExp refund.userId = 0 ∧
      levelForExp tables.levels 0 = tables.currentLevel refund.userId)

instance (tables : Tables) (refund : Refund) : Decidable (Undoable tables refund) :=
  inferInstanceAs (Decidable (_ ∧ _ ∧ _))

variable {tables after : Tables} {refund : Refund}

/-! ### What the calls write -/

theorem addLedger_of_absent {row : WealthExpLedger}
    (absent : tables.ledger.Absent row.idempotencyKey) :
    ∃ after, tables.addLedger row = some after := by
  unfold addLedger
  rw [UniqueTable.create_of_absent absent]
  exact ⟨_, rfl⟩

/-- A purchase that is new goes onto the user's row and into the ledger. -/
theorem step_award {input : WealthAwardInput} (positive : 0 < input.amount)
    (absent : tables.ledger.Absent input.idempotencyKey) :
    applyAward tables input tables.currentPeriodKey
        (max (oldLevel (tables.getProgress input.userId))
          (levelForExp tables.levels
            (baseExp (tables.getProgress input.userId) tables.currentPeriodKey + input.amount))) =
      some (step tables (.award input)) := by
  obtain ⟨after, added⟩ : ∃ after, applyAward tables input tables.currentPeriodKey
      (max (oldLevel (tables.getProgress input.userId))
        (levelForExp tables.levels
          (baseExp (tables.getProgress input.userId) tables.currentPeriodKey + input.amount))) =
        some after := by
    apply addLedger_of_absent
    rw [(ledger_upsertProgress _ _ _ _).1]
    exact absent
  unfold step award
  dsimp only
  rw [if_neg (Int.not_le.mpr positive), (tables.ledger.find?_eq_none_iff _).mpr absent]
  dsimp only
  rw [added]

/-- A reversal that is new writes what `writtenBy` says, and its entry. -/
theorem step_reverse {input : WealthReverseInput} (positive : 0 < input.amount)
    (absent : tables.ledger.Absent input.idempotencyKey) :
    applyReversal tables input (recordedAmount tables input) tables.currentPeriodKey
      (writtenBy tables input) = some (step tables (.reverse input)) := by
  obtain ⟨after, added⟩ : ∃ after, applyReversal tables input (recordedAmount tables input)
      tables.currentPeriodKey (writtenBy tables input) = some after := by
    unfold applyReversal
    apply addLedger_of_absent
    split <;> exact absent
  have reverses : reverse tables input = .ok after := by
    unfold reverse
    rw [if_neg (Int.not_le.mpr positive), (tables.ledger.find?_eq_none_iff _).mpr absent]
    dsimp only
    erw [added]
  rw [added]
  unfold step
  dsimp only
  rw [reverses]

/-- What a reversal leaves of the user's EXP and level. -/
theorem progress_of_reverse {input : WealthReverseInput} (positive : 0 < input.amount)
    (absent : tables.ledger.Absent input.idempotencyKey) :
    (step tables (.reverse input)).currentExp input.userId =
        (writtenBy tables input).elim (tables.currentExp input.userId) Prod.fst ∧
      (step tables (.reverse input)).currentLevel input.userId =
        (writtenBy tables input).elim (tables.currentLevel input.userId) Prod.snd := by
  have applies := step_reverse positive absent
  unfold applyReversal at applies
  have sameProgress := (rows_of_addLedger applies).2.1
  unfold currentExp currentLevel getProgress
  rw [sameProgress]
  cases written : writtenBy tables input with
  | none => exact ⟨rfl, rfl⟩
  | some pair =>
      obtain ⟨newExp, newLevel⟩ := pair
      have isCurrent : ∃ progress, tables.getProgress input.userId = some progress := by
        unfold writtenBy at written
        split at written
        · rename_i both
          obtain ⟨progress, found, -⟩ := Option.map_eq_some_iff.mp both.1
          exact ⟨progress, found⟩
        · cases written
      obtain ⟨progress, found⟩ := isCurrent
      have own : _ = if input.userId = input.userId
          then (tables.getProgress input.userId).map _ else tables.getProgress input.userId :=
        getProgress_changeProgress (keeps_reversed newExp newLevel) input.userId input.userId
      rw [if_pos rfl, found, Option.map_some] at own
      dsimp only
      unfold getProgress at own
      rw [own]
      exact ⟨rfl, rfl⟩

/-- What a purchase of this month leaves: the floor stays under the level. -/
theorem progress_of_award {input : WealthAwardInput} (positive : 0 < input.amount)
    (absent : tables.ledger.Absent input.idempotencyKey)
    (current : tables.InCurrentMonth input.userId) :
    (step tables (.award input)).getProgress input.userId =
      some
        { userId := input.userId
          currentExp := tables.currentExp input.userId + input.amount
          currentLevel := max (tables.currentLevel input.userId)
            (levelForExp tables.levels (tables.currentExp input.userId + input.amount))
          periodKey := tables.currentPeriodKey } := by
  have base : baseExp (tables.getProgress input.userId) tables.currentPeriodKey =
      tables.currentExp input.userId := by
    unfold baseExp currentExp storedExp
    cases found : tables.getProgress input.userId with
    | none => rfl
    | some progress => exact if_pos (current progress found)
  rw [getProgress_applyAward (step_award positive absent), getProgress_upsertProgress, base]
  rfl

theorem kept_of_award {input : WealthAwardInput} (positive : 0 < input.amount)
    (absent : tables.ledger.Absent input.idempotencyKey) :
    (step tables (.award input)).ledger.rows =
        tables.ledger.rows ++ [awardRow input tables.currentPeriodKey] ∧
      (step tables (.award input)).currentPeriodKey = tables.currentPeriodKey ∧
      (step tables (.award input)).levels = tables.levels := by
  have applies := step_award positive absent
  obtain ⟨rows, -, clock⟩ := rows_of_addLedger applies
  obtain ⟨sameLedger, sameClock⟩ := ledger_upsertProgress tables input tables.currentPeriodKey
    (max (oldLevel (tables.getProgress input.userId)) (levelForExp tables.levels
      (baseExp (tables.getProgress input.userId) tables.currentPeriodKey + input.amount)))
  rw [sameLedger] at rows
  rw [sameClock] at clock
  refine ⟨rows, clock, ?_⟩
  unfold applyAward addLedger at applies
  obtain ⟨ledger, -, isAfter⟩ := Option.map_eq_some_iff.mp applies
  rw [← isAfter]
  unfold upsertProgress
  split <;> rfl

theorem netAwarded_of_award {input : WealthAwardInput} (positive : 0 < input.amount)
    (absent : tables.ledger.Absent input.idempotencyKey) :
    (step tables (.award input)).netAwardedForSourceRef input.sourceRef =
      tables.netAwardedForSourceRef input.sourceRef + input.amount := by
  unfold netAwardedForSourceRef
  rw [(kept_of_award positive absent).1, List.filter_append, List.map_append, List.sum_append,
    List.filter_cons_of_pos (by exact decide_eq_true rfl)]
  simp [awardRow]

/-- From a row of this month what is outstanding is taken, and the floor with it. -/
theorem progress_of_outstanding {input : WealthReverseInput} {progress : WealthUserProgress}
    (positive : 0 < input.amount) (absent : tables.ledger.Absent input.idempotencyKey)
    (found : tables.getProgress input.userId = some progress)
    (isMonth : progress.periodKey = tables.currentPeriodKey)
    (outstanding : 0 < tables.netAwardedForSourceRef input.sourceRef) :
    (step tables (.reverse input)).currentExp input.userId =
        max 0 (tables.currentExp input.userId -
          min input.amount (tables.netAwardedForSourceRef input.sourceRef)) ∧
      (step tables (.reverse input)).currentLevel input.userId =
        levelForExp tables.levels (max 0 (tables.currentExp input.userId -
          min input.amount (tables.netAwardedForSourceRef input.sourceRef))) := by
  have isCurrent : (tables.getProgress input.userId).map WealthUserProgress.periodKey =
      some tables.currentPeriodKey := by
    rw [found, Option.map_some, isMonth]
  have written : writtenBy tables input =
      some (max 0 (tables.currentExp input.userId -
          min input.amount (tables.netAwardedForSourceRef input.sourceRef)),
        levelForExp tables.levels (max 0 (tables.currentExp input.userId -
          min input.amount (tables.netAwardedForSourceRef input.sourceRef)))) :=
    if_pos ⟨isCurrent, lt_min positive outstanding⟩
  have left := progress_of_reverse positive absent
  rw [written] at left
  exact left

theorem same_of_nothing {input : WealthReverseInput} (positive : 0 < input.amount)
    (absent : tables.ledger.Absent input.idempotencyKey)
    (nothing : tables.netAwardedForSourceRef input.sourceRef ≤ 0 ∨
      tables.getProgress input.userId = none) :
    tables.SameProgress (step tables (.reverse input)) input.userId := by
  have unwritten : writtenBy tables input = none := by
    refine if_neg ?_
    rintro ⟨isCurrent, taken⟩
    rcases nothing with settled | rowless
    · exact Int.not_lt.mpr settled (lt_of_lt_of_le taken (min_le_right _ _))
    · rw [rowless] at isCurrent
      cases isCurrent
  have left := progress_of_reverse positive absent
  rw [unwritten] at left
  exact left

theorem step_of_refused {input : WealthReverseInput} (refused : input.amount ≤ 0) :
    step tables (.reverse input) = tables := by
  unfold step reverse
  dsimp only
  rw [if_pos refused]

/-! ### The refund of a purchase of this month -/

theorem undone_iff (isNew : refund.New tables) (positive : 0 < refund.amount)
    (current : tables.InCurrentMonth refund.userId) :
    tables.SameProgress (step (step tables (.award refund.award)) (.reverse refund.reverse))
        refund.userId ↔ Undoable tables refund := by
  have buys : 0 < refund.award.amount := positive
  have row := progress_of_award buys isNew.award current
  obtain ⟨rows, clock, levels⟩ := kept_of_award buys isNew.award
  have absent : (step tables (.award refund.award)).ledger.Absent refund.reversalKey := by
    unfold UniqueTable.Absent
    rw [rows, List.map_append, List.mem_append, not_or]
    exact ⟨isNew.reversal, fun same => isNew.apart (List.mem_singleton.mp same)⟩
  have refunds : 0 < refund.reverse.amount := positive
  have net := netAwarded_of_award buys isNew.award
  have held : (step tables (.award refund.award)).currentExp refund.userId =
      tables.currentExp refund.userId + refund.amount := by
    unfold currentExp
    rw [show (step tables (.award refund.award)).getProgress refund.userId = _ from row]
    rfl
  by_cases outstanding : 0 < tables.netAwardedForSourceRef refund.sourceRef + refund.amount
  · obtain ⟨exp, level⟩ := progress_of_outstanding refunds absent row clock.symm
      (lt_of_lt_of_eq outstanding net.symm)
    change _ = max 0 ((step tables (.award refund.award)).currentExp refund.userId -
      min refund.amount (netAwardedForSourceRef _ refund.award.sourceRef)) at exp
    change _ = levelForExp _ (max 0 ((step tables (.award refund.award)).currentExp refund.userId -
      min refund.amount (netAwardedForSourceRef _ refund.award.sourceRef))) at level
    rw [held, net] at exp level
    rw [levels] at level
    change _ = max 0 (tables.currentExp refund.userId + refund.amount - min refund.amount
      (tables.netAwardedForSourceRef refund.sourceRef + refund.amount)) at exp
    have back : max 0 (tables.currentExp refund.userId + refund.amount - min refund.amount
        (tables.netAwardedForSourceRef refund.sourceRef + refund.amount)) =
          tables.currentExp refund.userId ↔
        0 ≤ tables.currentExp refund.userId ∧
          0 ≤ tables.netAwardedForSourceRef refund.sourceRef := by
      omega
    rw [← exp] at back
    constructor
    · rintro ⟨sameExp, sameLevel⟩
      obtain ⟨held, owed⟩ := back.mp sameExp
      refine ⟨held, owed, ?_⟩
      rw [← sameExp, ← sameLevel]
      exact (exp ▸ level).symm
    · rintro ⟨held, owed, isLevel⟩
      have sameExp := back.mpr ⟨held, owed⟩
      refine ⟨sameExp, ?_⟩
      rw [← isLevel, ← sameExp]
      exact exp ▸ level
  · have same := same_of_nothing refunds absent
      (Or.inl (le_of_eq_of_le net (Int.not_lt.mp outstanding)))
    refine iff_of_false (fun back => ?_) fun undoable => ?_
    · have grown : (step tables (.award refund.award)).currentExp refund.userId =
          tables.currentExp refund.userId := same.1.symm.trans back.1
      rw [held] at grown
      omega
    · have owed := undoable.2.1
      omega

/-! ### The refund of a purchase of a closed month -/

theorem left_iff (isNew : refund.New tables) (positive : 0 < refund.amount)
    (current : tables.InCurrentMonth refund.userId) :
    tables.SameProgress (step tables (.reverse refund.reverse)) refund.userId ↔
      Untouched tables refund := by
  have refunds : 0 < refund.reverse.amount := positive
  unfold Untouched
  by_cases settled : tables.netAwardedForSourceRef refund.sourceRef ≤ 0
  · exact iff_of_true (same_of_nothing refunds isNew.reversal (Or.inl settled)) (Or.inl settled)
  cases found : tables.getProgress refund.userId with
  | none =>
      exact iff_of_true (same_of_nothing refunds isNew.reversal (Or.inr found))
        (Or.inr (Or.inl rfl))
  | some progress =>
      obtain ⟨exp, level⟩ := progress_of_outstanding refunds isNew.reversal found
        (current progress found) (Int.not_le.mp settled)
      have taken : 0 < min refund.amount (tables.netAwardedForSourceRef refund.sourceRef) :=
        lt_min positive (Int.not_le.mp settled)
      change _ = max 0 (tables.currentExp refund.userId -
        min refund.amount (tables.netAwardedForSourceRef refund.sourceRef)) at exp
      have kept : max 0 (tables.currentExp refund.userId -
          min refund.amount (tables.netAwardedForSourceRef refund.sourceRef)) =
            tables.currentExp refund.userId ↔ tables.currentExp refund.userId = 0 := by
        omega
      rw [← exp] at kept
      constructor
      · rintro ⟨sameExp, sameLevel⟩
        have empty := kept.mp sameExp
        refine Or.inr (Or.inr ⟨empty, ?_⟩)
        rw [← sameLevel, ← empty, ← sameExp]
        exact (exp ▸ level).symm
      · rintro (nothing | none | ⟨empty, isLevel⟩)
        · exact absurd nothing settled
        · cases none
        · have sameExp := kept.mpr empty
          refine ⟨sameExp, ?_⟩
          rw [← isLevel, ← empty, ← sameExp]
          exact exp ▸ level

/-- A refund undoes its purchase and leaves other months alone where the row's level has no floor
above that of its EXP, and where nothing is outstanding of a purchase of a closed month, or there
is nothing to take. -/
theorem refunds_iff (tables : Tables) (refund : Refund) (isNew : refund.New tables)
    (current : tables.InCurrentMonth refund.userId) :
    Refunds tables refund ↔
      (0 < refund.amount → Undoable tables refund ∧
        (tables.AwardedEarlier refund.userId refund.sourceRef → Untouched tables refund)) := by
  constructor
  · intro refunds positive
    exact ⟨(undone_iff isNew positive current).mp refunds.undone,
      fun earlier => (left_iff isNew positive current).mp (refunds.closed earlier)⟩
  · intro condition
    by_cases positive : 0 < refund.amount
    · obtain ⟨undoable, untouched⟩ := condition positive
      exact ⟨(undone_iff isNew positive current).mpr undoable,
        fun earlier => (left_iff isNew positive current).mpr (untouched earlier)⟩
    · have refused := Int.not_lt.mp positive
      have unawarded : step tables (.award refund.award) = tables := by
        unfold step award
        dsimp only
        rw [if_pos (by exact refused)]
      constructor
      · rw [unawarded, step_of_refused (by exact refused)]
        exact ⟨rfl, rfl⟩
      · intro _
        rw [step_of_refused (by exact refused)]
        exact ⟨rfl, rfl⟩

/-! ### A month after a downgrade -/

def threeLevels : List WealthLevel := [⟨1, 100⟩, ⟨2, 200⟩, ⟨3, 300⟩]

/-- Two purchases of one month. -/
def undowngraded : Tables :=
  Runs.run step (noWealth threeLevels {} 10) [purchaseOf 300 "first", purchaseOf 50 "second"]

/-- The user comes from level 3, and the floor of the new month is 2. -/
def downgraded : Tables :=
  Runs.run step (noWealth threeLevels {} 10)
    [purchaseOf 300 "first", .pass 1, .reset .completes, purchaseOf 50 "second"]

def refundFor (order : String) (amount : Int) : Refund :=
  { userId := "user"
    sourceRef := order
    amount := amount
    awardKey := "award"
    reversalKey := "reversal" }

theorem refunds_undowngraded : Refunds undowngraded (refundFor "third" 20) :=
  (refunds_iff undowngraded (refundFor "third" 20)
    ⟨by decide +kernel, by decide +kernel, by decide⟩ (by decide +kernel)).mpr
    (fun _ => ⟨by decide +kernel, fun earlier => absurd earlier (by decide +kernel)⟩)

/-- The floor is lost with the refund of a purchase of this month, and EXP of this month with
that of a purchase of the month before. -/
theorem not_refunds_downgraded :
    downgraded.InCurrentMonth "user" ∧
      (refundFor "third" 20).New downgraded ∧ ¬Refunds downgraded (refundFor "third" 20) ∧
      downgraded.AwardedEarlier "user" "first" ∧
        ¬downgraded.SameProgress (step downgraded (.reverse (refundFor "first" 300).reverse))
          "user" :=
  ⟨by decide +kernel, ⟨by decide +kernel, by decide +kernel, by decide⟩,
    fun refunds => absurd refunds.undone (by decide +kernel), by decide +kernel,
    by decide +kernel⟩

end Soulzaa.Wealth
