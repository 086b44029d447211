/-
What a ladder takes of a gift.

The loop of a contribution climbs the boxes from the level of the session, so it takes
what they lack and refunds the rest, whatever the rows are.  Six rounds are enough.
-/

import Soulzaa.Treasure.Ladder

namespace Soulzaa.Treasure

open TreasureConfigurationService Tables TreasureService

/-- The coins that the box still needs. -/
def missing (tables : Tables) (id : BoxId) : Int :=
  match tables.findBox id with
  | some box => max 0 (box.threshold - box.progress)
  | none => 0

/-- The coins that the box and those above it still need. -/
def missingFrom (tables : Tables) (sessionId : SessionId) : Nat → Nat → Int
  | 0, level => missing tables (sessionId, level)
  | above + 1, level =>
      missing tables (sessionId, level) + missingFrom tables sessionId above (level + 1)

/-- The level of the session, where both the session and its box are active. -/
def chargingLevel (tables : Tables) (sessionId : SessionId) : Option Nat :=
  match tables.findSession sessionId with
  | none => none
  | some session =>
      if session.status ≠ .active then none
      else
        match tables.findBox (session.id, session.currentLevel) with
        | none => none
        | some box => if box.status ≠ .active then none else some session.currentLevel

def capacity (tables : Tables) (sessionId : SessionId) : Int :=
  match chargingLevel tables sessionId with
  | some level => missingFrom tables sessionId (treasureBoxCount - level) level
  | none => 0

variable {tables after : Tables} {sessionId : SessionId} {level : Nat} {box : TreasureBox}
  {id other : BoxId} {gift : GiftProgress} {session : TreasureSession}

theorem missing_nonneg (tables : Tables) (id : BoxId) : 0 ≤ missing tables id := by
  unfold missing
  split
  · exact le_max_left _ _
  · exact le_refl 0

theorem missing_of_found (found : tables.findBox id = some box) :
    missing tables id = max 0 (box.threshold - box.progress) := by
  unfold missing
  rw [found]

theorem missingFrom_nonneg (tables : Tables) (sessionId : SessionId) (above level : Nat) :
    0 ≤ missingFrom tables sessionId above level := by
  induction above generalizing level with
  | zero => exact missing_nonneg _ _
  | succ above ih => exact add_nonneg (missing_nonneg _ _) (ih (level + 1))

theorem missingFrom_congr {above : Nat}
    (same : ∀ higher, level ≤ higher →
      missing after (sessionId, higher) = missing tables (sessionId, higher)) :
    missingFrom after sessionId above level = missingFrom tables sessionId above level := by
  induction above generalizing level with
  | zero => exact same level (le_refl level)
  | succ above ih =>
      unfold missingFrom
      rw [same level (le_refl level), ih fun higher isAbove => same higher (Nat.le_of_succ_le isAbove)]

theorem missing_le_capacity (charges : chargingLevel tables sessionId = some level) :
    missing tables (sessionId, level) ≤ capacity tables sessionId := by
  unfold capacity
  rw [charges]
  dsimp only
  cases treasureBoxCount - level with
  | zero => exact le_refl _
  | succ above => exact le_add_of_nonneg_right (missingFrom_nonneg _ _ _ _)

theorem capacity_nonneg (tables : Tables) (sessionId : SessionId) :
    0 ≤ capacity tables sessionId := by
  unfold capacity
  split
  · exact missingFrom_nonneg _ _ _ _
  · exact le_refl 0

theorem capacity_of_last (charges : chargingLevel tables sessionId = some level)
    (isLast : treasureBoxCount ≤ level) :
    capacity tables sessionId = missing tables (sessionId, level) := by
  unfold capacity
  rw [charges]
  dsimp only
  rw [Nat.sub_eq_zero_of_le isLast]
  rfl

theorem capacity_of_below (charges : chargingLevel tables sessionId = some level)
    (isBelow : level < treasureBoxCount) (next : chargingLevel after sessionId = some (level + 1))
    (same : ∀ higher, level < higher →
      missing after (sessionId, higher) = missing tables (sessionId, higher)) :
    capacity tables sessionId = missing tables (sessionId, level) + capacity after sessionId := by
  have levels : treasureBoxCount - level = (treasureBoxCount - (level + 1)) + 1 := by
    have positive := Nat.sub_pos_of_lt isBelow
    omega
  have later : missingFrom after sessionId (treasureBoxCount - (level + 1)) (level + 1) =
      missingFrom tables sessionId (treasureBoxCount - (level + 1)) (level + 1) :=
    missingFrom_congr same
  unfold capacity
  rw [charges, next]
  dsimp only
  rw [levels, later]
  rfl

/-! ### The writes of a round -/

theorem missing_addContribution (contribution : TreasureContribution) :
    missing (tables.addContribution contribution) id = missing tables id := rfl

theorem missing_changeSession (change : TreasureSession → TreasureSession) :
    missing (tables.changeSession sessionId change) id = missing tables id := rfl

theorem missing_changeBox_other {change : TreasureBox → TreasureBox}
    (keeps : KeyedRows.KeepsKey TreasureBox.id change) (different : other ≠ id) :
    missing (tables.changeBox id change) other = missing tables other := by
  unfold missing
  rw [findBox_changeBox keeps, if_neg different]

theorem missing_activated : missing (tables.changeBox id TreasureBox.activated) other =
    missing tables other := by
  unfold missing
  rw [findBox_changeBox keeps_activated]
  split_ifs with same
  · cases tables.findBox other <;> rfl
  · rfl

theorem changeBox_of_updateBox {change : TreasureBox → TreasureBox}
    (updated : tables.updateBox id change = some after) :
    (∃ box, tables.findBox id = some box) ∧ after = tables.changeBox id change := by
  unfold updateBox at updated
  split at updated
  · rename_i isFound
    cases updated
    exact ⟨Option.isSome_iff_exists.mp isFound, rfl⟩
  · cases updated

theorem changeSession_of_updateSession {change : TreasureSession → TreasureSession}
    (updated : tables.updateSession sessionId change = some after) :
    after = tables.changeSession sessionId change := by
  unfold updateSession at updated
  split at updated
  · cases updated
    rfl
  · cases updated

theorem chargingLevel_of_found (row : tables.findSession sessionId = some session)
    (isActive : session.status = .active)
    (found : tables.findBox (sessionId, session.currentLevel) = some box)
    (charges : box.status = .active) :
    chargingLevel tables sessionId = some session.currentLevel := by
  have isId : session.id = sessionId := KeyedRows.key_of_find row
  unfold chargingLevel
  rw [row]
  dsimp only
  rw [if_neg (not_not.mpr isActive), isId, found]
  exact if_neg (not_not.mpr charges)

/-- The session goes to the next level, and its box is made active. -/
theorem charges_of_leveled (row : tables.findSession sessionId = some session)
    (isActive : session.status = .active) {leveled : Tables}
    (levels : tables.updateSession sessionId (TreasureSession.atLevel (level + 1)) = some leveled)
    (activates : leveled.updateBox (sessionId, level + 1) TreasureBox.activated = some after) :
    chargingLevel after sessionId = some (level + 1) ∧
      ∀ id, missing after id = missing tables id := by
  obtain rfl := changeSession_of_updateSession levels
  obtain ⟨⟨next, found⟩, rfl⟩ := changeBox_of_updateBox activates
  have row : ((tables.changeSession sessionId (TreasureSession.atLevel (level + 1))).changeBox
      (sessionId, level + 1) TreasureBox.activated).findSession sessionId =
        some (session.atLevel (level + 1)) := by
    rw [findSession_changeBox, findSession_changeSession (keeps_atLevel _), if_pos rfl, row]
    rfl
  have isNext : ((tables.changeSession sessionId (TreasureSession.atLevel (level + 1))).changeBox
      (sessionId, level + 1) TreasureBox.activated).findBox (sessionId, level + 1) =
        some next.activated := by
    rw [findBox_changeBox keeps_activated, if_pos rfl, found]
    rfl
  constructor
  · have stillActive : (session.atLevel (level + 1)).status = .active := isActive
    exact chargingLevel_of_found row stillActive isNext rfl
  · intro id
    rw [missing_activated, missing_changeSession]

/-! ### One round -/

/-- What a round with coins remaining comes to. -/
inductive Round (sessionId : SessionId) (state next : Contributing) : Prop where
  | ends (spent : next.remainingAmount = 0)
      (refunds : next.refundAmount = state.refundAmount +
        (state.remainingAmount - min state.remainingAmount (capacity state.tables sessionId)))
  | climbs (level : Nat) (charges : chargingLevel state.tables sessionId = some level)
      (isBelow : level < treasureBoxCount)
      (charging : chargingLevel next.tables sessionId = some (level + 1))
      (same : ∀ higher, level < higher →
        missing next.tables (sessionId, higher) = missing state.tables (sessionId, higher))
      (fits : missing state.tables (sessionId, level) ≤ state.remainingAmount)
      (takes : next.remainingAmount =
        state.remainingAmount - missing state.tables (sessionId, level))
      (refunds : next.refundAmount = state.refundAmount)

variable {state next : Contributing}

theorem round_of_refused (positive : 0 < state.remainingAmount)
    (full : capacity state.tables sessionId = 0) : Round sessionId state (refundRest state) := by
  refine .ends rfl ?_
  unfold refundRest
  dsimp only
  rw [full, min_eq_right (le_of_lt positive), sub_zero]

theorem capacity_of_uncharged (charges : chargingLevel tables sessionId = none) :
    capacity tables sessionId = 0 := by
  unfold capacity
  rw [charges]

section AtBox

variable (row : state.tables.findSession sessionId = some session)
  (isActive : session.status = .active)
  (found : state.tables.findBox (sessionId, session.currentLevel) = some box)
  (charges : chargingLevel state.tables sessionId = some session.currentLevel)
include row isActive found charges

theorem round_of_pastFullBox (positive : 0 < state.remainingAmount)
    (isFull : box.threshold - box.progress ≤ 0)
    (past : pastFullBox session box state = some next) : Round sessionId state next := by
  have isId : session.id = sessionId := KeyedRows.key_of_find row
  have isLevel : box.level = session.currentLevel := congrArg Prod.snd (key_of_findBox found)
  have nothing : missing state.tables (sessionId, session.currentLevel) = 0 := by
    rw [missing_of_found found]
    exact max_eq_left isFull
  unfold pastFullBox at past
  rw [isLevel, isId] at past
  split at past
  · rename_i isLast
    cases past
    apply round_of_refused positive
    rw [capacity_of_last charges isLast, nothing]
  · rename_i isBelow
    split at past
    · cases past
    · rename_i leveled levels
      obtain ⟨activated, activates, isNext⟩ := Option.map_eq_some_iff.mp past
      obtain ⟨charging, same⟩ := charges_of_leveled row isActive levels activates
      subst isNext
      refine .climbs session.currentLevel charges (Nat.not_le.mp isBelow) charging ?_ ?_ ?_ rfl
      · intro higher _
        exact same _
      · rw [nothing]
        exact le_of_lt positive
      · rw [nothing, sub_zero]

theorem round_of_addToBox (lacks : 0 < box.threshold - box.progress) {added : Int}
    (isAdded : added = if box.threshold - box.progress ≤ state.remainingAmount then
      box.threshold - box.progress else state.remainingAmount)
    (adds : addToBox session box gift added state = some next) : Round sessionId state next := by
  have isId : session.id = sessionId := KeyedRows.key_of_find row
  have isBoxId : box.id = (sessionId, session.currentLevel) := key_of_findBox found
  have isLevel : box.level = session.currentLevel := congrArg Prod.snd isBoxId
  have needs : missing state.tables (sessionId, session.currentLevel) =
      box.threshold - box.progress := by
    rw [missing_of_found found]
    exact max_eq_right (le_of_lt lacks)
  have least := missing_le_capacity charges
  unfold addToBox at adds
  dsimp only at adds
  rw [isBoxId] at adds
  split at adds
  · cases adds
  · rename_i updated updates
    obtain ⟨-, isUpdated⟩ := changeBox_of_updateBox updates
    have isBox : updated.findBox (sessionId, session.currentLevel) =
        some (box.incremented added) := by
      rw [isUpdated, findBox_changeBox (keeps_incremented added), if_pos rfl,
        findBox_addContribution, found]
      rfl
    have sameSession : updated.findSession sessionId = some session := by
      rw [isUpdated, findSession_changeBox, findSession_addContribution]
      exact row
    rw [isBox] at adds
    dsimp only at adds
    split at adds
    · rename_i isFull
      have fills : box.threshold - box.progress ≤ state.remainingAmount := by
        by_contra short
        rw [if_neg short] at isAdded
        change box.threshold ≤ box.progress + added at isFull
        omega
      rw [if_pos fills] at isAdded
      split at adds
      · cases adds
      · rename_i opened opens
        obtain ⟨-, isOpened⟩ := changeBox_of_updateBox opens
        have openSession : opened.findSession sessionId = some session := by
          rw [isOpened, findSession_changeBox]
          exact sameSession
        have others : ∀ higher, session.currentLevel < higher →
            missing opened (sessionId, higher) = missing state.tables (sessionId, higher) := by
          intro higher isAbove
          have different : (sessionId, higher) ≠ (sessionId, session.currentLevel) := by
            intro same
            exact absurd (congrArg Prod.snd same) (Nat.ne_of_gt isAbove)
          rw [isOpened, missing_changeBox_other (keeps_boxStatus _) different, isUpdated,
            missing_changeBox_other (keeps_incremented _) different, missing_addContribution]
        unfold afterOpening at adds
        rw [isLevel, isId] at adds
        split at adds
        · rename_i isLast
          obtain ⟨completed, -, isNext⟩ := Option.map_eq_some_iff.mp adds
          have whole := capacity_of_last charges isLast
          dsimp only at isNext
          split at isNext
          · subst isNext
            refine .ends rfl ?_
            unfold refundRest
            dsimp only
            rw [whole, needs, min_eq_right fills, isAdded]
          · rename_i spent
            subst isNext
            refine .ends ?_ ?_
            · dsimp only
              omega
            · dsimp only
              rw [whole, needs, min_eq_right fills]
              omega
        · rename_i isBelow
          split at adds
          · cases adds
          · rename_i leveled levels
            obtain ⟨activated, activates, isNext⟩ := Option.map_eq_some_iff.mp adds
            obtain ⟨charging, same⟩ := charges_of_leveled openSession isActive levels activates
            subst isNext
            refine .climbs session.currentLevel charges (Nat.not_le.mp isBelow) charging ?_ ?_ ?_
              rfl
            · intro higher isAbove
              exact (same _).trans (others higher isAbove)
            · rw [needs]
              exact fills
            · rw [needs, isAdded]
    · rename_i isShort
      have short : ¬box.threshold - box.progress ≤ state.remainingAmount := by
        intro fills
        rw [if_pos fills] at isAdded
        apply isShort
        change box.threshold ≤ box.progress + added
        omega
      rw [if_neg short] at isAdded
      cases adds
      refine .ends ?_ ?_
      · dsimp only
        omega
      · dsimp only
        rw [min_eq_left (by omega), sub_self, add_zero]

end AtBox

theorem round_of_contribute (positive : 0 < state.remainingAmount)
    (contributes : contribute sessionId gift state = some next) : Round sessionId state next := by
  unfold contribute at contributes
  cases row : state.tables.findSession sessionId with
  | none =>
      rw [row] at contributes
      cases contributes
      apply round_of_refused positive
      apply capacity_of_uncharged
      unfold chargingLevel
      rw [row]
  | some session =>
      have isId : session.id = sessionId := KeyedRows.key_of_find row
      rw [row] at contributes
      dsimp only at contributes
      split at contributes
      · rename_i inactive
        cases contributes
        apply round_of_refused positive
        apply capacity_of_uncharged
        unfold chargingLevel
        rw [row]
        exact if_pos inactive
      · rename_i isActive
        rw [isId] at contributes
        cases found : state.tables.findBox (sessionId, session.currentLevel) with
        | none =>
            rw [found] at contributes
            cases contributes
            apply round_of_refused positive
            apply capacity_of_uncharged
            unfold chargingLevel
            rw [row]
            dsimp only
            rw [if_neg isActive, isId, found]
        | some box =>
            rw [found] at contributes
            dsimp only at contributes
            split at contributes
            · rename_i closed
              cases contributes
              apply round_of_refused positive
              apply capacity_of_uncharged
              unfold chargingLevel
              rw [row]
              dsimp only
              rw [if_neg isActive, isId, found]
              exact if_pos closed
            · rename_i charging
              have charges := chargingLevel_of_found row (not_not.mp isActive) found
                (not_not.mp charging)
              split at contributes
              · rename_i isFull
                exact round_of_pastFullBox row (not_not.mp isActive) found charges positive isFull
                  contributes
              · rename_i lacks
                exact round_of_addToBox row (not_not.mp isActive) found charges
                  (Int.not_le.mp lacks) rfl contributes

/-! ### The loop -/

theorem refund_of_contributeAll {done : Contributing} {fuel : Nat}
    (nonneg : 0 ≤ state.remainingAmount)
    (contributes : contributeAll sessionId gift fuel state = some done) :
    done.refundAmount = state.refundAmount +
      (state.remainingAmount - min state.remainingAmount (capacity state.tables sessionId)) := by
  induction fuel generalizing state with
  | zero =>
      unfold contributeAll at contributes
      split at contributes
      · cases contributes
      · rename_i spent
        cases contributes
        rw [min_eq_left (le_trans (Int.not_lt.mp spent) (capacity_nonneg _ _)), sub_self, add_zero]
  | succ fuel ih =>
      unfold contributeAll at contributes
      split at contributes
      · rename_i positive
        dsimp only at contributes
        cases isNext : contribute sessionId gift state with
        | none =>
            rw [isNext] at contributes
            cases contributes
        | some next =>
            rw [isNext] at contributes
            dsimp only at contributes
            have round := round_of_contribute positive isNext
            cases round with
            | ends spent refunds =>
                rw [contributeAll_of_spent spent] at contributes
                cases contributes
                exact refunds
            | climbs level charges isBelow charging same fits takes refunds =>
                have later := ih (by omega) contributes
                have parts := capacity_of_below charges isBelow charging same
                rw [later, parts]
                omega
      · rename_i spent
        cases contributes
        rw [min_eq_left (le_trans (Int.not_lt.mp spent) (capacity_nonneg _ _)), sub_self, add_zero]

/-- The rounds that the loop takes at most. -/
def rounds (tables : Tables) (sessionId : SessionId) : Nat :=
  match chargingLevel tables sessionId with
  | some level => max 1 (enoughRounds - level)
  | none => 1

theorem rounds_le (tables : Tables) (sessionId : SessionId) :
    rounds tables sessionId ≤ enoughRounds := by
  unfold rounds
  split
  · exact max_le (by decide) (Nat.sub_le _ _)
  · decide

theorem contributeAll_stable {fuel : Nat} (enough : rounds state.tables sessionId ≤ fuel) :
    contributeAll sessionId gift (fuel + 1) state = contributeAll sessionId gift fuel state := by
  induction fuel generalizing state with
  | zero =>
      have least : 1 ≤ rounds state.tables sessionId := by
        unfold rounds
        split
        · exact le_max_left _ _
        · exact le_refl 1
      omega
  | succ fuel ih =>
      rw [contributeAll, contributeAll]
      split
      · rename_i positive
        cases isNext : contribute sessionId gift state with
        | none => rfl
        | some next =>
            dsimp only
            cases round_of_contribute positive isNext with
            | ends spent _ => rw [contributeAll_of_spent spent, contributeAll_of_spent spent]
            | climbs level charges isBelow charging _ _ _ _ =>
                apply ih
                unfold rounds at enough ⊢
                rw [charges] at enough
                rw [charging]
                change max 1 (treasureBoxCount + 1 - level) ≤ fuel + 1 at enough
                change max 1 (treasureBoxCount + 1 - (level + 1)) ≤ fuel
                omega
      · rfl

/-- More rounds than six change nothing. -/
theorem contributeAll_eq {fuel : Nat} (enough : enoughRounds ≤ fuel) :
    contributeAll sessionId gift fuel state = contributeAll sessionId gift enoughRounds state := by
  induction fuel, enough using Nat.le_induction with
  | base => rfl
  | succ fuel enough ih =>
      rw [contributeAll_stable (le_trans (rounds_le _ _) enough), ih]

/-! ### The refund of a gift -/

/-- The ladder that takes the gift: the active one of today, or one started for it. -/
def ladderOf (tables : Tables) (roomId : RoomId) : Option (Tables × Option TreasureSession) :=
  match sessionOfToday tables roomId with
  | none => none
  | some (tables, some session) => some (tables, some session)
  | some (tables, none) => autoStart tables roomId

/-- The coins that the room's ladder takes at most; without a ladder a gift is accepted whole. -/
def roomCapacity (tables : Tables) (roomId : RoomId) : Option Int :=
  match ladderOf tables roomId with
  | some (tables, some session) => some (capacity tables session.id)
  | _ => none

/-- The refund that a new gift leads to. -/
def refundDue (tables : Tables) (roomId : RoomId) (amount : Int) (giftTxnId : GiftTxnId) : Int :=
  if (tables.existingTx giftTxnId).isSome then 0
  else
    match roomCapacity tables roomId with
    | some capacity => toNumber (amount - min amount capacity)
    | none => 0

theorem processTreasureContribution_eq (fuel : Nat) (roomId : RoomId) (senderId : UserId)
    (amount : Int) {giftTxnId : GiftTxnId} (unrecorded : tables.existingTx giftTxnId = none) :
    processTreasureContribution fuel tables roomId senderId amount giftTxnId =
      match ladderOf tables roomId with
      | none => none
      | some (tables, none) =>
          some (tables,
            { acceptedAmount := amount
              refundAmount := 0 })
      | some (tables, some session) =>
          (contributeAll session.id (giftOf roomId senderId amount giftTxnId) fuel
            (contributing tables amount)).map fun state =>
              (state.tables,
                { acceptedAmount := toNumber state.acceptedAmount
                  refundAmount := toNumber state.refundAmount }) := by
  unfold processTreasureContribution ladderOf
  rw [unrecorded]
  dsimp only
  cases sessionOfToday tables roomId with
  | none => rfl
  | some found =>
      obtain ⟨finished, active⟩ := found
      cases active with
      | some session => rfl
      | none => rfl

theorem refund_of_processTreasureContribution {fuel : Nat} {roomId : RoomId} {senderId : UserId}
    {amount : Int} {giftTxnId : GiftTxnId} {result : ContributionResult} (nonneg : 0 ≤ amount)
    (processed : processTreasureContribution fuel tables roomId senderId amount giftTxnId =
      some (after, result)) : result.refundAmount = refundDue tables roomId amount giftTxnId := by
  unfold refundDue roomCapacity
  cases recorded : tables.existingTx giftTxnId with
  | some existingTx =>
      unfold processTreasureContribution at processed
      rw [recorded] at processed
      cases processed
      rfl
  | none =>
      rw [processTreasureContribution_eq fuel roomId senderId amount recorded] at processed
      rw [Option.isSome_none, if_neg Bool.false_ne_true]
      cases isLadder : ladderOf tables roomId with
      | none =>
          rw [isLadder] at processed
          cases processed
      | some found =>
          obtain ⟨started, session⟩ := found
          rw [isLadder] at processed
          cases session with
          | none =>
              cases processed
              rfl
          | some session =>
              obtain ⟨done, ends, isResult⟩ := Option.map_eq_some_iff.mp processed
              have remains : 0 ≤ (contributing started amount).remainingAmount := nonneg
              have refunds := refund_of_contributeAll remains ends
              cases isResult
              dsimp only
              rw [refunds]
              exact congrArg toNumber (zero_add _)

/-- More rounds than six change nothing of a contribution. -/
theorem processTreasureContribution_stable {fuel : Nat} (enough : enoughRounds ≤ fuel)
    (tables : Tables) (roomId : RoomId) (senderId : UserId) (amount : Int)
    (giftTxnId : GiftTxnId) :
    processTreasureContribution fuel tables roomId senderId amount giftTxnId =
      processTreasureContribution enoughRounds tables roomId senderId amount giftTxnId := by
  cases recorded : tables.existingTx giftTxnId with
  | some existingTx =>
      unfold processTreasureContribution
      rw [recorded]
  | none =>
      rw [processTreasureContribution_eq _ _ _ _ recorded,
        processTreasureContribution_eq _ _ _ _ recorded]
      split
      · rfl
      · rfl
      · rw [contributeAll_eq enough]

end Soulzaa.Treasure
