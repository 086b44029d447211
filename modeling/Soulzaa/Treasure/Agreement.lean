/-
The three implementations of a contribution, on a ladder with all its boxes.

A round of each writes the same rows, so the loops leave the same tables.  What the
ladder does not take, the first two report as the refund.
-/

import Soulzaa.Treasure.Contribution
import Soulzaa.Treasure.Sessions

namespace Soulzaa.Treasure

open TreasureConfigurationService Tables TreasureService

variable {tables after : Tables} {sessionId : SessionId} {level : Nat} {box : TreasureBox}
  {gift : GiftProgress} {session : TreasureSession}

/-! ### What a round writes -/

/-- The full box opened, and the amount that filled it recorded. -/
def openedWith (tables : Tables) (box : TreasureBox) (gift : GiftProgress) : Tables :=
  (tables.changeBox box.id (TreasureBox.withProgress box.threshold .opened)).addContribution
    (gift.contribution box.id (box.threshold - box.progress))

/-- The tables after a round with `remaining` of the gift left. -/
def poured (tables : Tables) (box : TreasureBox) (gift : GiftProgress) (remaining : Int) : Tables :=
  if box.threshold - box.progress ≤ remaining then
    if treasureBoxCount ≤ box.level then
      (openedWith tables box gift).changeSession box.sessionId
        (TreasureSession.withStatus .completed)
    else
      ((openedWith tables box gift).changeBox (box.sessionId, box.level + 1)
        TreasureBox.activated).changeSession box.sessionId
          (TreasureSession.atLevel (box.level + 1))
  else
    (tables.changeBox box.id
      (TreasureBox.withProgress (box.progress + remaining) .active)).addContribution
        (gift.contribution box.id remaining)

/-- What of the gift is left for the next box. -/
def carried (box : TreasureBox) (remaining : Int) : Int :=
  if box.threshold - box.progress ≤ remaining ∧ box.level < treasureBoxCount then
    remaining - (box.threshold - box.progress)
  else 0

/-- What of the gift is left when the last box opens. -/
def excess (box : TreasureBox) (remaining : Int) : Int :=
  if box.threshold - box.progress ≤ remaining ∧ treasureBoxCount ≤ box.level then
    remaining - (box.threshold - box.progress)
  else 0

section Amounts

variable {remaining : Int}

theorem carried_of_last (isLast : treasureBoxCount ≤ box.level) : carried box remaining = 0 :=
  if_neg fun both => Nat.not_le.mpr both.2 isLast

theorem excess_of_last (fills : box.threshold - box.progress ≤ remaining)
    (isLast : treasureBoxCount ≤ box.level) :
    excess box remaining = remaining - (box.threshold - box.progress) :=
  if_pos ⟨fills, isLast⟩

theorem carried_of_below (fills : box.threshold - box.progress ≤ remaining)
    (isBelow : ¬treasureBoxCount ≤ box.level) :
    carried box remaining = remaining - (box.threshold - box.progress) :=
  if_pos ⟨fills, Nat.not_le.mp isBelow⟩

theorem excess_of_below (isBelow : ¬treasureBoxCount ≤ box.level) : excess box remaining = 0 :=
  if_neg fun both => isBelow both.2

theorem spent_of_short (falls : ¬box.threshold - box.progress ≤ remaining) :
    carried box remaining = 0 ∧ excess box remaining = 0 :=
  ⟨if_neg fun both => falls both.1, if_neg fun both => falls both.1⟩

end Amounts

/-- All five boxes are there. -/
def Complete (tables : Tables) (sessionId : SessionId) : Prop :=
  ∀ level, 1 ≤ level → level ≤ treasureBoxCount →
    (tables.findBox (sessionId, level)).isSome = true

theorem keeps_incremented (amount : Int) :
    KeyedRows.KeepsKey TreasureBox.id (TreasureBox.incremented amount) := fun _ => rfl

theorem keeps_boxStatus (status : TreasureBoxStatus) :
    KeyedRows.KeepsKey TreasureBox.id (TreasureBox.withStatus status) := fun _ => rfl

/-- The charging box of the level of an active session. -/
structure AtBox (tables : Tables) (session : TreasureSession) (box : TreasureBox) : Prop where
  distinct : (tables.boxes.map TreasureBox.id).Nodup
  row : tables.findSession session.id = some session
  active : session.status = .active
  found : tables.findBox (session.id, session.currentLevel) = some box
  charging : box.Charging

theorem AtBox.boxId (isAt : AtBox tables session box) :
    box.id = (session.id, session.currentLevel) :=
  key_of_findBox isAt.found

theorem AtBox.sameSession (isAt : AtBox tables session box) : box.sessionId = session.id :=
  congrArg Prod.fst isAt.boxId

theorem AtBox.sameLevel (isAt : AtBox tables session box) : box.level = session.currentLevel :=
  congrArg Prod.snd isAt.boxId

theorem AtBox.foundBox (isAt : AtBox tables session box) :
    tables.findBox box.id = some box := by
  rw [isAt.boxId]
  exact isAt.found

/-- The box above, once the box of the level has opened. -/
theorem next_of_complete (gift : GiftProgress) (complete : Complete tables session.id)
    (isBelow : ¬treasureBoxCount ≤ box.level) :
    ∃ next, (openedWith tables box gift).findBox (session.id, box.level + 1) = some next := by
  rw [← Option.isSome_iff_exists]
  unfold openedWith
  rw [findBox_addContribution, isSome_findBox_changeBox (keeps_withProgress _ _)]
  exact complete (box.level + 1) (Nat.le_add_left 1 _) (by omega)

theorem fillBox_eq_poured {filling : Filling} (isAt : AtBox filling.tables session box)
    (complete : Complete filling.tables session.id) (ranks : gift.countsTowardRanking = true)
    (isLevel : filling.currentLevel = session.currentLevel) (fresh : filling.Fresh) :
    ∃ next, fillBox session.id gift filling = some next ∧
      next.tables = poured filling.tables box gift filling.remainingContribution ∧
      next.remainingContribution = carried box filling.remainingContribution ∧
      next.refundAmount = excess box filling.remainingContribution := by
  have short := isAt.charging.short
  have unrefunded := fresh.unrefunded
  have sameLevel := isAt.sameLevel
  have sameSession := isAt.sameSession
  unfold fillBox boxAt poured
  rw [isLevel, isAt.found]
  dsimp only
  rw [updateBox_of_found isAt.foundBox, updateBox_of_found isAt.foundBox]
  by_cases fills : box.threshold - box.progress ≤ filling.remainingContribution
  · rw [if_pos fills, if_pos fills]
    dsimp only
    rw [if_pos (by omega)]
    unfold advance recordContribution
    rw [if_pos ranks]
    dsimp only
    by_cases isLast : treasureBoxCount ≤ box.level
    · have beyond : treasureBoxCount < session.currentLevel + 1 := by omega
      rw [if_pos beyond, if_pos isLast, carried_of_last isLast, excess_of_last fills isLast]
      have found : (openedWith filling.tables box gift).findSession session.id = some session :=
        isAt.row
      change ∃ next, ((openedWith filling.tables box gift).updateSession session.id _).map _ =
        some next ∧ _
      rw [updateSession_of_found found, sameSession]
      refine ⟨_, rfl, rfl, ?_, ?_⟩
      · dsimp only
        split <;> omega
      · dsimp only
        split <;> omega
    · have within : ¬treasureBoxCount < session.currentLevel + 1 := by omega
      rw [if_neg within, if_neg isLast, carried_of_below fills isLast, excess_of_below isLast]
      obtain ⟨next, isNext⟩ := next_of_complete gift complete isLast
      unfold unlock
      rw [← sameLevel]
      erw [isNext]
      dsimp only
      erw [updateBox_of_found isNext]
      have found : ((openedWith filling.tables box gift).changeBox (session.id, box.level + 1)
          TreasureBox.activated).findSession session.id = some session := isAt.row
      dsimp only
      rw [updateSession_of_found found, sameSession]
      exact ⟨_, rfl, rfl, rfl, unrefunded⟩
  · rw [if_neg fills, if_neg fills, (spent_of_short fills).1, (spent_of_short fills).2]
    unfold recordContribution
    simp only [ranks, if_true, Option.map_some]
    exact ⟨_, rfl, rfl, rfl, unrefunded⟩

/-- An increment to the threshold and the status are the one update of the full box. -/
theorem opened_of_incremented (isAt : AtBox tables session box) :
    (((tables.addContribution (gift.contribution box.id (box.threshold - box.progress))).changeBox
      box.id (TreasureBox.incremented (box.threshold - box.progress))).changeBox box.id
        (TreasureBox.withStatus .opened)) = openedWith tables box gift := by
  rw [changeBox_changeBox (keeps_incremented _)]
  have agree : (TreasureBox.withStatus .opened ∘
      TreasureBox.incremented (box.threshold - box.progress)) box =
        TreasureBox.withProgress box.threshold .opened box := by
    have full : box.progress + (box.threshold - box.progress) = box.threshold := by omega
    unfold TreasureBox.withStatus TreasureBox.incremented TreasureBox.withProgress
    simp only [Function.comp_apply, full]
  have same := changeBox_congr isAt.distinct isAt.foundBox agree
  unfold openedWith
  rw [← same]
  rfl

theorem charged_of_incremented (isAt : AtBox tables session box) (amount : Int) :
    (tables.addContribution (gift.contribution box.id amount)).changeBox box.id
        (TreasureBox.incremented amount) =
      (tables.changeBox box.id (TreasureBox.withProgress (box.progress + amount)
        .active)).addContribution (gift.contribution box.id amount) := by
  have agree : TreasureBox.incremented amount box =
      TreasureBox.withProgress (box.progress + amount) .active box := by
    unfold TreasureBox.incremented TreasureBox.withProgress
    rw [isAt.charging.active]
  have same := changeBox_congr isAt.distinct isAt.foundBox agree
  rw [← same]
  rfl

theorem findBox_incremented (isAt : AtBox tables session box) (amount : Int) :
    ((tables.addContribution (gift.contribution box.id amount)).changeBox box.id
      (TreasureBox.incremented amount)).findBox box.id = some (box.incremented amount) := by
  rw [findBox_changeBox (keeps_incremented _), if_pos rfl, findBox_addContribution, isAt.foundBox]
  rfl

/-- What the opening of a box writes next. -/
def advanced (opened : Tables) (box : TreasureBox) : Tables :=
  if treasureBoxCount ≤ box.level then
    opened.changeSession box.sessionId (TreasureSession.withStatus .completed)
  else
    (opened.changeBox (box.sessionId, box.level + 1) TreasureBox.activated).changeSession
      box.sessionId (TreasureSession.atLevel (box.level + 1))

theorem poured_of_fills {remaining : Int} (fills : box.threshold - box.progress ≤ remaining) :
    poured tables box gift remaining = advanced (openedWith tables box gift) box := by
  unfold poured advanced
  rw [if_pos fills]

theorem contribute_eq_poured (gift : GiftProgress) {state : Contributing} (isAt : AtBox state.tables session box)
    (complete : Complete state.tables session.id) :
    ∃ next, contribute session.id gift state = some next ∧
      next.tables = poured state.tables box gift state.remainingAmount ∧
      next.remainingAmount = carried box state.remainingAmount ∧
      next.refundAmount = state.refundAmount + excess box state.remainingAmount ∧
      next.acceptedAmount + next.refundAmount + next.remainingAmount =
        state.acceptedAmount + state.refundAmount + state.remainingAmount := by
  have short := isAt.charging.short
  have found : ∀ amount, ((state.tables.addContribution
      (gift.contribution box.id amount))).findBox box.id = some box := fun _ => isAt.foundBox
  unfold contribute
  rw [isAt.row]
  dsimp only
  rw [if_neg (not_not.mpr isAt.active), isAt.found]
  dsimp only
  rw [if_neg (not_not.mpr isAt.charging.active), if_neg (by omega)]
  unfold addToBox
  dsimp only
  rw [updateBox_of_found (found _)]
  dsimp only
  rw [findBox_incremented isAt]
  dsimp only
  by_cases fills : box.threshold - box.progress ≤ state.remainingAmount
  · have isFull : (box.incremented (box.threshold - box.progress)).threshold ≤
        (box.incremented (box.threshold - box.progress)).progress := by
      unfold TreasureBox.incremented
      dsimp only
      omega
    rw [if_pos fills, if_pos isFull, updateBox_of_found (findBox_incremented isAt _)]
    dsimp only
    rw [opened_of_incremented isAt, poured_of_fills fills]
    have row : (openedWith state.tables box gift).findSession session.id = some session := isAt.row
    unfold afterOpening advanced
    by_cases isLast : treasureBoxCount ≤ box.level
    · rw [if_pos isLast, if_pos isLast, updateSession_of_found row, carried_of_last isLast,
        excess_of_last fills isLast, isAt.sameSession]
      dsimp only [Option.map_some]
      unfold refundRest
      split
      · exact ⟨_, rfl, rfl, rfl, rfl, by dsimp only; omega⟩
      · exact ⟨_, rfl, rfl, by dsimp only; omega, by dsimp only; omega, by dsimp only; omega⟩
    · obtain ⟨above, isAbove⟩ := next_of_complete gift complete isLast
      rw [if_neg isLast, if_neg isLast, updateSession_of_found row, carried_of_below fills isLast,
        excess_of_below isLast, isAt.sameSession]
      dsimp only
      have foundAbove : ((openedWith state.tables box gift).changeSession session.id
          (TreasureSession.atLevel (box.level + 1))).findBox (session.id, box.level + 1) =
            some above := isAbove
      rw [updateBox_of_found foundAbove]
      exact ⟨_, rfl, rfl, rfl, (add_zero _).symm, by dsimp only; omega⟩
  · have isShort : ¬(box.incremented state.remainingAmount).threshold ≤
        (box.incremented state.remainingAmount).progress := by
      unfold TreasureBox.incremented
      dsimp only
      omega
    rw [if_neg fills, if_neg isShort, charged_of_incremented isAt, (spent_of_short fills).1,
      (spent_of_short fills).2]
    unfold poured
    rw [if_neg fills]
    exact ⟨_, rfl, rfl, by dsimp only; omega, (add_zero _).symm, by dsimp only; omega⟩

theorem openAndAdvance_eq_advanced (isAt : AtBox tables session box)
    (complete : Complete tables session.id) {added : Int}
    (isFull : added = box.threshold - box.progress) :
    openAndAdvance session (box.incremented added)
        ((tables.addContribution (gift.contribution box.id added)).changeBox box.id
          (TreasureBox.incremented added)) =
      some (advanced (openedWith tables box gift) box) := by
  subst isFull
  unfold openAndAdvance advanced
  erw [updateBox_of_found (findBox_incremented isAt _)]
  dsimp only
  rw [opened_of_incremented isAt]
  have row : (openedWith tables box gift).findSession session.id = some session := isAt.row
  change (if treasureBoxCount < box.level + 1 then _ else _) = _
  by_cases isLast : treasureBoxCount ≤ box.level
  · rw [if_pos (Nat.lt_succ_of_le isLast), if_pos isLast, updateSession_of_found row,
      isAt.sameSession]
  · obtain ⟨above, isAbove⟩ := next_of_complete gift complete isLast
    have sameLevel : (box.incremented (box.threshold - box.progress)).level = box.level := rfl
    rw [if_neg (by omega), if_neg isLast, sameLevel]
    erw [updateSession_of_found row]
    rw [isAt.sameSession]
    have foundAbove : ((openedWith tables box gift).changeSession session.id
        (TreasureSession.atLevel (box.level + 1))).findBox (session.id, box.level + 1) =
          some above := isAbove
    dsimp only
    rw [foundAbove]
    dsimp only
    rw [key_of_findBox isAbove, updateBox_of_found foundAbove]
    rfl

/-- The handler keeps what the last box did not take, and drops it in a further round. -/
theorem handleRound_eq_poured (isAt : AtBox tables session box)
    (complete : Complete tables session.id) (remaining : Int) :
    handleRound session.id gift tables remaining =
      some (poured tables box gift remaining, carried box remaining + excess box remaining) := by
  have short := isAt.charging.short
  have found : ∀ amount, ((tables.addContribution
      (gift.contribution box.id amount))).findBox box.id = some box := fun _ => isAt.foundBox
  unfold handleRound
  rw [isAt.row]
  dsimp only
  rw [if_neg (not_not.mpr isAt.active), isAt.found]
  dsimp only
  rw [if_neg (not_not.mpr isAt.charging.active), if_neg (by omega), updateBox_of_found (found _)]
  dsimp only
  rw [findBox_incremented isAt]
  dsimp only
  by_cases fills : box.threshold - box.progress ≤ remaining
  · have isFull : (box.incremented (box.threshold - box.progress)).threshold ≤
        (box.incremented (box.threshold - box.progress)).progress := by
      unfold TreasureBox.incremented
      dsimp only
      omega
    have left : carried box remaining + excess box remaining =
        remaining - (box.threshold - box.progress) := by
      by_cases isLast : treasureBoxCount ≤ box.level
      · rw [carried_of_last isLast, excess_of_last fills isLast, zero_add]
      · rw [carried_of_below fills isLast, excess_of_below isLast, add_zero]
    rw [if_pos fills, if_pos isFull, openAndAdvance_eq_advanced isAt complete rfl,
      poured_of_fills fills, left]
    rfl
  · have isShort : ¬(box.incremented remaining).threshold ≤ (box.incremented remaining).progress := by
      unfold TreasureBox.incremented
      dsimp only
      omega
    rw [if_neg fills, if_neg isShort, charged_of_incremented isAt, (spent_of_short fills).1,
      (spent_of_short fills).2]
    unfold poured
    rw [if_neg fills, sub_self, add_zero]

/-! ### The loops -/

theorem contributeAll_of_spent {state : Contributing} (spent : state.remainingAmount = 0)
    (fuel : Nat) : contributeAll sessionId gift fuel state = some state := by
  unfold contributeAll
  rw [if_neg (by omega)]

theorem handleAll_of_spent (fuel : Nat) : handleAll sessionId gift fuel tables 0 = some tables := by
  unfold handleAll
  rw [if_neg (by decide)]

/-- On a completed session the handler stops, whatever remains. -/
theorem handleAll_of_completed (completed : Completed tables sessionId) (remaining : Int)
    {fuel : Nat} (enough : 1 ≤ fuel) :
    handleAll sessionId gift fuel tables remaining = some tables := by
  obtain ⟨fewer, rfl⟩ : ∃ fewer, fuel = fewer + 1 := ⟨fuel - 1, by omega⟩
  obtain ⟨session, found, isCompleted, -⟩ := completed.session
  have inactive : session.status ≠ .active := by
    rw [isCompleted]
    exact TreasureSessionStatus.noConfusion
  have stops : handleRound sessionId gift tables remaining = some (tables, 0) := by
    unfold handleRound
    rw [found]
    exact if_pos inactive
  unfold handleAll
  rw [stops]
  split
  · exact handleAll_of_spent fewer
  · rfl

/-- The other two loops, run beside the first. -/
structure RunsAlong (gift : GiftProgress) (sessionId : SessionId) (filling final : Filling) :
    Prop where
  fills : ∀ fuel, treasureBoxCount + 1 - filling.currentLevel ≤ fuel →
    fillBoxes sessionId gift fuel filling = some final
  contributes : ∀ state : Contributing, state.tables = filling.tables →
    state.remainingAmount = filling.remainingContribution →
      ∃ done, (∀ fuel, treasureBoxCount + 1 - filling.currentLevel ≤ fuel →
          contributeAll sessionId gift fuel state = some done) ∧
        done.tables = final.tables ∧
        done.refundAmount = state.refundAmount + final.refundAmount ∧
        done.acceptedAmount + done.refundAmount =
          state.acceptedAmount + state.refundAmount + state.remainingAmount
  handles : ∀ fuel, treasureBoxCount + 2 - filling.currentLevel ≤ fuel →
    handleAll sessionId gift fuel filling.tables filling.remainingContribution =
      some final.tables

theorem atBox_of_climbing (climbing : Climbing tables sessionId level)
    (complete : Complete tables sessionId) :
    ∃ session box, session.id = sessionId ∧ session.currentLevel = level ∧
      AtBox tables session box := by
  obtain ⟨session, found, isActive, isAt⟩ := climbing.session
  obtain ⟨box, isBox⟩ := Option.isSome_iff_exists.mp
    (complete level climbing.inRange.1 climbing.inRange.2)
  have isId : session.id = sessionId := KeyedRows.key_of_find found
  subst isId
  subst isAt
  exact ⟨session, box, rfl, rfl, climbing.distinct, found, isActive, isBox,
    climbing.current box isBox⟩

theorem runsAlong_of_climbing (ranks : gift.countsTowardRanking = true) {filling : Filling}
    (climbing : Climbing filling.tables sessionId filling.currentLevel)
    (complete : Complete filling.tables sessionId)
    (positive : 0 < filling.remainingContribution) (fresh : filling.Fresh) :
    ∃ final, RunsAlong gift sessionId filling final := by
  induction rounds : treasureBoxCount - filling.currentLevel using Nat.strong_induction_on
    generalizing filling with
  | _ rounds ih =>
    have inRange := climbing.inRange
    obtain ⟨session, box, isId, isLevel, isAt⟩ := atBox_of_climbing climbing complete
    subst isId
    obtain ⟨next, isNext, leaves, -, moves, outcome⟩ :=
      fillBox_of_climbing gift climbing positive fresh
    obtain ⟨same, isSame, isPoured, isCarried, isExcess⟩ :=
      fillBox_eq_poured isAt complete ranks isLevel.symm fresh
    rw [isNext] at isSame
    cases isSame
    have goesOn : filling.goesOn = true := decide_eq_true ⟨positive, inRange.2⟩
    have oneFill : ∀ fuel, fillBoxes session.id gift (fuel + 1) filling =
        fillBoxes session.id gift fuel next := by
      intro fuel
      rw [fillBoxes, if_pos goesOn, isNext]
    have oneHandle : ∀ fuel, handleAll session.id gift (fuel + 1) filling.tables
        filling.remainingContribution =
          handleAll session.id gift fuel next.tables
            (next.remainingContribution + next.refundAmount) := by
      intro fuel
      rw [handleAll, if_pos positive, handleRound_eq_poured isAt complete, isPoured, isCarried,
        isExcess]
    have oneContribute : ∀ state : Contributing, state.tables = filling.tables →
        state.remainingAmount = filling.remainingContribution →
          ∃ after : Contributing, (∀ fuel, contributeAll session.id gift (fuel + 1) state =
              contributeAll session.id gift fuel after) ∧
            after.tables = next.tables ∧
            after.remainingAmount = next.remainingContribution ∧
            after.refundAmount = state.refundAmount + next.refundAmount ∧
            after.acceptedAmount + after.refundAmount + after.remainingAmount =
              state.acceptedAmount + state.refundAmount + state.remainingAmount := by
      intro state sameTables sameAmount
      rw [← sameTables] at isAt complete
      obtain ⟨after, isAfter, tables, carried, refunded, accounted⟩ :=
        contribute_eq_poured gift isAt complete
      rw [sameTables, sameAmount] at tables
      rw [sameAmount] at carried refunded
      refine ⟨after, ?_, tables.trans isPoured.symm, carried.trans isCarried.symm, ?_, accounted⟩
      · intro fuel
        rw [contributeAll, if_pos (by omega), isAfter]
      · rw [refunded, isExcess]
    by_cases spent : next.remainingContribution = 0
    · refine ⟨next, ?_, ?_, ?_⟩
      · intro fuel enough
        obtain ⟨fewer, rfl⟩ : ∃ fewer, fuel = fewer + 1 := ⟨fuel - 1, by omega⟩
        rw [oneFill]
        apply fillBoxes_of_stopped
        unfold Filling.goesOn
        rw [spent]
        simp
      · intro state sameTables sameAmount
        obtain ⟨after, isAfter, tables, remains, refunded, accounted⟩ :=
          oneContribute state sameTables sameAmount
        refine ⟨after, ?_, tables, refunded, by omega⟩
        intro fuel enough
        obtain ⟨fewer, rfl⟩ : ∃ fewer, fuel = fewer + 1 := ⟨fuel - 1, by omega⟩
        rw [isAfter]
        exact contributeAll_of_spent (remains.trans spent) fewer
      · intro fuel enough
        obtain ⟨fewer, rfl⟩ : ∃ fewer, fuel = fewer + 1 := ⟨fuel - 1, by omega⟩
        rw [oneHandle]
        cases outcome with
        | goesOn freshNext _ _ =>
            rw [spent, freshNext.unrefunded]
            exact handleAll_of_spent fewer
        | completes _ _ _ _ completed => exact handleAll_of_completed completed _ (by omega)
    · cases outcome with
      | completes _ isSpent => exact absurd isSpent spent
      | goesOn freshNext left standing =>
          have higher := moves.resolve_left spent
          have nextInRange := standing.inRange
          have completeNext : Complete next.tables session.id :=
            fun level least most => leaves.kept _ (complete level least most)
          obtain ⟨final, fills, contributes, handles⟩ :=
            ih (treasureBoxCount - next.currentLevel) (by omega) standing.toClimbing completeNext
              (by omega) freshNext rfl
          refine ⟨final, ?_, ?_, ?_⟩
          · intro fuel enough
            obtain ⟨fewer, rfl⟩ : ∃ fewer, fuel = fewer + 1 := ⟨fuel - 1, by omega⟩
            rw [oneFill]
            exact fills fewer (by omega)
          · intro state sameTables sameAmount
            obtain ⟨after, isAfter, tables, remains, refunded, accounted⟩ :=
              oneContribute state sameTables sameAmount
            obtain ⟨done, ends, sameDone, refundedDone, accountedDone⟩ :=
              contributes after tables remains
            have unrefunded := freshNext.unrefunded
            refine ⟨done, ?_, sameDone, by omega, by omega⟩
            intro fuel enough
            obtain ⟨fewer, rfl⟩ : ∃ fewer, fuel = fewer + 1 := ⟨fuel - 1, by omega⟩
            rw [isAfter]
            exact ends fewer (by omega)
          · intro fuel enough
            obtain ⟨fewer, rfl⟩ : ∃ fewer, fuel = fewer + 1 := ⟨fuel - 1, by omega⟩
            rw [oneHandle, freshNext.unrefunded, add_zero]
            exact handles fewer (by omega)

/-! ### The ladder of today -/

/-- Of the sessions of the room only the one is active or of today's completed ones. -/
structure OnlyLadder (tables : Tables) (roomId : RoomId) (sessionId : SessionId) : Prop where
  ids : (tables.sessions.map TreasureSession.id).Nodup
  own : ∃ session, tables.findSession sessionId = some session ∧ session.roomId = roomId ∧
    tables.todayStart ≤ session.createdAt
  others : ∀ session ∈ tables.sessions, session.roomId = roomId → session.id ≠ sessionId →
    session.status ≠ .active ∧
      ¬(session.status = .completed ∧ tables.todayStart ≤ session.createdAt)

/-- Created today, with its five boxes, and filled by contributions. -/
inductive Today (tables : Tables) (roomId : RoomId) (sessionId : SessionId) : Prop where
  | charging (only : OnlyLadder tables roomId sessionId) (level : Nat)
      (climbing : Climbing tables sessionId level) (complete : Complete tables sessionId)
  | done (only : OnlyLadder tables roomId sessionId) (completed : Completed tables sessionId)

variable {roomId : RoomId}

theorem OnlyLadder.of_leaves {before : Tables} (only : OnlyLadder before roomId sessionId)
    (leaves : Leaves before after sessionId) : OnlyLadder after roomId sessionId where
  ids := by
    rw [ids_of_leaves leaves]
    exact only.ids
  own := by
    obtain ⟨session, found, isRoom, today⟩ := only.own
    obtain ⟨status, level, written⟩ := leaves.sessions
    refine ⟨(session.withStatus status).atLevel level, ?_, isRoom, ?_⟩
    · have keeps : KeyedRows.KeepsKey TreasureSession.id fun session =>
          (session.withStatus status).atLevel level := fun _ => rfl
      unfold findSession at found ⊢
      rw [written]
      exact KeyedRows.find_update_self keeps found
    · unfold todayStart at today ⊢
      rw [leaves.now]
      exact today
  others := by
    intro session member isRoom isOther
    obtain ⟨earlier, inside, -, -, -, same⟩ := row_of_leaves leaves member
    obtain rfl := same isOther
    unfold todayStart
    rw [leaves.now]
    exact only.others session inside isRoom isOther

theorem getActiveSession_of_only (only : OnlyLadder tables roomId sessionId)
    {session : TreasureSession} (found : tables.findSession sessionId = some session)
    (isActive : session.status = .active) : tables.getActiveSession roomId = some session := by
  obtain ⟨own, isOwn, isRoom, -⟩ := only.own
  rw [found] at isOwn
  cases isOwn
  cases isFound : tables.getActiveSession roomId with
  | none =>
      have missed := List.find?_eq_none.mp isFound session (KeyedRows.mem_of_find found)
      exact absurd (decide_eq_true ⟨isRoom, isActive⟩) missed
  | some other =>
      obtain ⟨member, otherRoom, otherActive⟩ := getActiveSession_eq_some isFound
      have same : other.id = sessionId := by
        by_contra different
        exact (only.others other member otherRoom different).1 otherActive
      have isRow := findSession_of_mem only.ids member
      rw [same, found] at isRow
      exact isRow.symm

theorem getActiveSession_of_inactive (only : OnlyLadder tables roomId sessionId)
    {session : TreasureSession} (found : tables.findSession sessionId = some session)
    (inactive : session.status ≠ .active) : tables.getActiveSession roomId = none := by
  cases isFound : tables.getActiveSession roomId with
  | none => rfl
  | some other =>
      obtain ⟨member, otherRoom, otherActive⟩ := getActiveSession_eq_some isFound
      have same : other.id = sessionId := by
        by_contra different
        exact (only.others other member otherRoom different).1 otherActive
      have isRow := findSession_of_mem only.ids member
      rw [same, found] at isRow
      cases isRow
      exact absurd otherActive inactive

theorem completedSince_of_only (only : OnlyLadder tables roomId sessionId)
    {session : TreasureSession} (found : tables.findSession sessionId = some session)
    (uncompleted : session.status ≠ .completed) :
    tables.completedSince roomId tables.todayStart = none := by
  rw [completedSince, List.find?_eq_none]
  intro other member matched
  obtain ⟨otherRoom, isCompleted, today⟩ := of_decide_eq_true matched
  by_cases same : other.id = sessionId
  · have isRow := findSession_of_mem only.ids member
    rw [same, found] at isRow
    cases isRow
    exact uncompleted isCompleted
  · exact (only.others other member otherRoom same).2 ⟨isCompleted, today⟩

theorem completedSince_of_completed (only : OnlyLadder tables roomId sessionId)
    {session : TreasureSession} (found : tables.findSession sessionId = some session)
    (isCompleted : session.status = .completed) :
    (tables.completedSince roomId tables.todayStart).isSome = true := by
  obtain ⟨own, isOwn, isRoom, today⟩ := only.own
  rw [found] at isOwn
  cases isOwn
  rw [completedSince, List.find?_isSome]
  exact ⟨session, KeyedRows.mem_of_find found, decide_eq_true ⟨isRoom, isCompleted, today⟩⟩

end Soulzaa.Treasure
