/-
TreasureEventService.handleGiftSent, after the transaction of the gift.

The same gift is offered to the ladder twice: by the transaction of the send, and by the
listener of its event, which leaves a gift alone that has contributions already.  Whatever
the rows are, each of the two advances the boxes by what it accepts.
-/

import Soulzaa.Treasure.Capacity

namespace Soulzaa.Treasure

open TreasureConfigurationService Tables TreasureService

/-- The payload of a `GiftSentEvent`. -/
structure GiftSent where
  contextId : RoomId
  senderId : UserId
  receiverId : UserId
  totalCoinValue : Int
  transactionId : GiftTxnId
  deriving DecidableEq, Repr

namespace TreasureEventService

/-- A self-gift fills the box but does not rank for it. -/
def giftProgress (gift : GiftSent) : GiftProgress :=
  { roomId := gift.contextId
    userId := gift.senderId
    amount := gift.totalCoinValue
    giftTxnId := some gift.transactionId
    countsTowardRanking := gift.receiverId ≠ gift.senderId }

/-- The tables, and the coins credited back to the sender.  The caller only logs a call
that throws. -/
def handleGiftSent (fuel : Nat) (tables : Tables) (gift : GiftSent) : Tables × Int :=
  if gift.contextId = "" ∨ gift.totalCoinValue ≤ 0 then (tables, 0)
  else
    match TreasureProgressService.applyGiftProgress fuel tables (giftProgress gift) with
    | none => (tables, 0)
    | some (after, result) =>
        (after, if 0 < result.refundAmount then toNumber result.refundAmount else 0)

end TreasureEventService

open TreasureEventService

/-- What the transaction leaves and refunds, and what the listener leaves and returns. -/
structure Conveyance where
  sent : Tables
  refunded : Int
  after : Tables
  returned : Int

/-- The gift goes through the transaction and then the listener; a transaction that
throws is rolled back, and publishes no event. -/
def conveys (fuel : Nat) (tables : Tables) (gift : GiftSent) : Option Conveyance :=
  (processTreasureContribution fuel tables gift.contextId gift.senderId gift.totalCoinValue
      gift.transactionId).map fun processed =>
    { sent := processed.1
      refunded := processed.2.refundAmount
      after := (handleGiftSent fuel processed.1 gift).1
      returned := (handleGiftSent fuel processed.1 gift).2 }

/-- The coins in all boxes. -/
def boxedCoins (tables : Tables) : Int := (tables.boxes.map TreasureBox.progress).sum

/-! ### Rows that are told apart -/

/-- Sessions and boxes have keys of their own, and an active session is at one of the
levels.  Nothing is said of the boxes' rows. -/
structure Keyed (tables : Tables) : Prop where
  numbered : tables.sessions.map TreasureSession.id = List.range tables.sessions.length
  distinct : (tables.boxes.map TreasureBox.id).Nodup
  owned : ∀ box ∈ tables.boxes, box.sessionId < tables.sessions.length
  levels : ∀ session ∈ tables.sessions, session.status = .active →
    session.currentLevel ≤ treasureBoxCount

/-- The rows are told apart still, and no coin and no contribution was added. -/
structure Stays (tables after : Tables) : Prop where
  keyed : Keyed after
  coins : boxedCoins after = boxedCoins tables
  contributions : after.contributions = tables.contributions

variable {tables middle after : Tables} {sessionId : SessionId} {level : Nat} {box : TreasureBox}
  {id : BoxId} {gift : GiftProgress} {session : TreasureSession} {roomId : RoomId}

theorem Stays.trans (first : Stays tables middle) (second : Stays middle after) :
    Stays tables after :=
  ⟨second.keyed, second.coins.trans first.coins,
    second.contributions.trans first.contributions⟩

theorem Stays.refl (keyed : Keyed tables) : Stays tables tables := ⟨keyed, rfl, rfl⟩

theorem Keyed.ids (keyed : Keyed tables) : (tables.sessions.map TreasureSession.id).Nodup := by
  rw [keyed.numbered]
  exact List.nodup_range

theorem issued_of_found (keyed : Keyed tables)
    (found : (tables.findSession sessionId).isSome = true) :
    sessionId < tables.sessions.length := by
  obtain ⟨session, isRow⟩ := Option.isSome_iff_exists.mp found
  have member : session.id ∈ tables.sessions.map TreasureSession.id :=
    List.mem_map_of_mem (KeyedRows.mem_of_find isRow)
  rw [keyed.numbered, KeyedRows.key_of_find isRow] at member
  exact List.mem_range.mp member

theorem keyed_changeBox (keyed : Keyed tables) {change : TreasureBox → TreasureBox}
    (keeps : KeyedRows.KeepsKey TreasureBox.id change) : Keyed (tables.changeBox id change) where
  numbered := keyed.numbered
  distinct := (writes_changeBox tables id keeps).distinct keyed.distinct
  owned := by
    intro box member
    obtain ⟨earlier, inside, isRow⟩ := KeyedRows.mem_update member
    have sameSession : box.sessionId = earlier.sessionId := by
      rw [isRow]
      exact congrArg Prod.fst (keeps.written earlier)
    rw [sameSession]
    exact keyed.owned earlier inside
  levels := keyed.levels

theorem boxedCoins_changeBox (keyed : Keyed tables) {change : TreasureBox → TreasureBox}
    (found : tables.findBox id = some box) :
    boxedCoins (tables.changeBox id change) =
      boxedCoins tables + ((change box).progress - box.progress) := by
  unfold boxedCoins changeBox
  apply KeyedRows.sum_update _ _ keyed.distinct found
  omega

theorem stays_updateBox (keyed : Keyed tables) {change : TreasureBox → TreasureBox}
    (keeps : KeyedRows.KeepsKey TreasureBox.id change)
    (same : ∀ box, (change box).progress = box.progress)
    (updated : tables.updateBox id change = some after) : Stays tables after := by
  obtain ⟨⟨box, found⟩, rfl⟩ := changeBox_of_updateBox updated
  refine ⟨keyed_changeBox keyed keeps, ?_, rfl⟩
  rw [boxedCoins_changeBox keyed found, same box, sub_self, add_zero]

/-- An active session stays at one of the levels. -/
def KeepsLevels (change : TreasureSession → TreasureSession) : Prop :=
  ∀ session, (session.status = .active → session.currentLevel ≤ treasureBoxCount) →
    (change session).status = .active → (change session).currentLevel ≤ treasureBoxCount

theorem keepsLevels_completed : KeepsLevels (TreasureSession.withStatus .completed) := by
  intro session _ isActive
  cases isActive

theorem keepsLevels_atLevel (inRange : level ≤ treasureBoxCount) :
    KeepsLevels (TreasureSession.atLevel level) := fun _ _ _ => inRange

theorem stays_changeSession (keyed : Keyed tables) {change : TreasureSession → TreasureSession}
    (keeps : KeyedRows.KeepsKey TreasureSession.id change) (levels : KeepsLevels change) :
    Stays tables (tables.changeSession sessionId change) where
  keyed :=
    { numbered := by
        unfold changeSession
        dsimp only
        rw [KeyedRows.keys_update keeps, keyed.numbered, KeyedRows.update, List.length_map]
      distinct := keyed.distinct
      owned := by
        intro box member
        unfold changeSession KeyedRows.update
        rw [List.length_map]
        exact keyed.owned box member
      levels := by
        intro session member isActive
        obtain ⟨earlier, inside, isRow⟩ := KeyedRows.mem_update member
        have atLevel := keyed.levels earlier inside
        split at isRow
        · subst isRow
          exact levels earlier atLevel isActive
        · subst isRow
          exact atLevel isActive }
  coins := rfl
  contributions := rfl

theorem stays_updateSession (keyed : Keyed tables) {change : TreasureSession → TreasureSession}
    (keeps : KeyedRows.KeepsKey TreasureSession.id change) (levels : KeepsLevels change)
    (updated : tables.updateSession sessionId change = some after) : Stays tables after := by
  obtain rfl := changeSession_of_updateSession updated
  exact stays_changeSession keyed keeps levels

theorem isSome_findSession_changeSession {change : TreasureSession → TreasureSession}
    (keeps : KeyedRows.KeepsKey TreasureSession.id change) (other : SessionId) :
    ((tables.changeSession sessionId change).findSession other).isSome =
      (tables.findSession other).isSome := by
  rw [findSession_changeSession keeps]
  split
  · rw [Option.isSome_map]
  · rfl

theorem stays_addBox (keyed : Keyed tables) (absent : tables.findBox box.id = none)
    (isSession : box.sessionId < tables.sessions.length) (empty : box.progress = 0) :
    Stays tables (tables.addBox box) where
  keyed :=
    { numbered := keyed.numbered
      distinct := (writes_addBox absent).distinct keyed.distinct
      owned := by
        intro other member
        rcases List.mem_append.mp member with inside | added
        · exact keyed.owned other inside
        · rw [List.mem_singleton.mp added]
          exact isSession
      levels := keyed.levels }
  coins := by
    unfold boxedCoins addBox
    rw [List.map_append, List.sum_append, List.map_singleton, List.sum_singleton, empty, add_zero]
  contributions := rfl

theorem stays_createBox (keyed : Keyed tables)
    (isSession : box.sessionId < tables.sessions.length) (empty : box.progress = 0)
    (created : tables.createBox box = some after) :
    Stays tables after ∧ after.sessions = tables.sessions := by
  unfold createBox at created
  split at created
  · cases created
  · rename_i isNew
    cases created
    exact ⟨stays_addBox keyed (Option.not_isSome_iff_eq_none.mp isNew) isSession empty, rfl⟩

theorem stays_createSession (keyed : Keyed tables) (roomId : RoomId) :
    Stays tables (tables.createSession (tables.newSession roomId)) where
  keyed :=
    { numbered := by
        unfold createSession newSession
        dsimp only
        rw [List.map_append, List.length_append, List.length_singleton, List.range_succ,
          keyed.numbered]
        rfl
      distinct := keyed.distinct
      owned := by
        intro box member
        have earlier := keyed.owned box member
        unfold createSession
        dsimp only
        rw [List.length_append]
        exact Nat.lt_add_right _ earlier
      levels := by
        intro session member isActive
        rcases List.mem_append.mp member with inside | added
        · exact keyed.levels session inside isActive
        · rw [List.mem_singleton.mp added]
          change 1 ≤ treasureBoxCount
          decide }
  coins := rfl
  contributions := rfl

theorem stays_createBoxes {levels : List (Nat × Int)} (keyed : Keyed tables)
    (isSession : sessionId < tables.sessions.length)
    (created : createBoxes tables sessionId levels = some after) : Stays tables after := by
  induction levels generalizing tables with
  | nil =>
      cases created
      exact Stays.refl keyed
  | cons first rest ih =>
      obtain ⟨level, threshold⟩ := first
      unfold createBoxes at created
      split at created
      · cases created
      · rename_i added adds
        obtain ⟨stays, sessions⟩ := stays_createBox keyed isSession rfl adds
        have isSession : sessionId < added.sessions.length := by
          rw [sessions]
          exact isSession
        exact stays.trans (ih stays.keyed isSession created)

/-! ### The ladder of the transaction -/

theorem stays_sessionOfToday {found : Option TreasureSession} (keyed : Keyed tables)
    (isFound : sessionOfToday tables roomId = some (after, found)) : Stays tables after := by
  unfold sessionOfToday at isFound
  split at isFound
  · split at isFound
    · obtain ⟨finished, finishes, isPair⟩ := Option.map_eq_some_iff.mp isFound
      cases isPair
      exact stays_updateSession keyed (keeps_withStatus _) keepsLevels_completed finishes
    · cases isFound
      exact Stays.refl keyed
  · cases isFound
    exact Stays.refl keyed

theorem stays_autoStart {found : Option TreasureSession} (keyed : Keyed tables)
    (started : autoStart tables roomId = some (after, found)) : Stays tables after := by
  unfold autoStart at started
  split at started
  · cases started
    exact Stays.refl keyed
  · dsimp only at started
    split at started
    · split at started
      · cases started
      · rename_i levels isLadder
        obtain ⟨created, creates, isPair⟩ := Option.map_eq_some_iff.mp started
        cases isPair
        have opening := stays_createSession keyed roomId
        have isSession : (tables.newSession roomId).id <
            (tables.createSession (tables.newSession roomId)).sessions.length := by
          unfold createSession
          dsimp only
          rw [List.length_append]
          exact Nat.lt_succ_self _
        exact opening.trans (stays_createBoxes opening.keyed isSession creates)
    · cases started
      exact Stays.refl keyed

theorem stays_ladderOf {found : Option TreasureSession} (keyed : Keyed tables)
    (isLadder : ladderOf tables roomId = some (after, found)) : Stays tables after := by
  unfold ladderOf at isLadder
  split at isLadder
  · cases isLadder
  · rename_i isFound
    cases isLadder
    exact stays_sessionOfToday keyed isFound
  · rename_i finished isFound
    have stays := stays_sessionOfToday keyed isFound
    exact stays.trans (stays_autoStart stays.keyed isLadder)

/-! ### The loop of the transaction -/

/-- What a round leaves: the boxes hold what was accepted, and the gift is recorded once
something was. -/
structure Contributed (opening : Tables) (amount : Int) (giftTxnId : GiftTxnId)
    (state : Contributing) : Prop where
  keyed : Keyed state.tables
  coins : boxedCoins state.tables = boxedCoins opening + state.acceptedAmount
  whole : state.acceptedAmount + state.refundAmount + state.remainingAmount = amount
  left : 0 ≤ state.remainingAmount
  recorded : 0 < state.acceptedAmount → (state.tables.existingTx giftTxnId).isSome = true

variable {opening : Tables} {amount : Int} {giftTxnId : GiftTxnId} {state next : Contributing}

theorem contributed_contributing (keyed : Keyed tables) (nonneg : 0 ≤ amount) :
    Contributed tables amount giftTxnId (contributing tables amount) where
  keyed := keyed
  coins := (add_zero _).symm
  whole := by
    unfold contributing
    dsimp only
    omega
  left := nonneg
  recorded := fun accepted => absurd accepted (lt_irrefl 0)

theorem existingTx_of_contributions (same : after.contributions = tables.contributions)
    (giftTxnId : GiftTxnId) : after.existingTx giftTxnId = tables.existingTx giftTxnId := by
  unfold existingTx
  rw [same]

theorem contributed_of_stays (contributed : Contributed opening amount giftTxnId state)
    (stays : Stays state.tables after) :
    Contributed opening amount giftTxnId { state with tables := after } where
  keyed := stays.keyed
  coins := stays.coins.trans contributed.coins
  whole := contributed.whole
  left := contributed.left
  recorded := by
    intro accepted
    dsimp only
    rw [existingTx_of_contributions stays.contributions]
    exact contributed.recorded accepted

theorem contributed_refundRest (contributed : Contributed opening amount giftTxnId state) :
    Contributed opening amount giftTxnId (refundRest state) where
  keyed := contributed.keyed
  coins := contributed.coins
  whole := by
    have whole := contributed.whole
    unfold refundRest
    dsimp only
    omega
  left := le_refl 0
  recorded := contributed.recorded

/-- The session goes to the next level, and its box is made active. -/
theorem stays_leveled (keyed : Keyed tables) (isBelow : level < treasureBoxCount)
    {boxId : BoxId} (levels : tables.updateSession sessionId (TreasureSession.atLevel (level + 1)) =
      some middle) (activates : middle.updateBox boxId TreasureBox.activated = some after) :
    Stays tables after := by
  have leveled := stays_updateSession keyed (keeps_atLevel _)
    (keepsLevels_atLevel (Nat.succ_le_of_lt isBelow)) levels
  exact leveled.trans (stays_updateBox leveled.keyed keeps_activated (fun _ => rfl) activates)

theorem contributed_afterOpening (contributed : Contributed opening amount giftTxnId state)
    (opens : afterOpening sessionId level state = some next) :
    Contributed opening amount giftTxnId next := by
  unfold afterOpening at opens
  split at opens
  · obtain ⟨completed, completes, isNext⟩ := Option.map_eq_some_iff.mp opens
    have ended := contributed_of_stays contributed
      (stays_updateSession contributed.keyed (keeps_withStatus _) keepsLevels_completed completes)
    dsimp only at isNext
    split at isNext
    · subst isNext
      exact contributed_refundRest ended
    · subst isNext
      exact ended
  · rename_i isBelow
    split at opens
    · cases opens
    · rename_i leveled levels
      obtain ⟨activated, activates, isNext⟩ := Option.map_eq_some_iff.mp opens
      subst isNext
      exact contributed_of_stays contributed
        (stays_leveled contributed.keyed (Nat.not_le.mp isBelow) levels activates)

/-- The box and the contribution that records the coins are written together. -/
theorem contributed_of_added (contributed : Contributed opening amount giftTxnId state)
    (isGift : gift.giftTxnId = some giftTxnId) {added : Int} (fits : added ≤ state.remainingAmount)
    (found : state.tables.findBox id = some box)
    (updated : (state.tables.addContribution (gift.contribution id added)).updateBox id
      (TreasureBox.incremented added) = some after) :
    Contributed opening amount giftTxnId
      { state with
        tables := after
        acceptedAmount := state.acceptedAmount + added
        remainingAmount := state.remainingAmount - added } := by
  obtain ⟨-, rfl⟩ := changeBox_of_updateBox updated
  have recordedKeyed : Keyed (state.tables.addContribution (gift.contribution id added)) :=
    ⟨contributed.keyed.numbered, contributed.keyed.distinct, contributed.keyed.owned,
      contributed.keyed.levels⟩
  have whole := contributed.whole
  have coins := contributed.coins
  refine ⟨keyed_changeBox recordedKeyed (keeps_incremented added), ?_, ?_, ?_, ?_⟩
  · dsimp only
    rw [boxedCoins_changeBox recordedKeyed found]
    change boxedCoins state.tables + (box.progress + added - box.progress) = _
    omega
  · dsimp only
    omega
  · exact sub_nonneg.mpr fits
  · intro _
    unfold existingTx changeBox addContribution
    rw [List.find?_isSome]
    refine ⟨gift.contribution id added, List.mem_append_right _ (List.mem_singleton_self _), ?_⟩
    exact decide_eq_true isGift

theorem contributed_addToBox (contributed : Contributed opening amount giftTxnId state)
    (isGift : gift.giftTxnId = some giftTxnId) {added : Int} (fits : added ≤ state.remainingAmount)
    (found : state.tables.findBox id = some box)
    (adds : addToBox session box gift added state = some next) :
    Contributed opening amount giftTxnId next := by
  have isBoxId : box.id = id := key_of_findBox found
  unfold addToBox at adds
  dsimp only at adds
  rw [isBoxId] at adds
  split at adds
  · cases adds
  · rename_i updated updates
    have taken := contributed_of_added contributed isGift fits found updates
    split at adds
    · cases adds
    · split at adds
      · split at adds
        · cases adds
        · rename_i opened opens
          have openedStays := stays_updateBox taken.keyed (keeps_boxStatus _) (fun _ => rfl) opens
          exact contributed_afterOpening (contributed_of_stays taken openedStays) adds
      · cases adds
        exact taken

theorem contributed_pastFullBox (contributed : Contributed opening amount giftTxnId state)
    (sameLevel : box.level = session.currentLevel)
    (past : pastFullBox session box state = some next) :
    Contributed opening amount giftTxnId next := by
  unfold pastFullBox at past
  rw [sameLevel] at past
  split at past
  · cases past
    exact contributed_refundRest contributed
  · rename_i isBelow
    split at past
    · cases past
    · rename_i leveled levels
      obtain ⟨activated, activates, isNext⟩ := Option.map_eq_some_iff.mp past
      subst isNext
      exact contributed_of_stays contributed
        (stays_leveled contributed.keyed (Nat.not_le.mp isBelow) levels activates)

theorem contributed_contribute (contributed : Contributed opening amount giftTxnId state)
    (isGift : gift.giftTxnId = some giftTxnId)
    (contributes : contribute sessionId gift state = some next) :
    Contributed opening amount giftTxnId next := by
  unfold contribute at contributes
  split at contributes
  · cases contributes
    exact contributed_refundRest contributed
  · rename_i session row
    split at contributes
    · cases contributes
      exact contributed_refundRest contributed
    · split at contributes
      · cases contributes
        exact contributed_refundRest contributed
      · rename_i box found
        split at contributes
        · cases contributes
          exact contributed_refundRest contributed
        · dsimp only at contributes
          split at contributes
          · exact contributed_pastFullBox contributed
              (congrArg Prod.snd (key_of_findBox found)) contributes
          · refine contributed_addToBox contributed isGift ?_ found contributes
            split
            · assumption
            · exact le_refl _

theorem contributed_contributeAll {fuel : Nat} {done : Contributing}
    (contributed : Contributed opening amount giftTxnId state)
    (isGift : gift.giftTxnId = some giftTxnId)
    (contributes : contributeAll sessionId gift fuel state = some done) :
    Contributed opening amount giftTxnId done ∧ done.remainingAmount = 0 := by
  induction fuel generalizing state with
  | zero =>
      unfold contributeAll at contributes
      split at contributes
      · cases contributes
      · rename_i spent
        cases contributes
        exact ⟨contributed, le_antisymm (Int.not_lt.mp spent) contributed.left⟩
  | succ fuel ih =>
      unfold contributeAll at contributes
      split at contributes
      · dsimp only at contributes
        cases isNext : contribute sessionId gift state with
        | none =>
            rw [isNext] at contributes
            cases contributes
        | some next =>
            rw [isNext] at contributes
            exact ih (contributed_contribute contributed isGift isNext) contributes
      · rename_i spent
        cases contributes
        exact ⟨contributed, le_antisymm (Int.not_lt.mp spent) contributed.left⟩

/-! ### The loop of the listener -/

/-- What a round of the listener leaves: the boxes hold what is neither left nor refunded. -/
structure Filled (opening : Tables) (sessionId : SessionId) (gift : GiftProgress)
    (filling : Filling) : Prop where
  keyed : Keyed filling.tables
  row : (filling.tables.findSession sessionId).isSome = true
  coins : boxedCoins filling.tables + filling.remainingContribution + filling.refundAmount =
    boxedCoins opening + gift.amount
  left : 0 ≤ filling.remainingContribution
  refunds : 0 ≤ filling.refundAmount
  ranks : gift.countsTowardRanking = false →
    filling.tables.contributions = opening.contributions

/-- The round ends the loop, or goes to the next level with nothing refunded. -/
def Proceeds (filling next : Filling) : Prop :=
  next.remainingContribution = 0 ∨
    (next.currentLevel = filling.currentLevel + 1 ∧ next.currentLevel ≤ treasureBoxCount ∧
      next.refundAmount = 0)

variable {filling later : Filling}

theorem filled_of_stays (filled : Filled opening sessionId gift filling)
    (stays : Stays filling.tables after)
    (row : (after.findSession sessionId).isSome = true) :
    Filled opening sessionId gift { filling with tables := after } where
  keyed := stays.keyed
  row := row
  coins := by
    have coins := filled.coins
    have same := stays.coins
    dsimp only
    omega
  left := filled.left
  refunds := filled.refunds
  ranks := fun unranked => stays.contributions.trans (filled.ranks unranked)

theorem boxAt_of_keyed (keyed : Keyed tables)
    (row : (tables.findSession sessionId).isSome = true) (level : Nat) :
    ∃ found box, boxAt tables sessionId level = some (found, box) ∧ Stays tables found ∧
      found.findBox (sessionId, level) = some box ∧ found.sessions = tables.sessions := by
  unfold boxAt
  cases isFound : tables.findBox (sessionId, level) with
  | some box => exact ⟨tables, box, rfl, Stays.refl keyed, isFound, rfl⟩
  | none =>
      have isNew : tables.findBox (newBox tables sessionId level).id = none := isFound
      dsimp only
      rw [createBox_of_absent isNew]
      refine ⟨_, _, rfl, stays_addBox keyed isNew (issued_of_found keyed row) rfl, ?_, rfl⟩
      rw [findBox_addBox isNew]
      exact if_pos rfl

theorem unlock_of_keyed (keyed : Keyed tables)
    (row : (tables.findSession sessionId).isSome = true) (level : Nat) :
    ∃ unlocked, unlock tables sessionId level = some unlocked ∧ Stays tables unlocked ∧
      unlocked.sessions = tables.sessions := by
  unfold unlock
  cases isFound : tables.findBox (sessionId, level) with
  | some box =>
      dsimp only
      have updated : tables.updateBox (sessionId, level) TreasureBox.activated =
          some (tables.changeBox (sessionId, level) TreasureBox.activated) :=
        updateBox_of_found isFound
      exact ⟨_, updated, stays_updateBox keyed keeps_activated (fun _ => rfl) updated, rfl⟩
  | none =>
      have isNew : tables.findBox (newBox tables sessionId level).id = none := isFound
      dsimp only
      rw [createBox_of_absent isNew]
      exact ⟨_, rfl, stays_addBox keyed isNew (issued_of_found keyed row) rfl, rfl⟩

theorem row_of_sessions (row : (tables.findSession sessionId).isSome = true)
    (same : after.sessions = tables.sessions) : (after.findSession sessionId).isSome = true := by
  unfold findSession
  rw [same]
  exact row

theorem updateSession_of_row {change : TreasureSession → TreasureSession}
    (row : (tables.findSession sessionId).isSome = true) :
    tables.updateSession sessionId change = some (tables.changeSession sessionId change) :=
  if_pos row

theorem advance_of_filled (filled : Filled opening sessionId gift filling)
    (unrefunded : filling.refundAmount = 0) :
    ∃ next, advance sessionId filling = some next ∧ Filled opening sessionId gift next ∧
      (next.remainingContribution = 0 ∨
        (next.currentLevel = filling.currentLevel ∧ next.currentLevel ≤ treasureBoxCount ∧
          next.refundAmount = 0)) := by
  unfold advance
  split
  · rw [updateSession_of_row filled.row]
    have stays : Stays filling.tables
        (filling.tables.changeSession sessionId (TreasureSession.withStatus .completed)) :=
      stays_changeSession filled.keyed (keeps_withStatus _) keepsLevels_completed
    have row : ((filling.tables.changeSession sessionId
        (TreasureSession.withStatus .completed)).findSession sessionId).isSome = true := by
      rw [isSome_findSession_changeSession (keeps_withStatus _)]
      exact filled.row
    obtain ⟨keyed, row, coins, left, refunds, ranks⟩ := filled_of_stays filled stays row
    refine ⟨_, rfl, ⟨keyed, row, ?_, ?_, ?_, ranks⟩, Or.inl ?_⟩
    · dsimp only at coins ⊢
      split <;> omega
    · dsimp only
      split <;> omega
    · dsimp only
      split <;> omega
    · dsimp only at left ⊢
      split <;> omega
  · rename_i within
    have inRange : filling.currentLevel ≤ treasureBoxCount := Nat.not_lt.mp within
    obtain ⟨unlocked, unlocks, stays, sessions⟩ :=
      unlock_of_keyed filled.keyed filled.row filling.currentLevel
    have row := row_of_sessions filled.row sessions
    rw [unlocks]
    dsimp only
    rw [updateSession_of_row row]
    have leveled : Stays filling.tables
        (unlocked.changeSession sessionId (TreasureSession.atLevel filling.currentLevel)) :=
      stays.trans (stays_changeSession stays.keyed (keeps_atLevel _) (keepsLevels_atLevel inRange))
    refine ⟨_, rfl, filled_of_stays filled leveled ?_, Or.inr ⟨rfl, inRange, unrefunded⟩⟩
    rw [isSome_findSession_changeSession (keeps_atLevel _)]
    exact row

theorem recordContribution_unranked (unranked : gift.countsTowardRanking = false)
    (boxId : BoxId) (amount : Int) : recordContribution tables gift boxId amount = tables := by
  unfold recordContribution
  rw [if_neg (by rw [unranked]; exact Bool.false_ne_true)]

theorem keyed_recordContribution (keyed : Keyed tables) (boxId : BoxId) (amount : Int) :
    Keyed (recordContribution tables gift boxId amount) := by
  unfold recordContribution
  split
  · exact ⟨keyed.numbered, keyed.distinct, keyed.owned, keyed.levels⟩
  · exact keyed

theorem boxedCoins_recordContribution (tables : Tables) (boxId : BoxId) (amount : Int) :
    boxedCoins (recordContribution tables gift boxId amount) = boxedCoins tables := by
  unfold recordContribution
  split <;> rfl

/-- A box takes coins that were left, and the gift is recorded or not. -/
theorem filled_of_progress (filled : Filled opening sessionId gift filling)
    (found : filling.tables.findBox id = some box) (progress : Int) (status : TreasureBoxStatus)
    {written : Tables}
    (isWritten : written = filling.tables.changeBox id (TreasureBox.withProgress progress status) ∨
      ∃ recorded, written = recordContribution
        (filling.tables.changeBox id (TreasureBox.withProgress progress status)) gift id recorded)
    (level : Nat) (completed : List CompletedBox) {left : Int} (nonneg : 0 ≤ left)
    (isLeft : left = filling.remainingContribution - (progress - box.progress)) :
    Filled opening sessionId gift
      { filling with
        tables := written
        currentLevel := level
        remainingContribution := left
        completedBoxes := completed } := by
  have keyed : Keyed (filling.tables.changeBox id (TreasureBox.withProgress progress status)) :=
    keyed_changeBox filled.keyed (keeps_withProgress _ _)
  have takes : boxedCoins (filling.tables.changeBox id (TreasureBox.withProgress progress status)) =
      boxedCoins filling.tables + (progress - box.progress) :=
    boxedCoins_changeBox filled.keyed found
  have coins := filled.coins
  rcases isWritten with rfl | ⟨recorded, rfl⟩
  · refine ⟨keyed, filled.row, ?_, nonneg, filled.refunds, filled.ranks⟩
    dsimp only
    omega
  · refine ⟨keyed_recordContribution keyed _ _, ?_, ?_, nonneg, filled.refunds, ?_⟩
    · dsimp only
      unfold recordContribution
      split <;> exact filled.row
    · dsimp only
      rw [boxedCoins_recordContribution]
      omega
    · intro unranked
      dsimp only
      rw [recordContribution_unranked unranked]
      exact filled.ranks unranked

theorem fillBox_of_filled (filled : Filled opening sessionId gift filling)
    (unrefunded : filling.refundAmount = 0) :
    ∃ next, fillBox sessionId gift filling = some next ∧ Filled opening sessionId gift next ∧
      Proceeds filling next := by
  obtain ⟨found, box, isBox, stays, isFound, sessions⟩ :=
    boxAt_of_keyed filled.keyed filled.row filling.currentLevel
  have isId : box.id = (sessionId, filling.currentLevel) := key_of_findBox isFound
  have present : Filled opening sessionId gift { filling with tables := found } :=
    filled_of_stays filled stays (row_of_sessions filled.row sessions)
  unfold fillBox
  rw [isBox]
  dsimp only
  rw [isId, updateBox_of_found isFound, updateBox_of_found isFound]
  split
  · rename_i fills
    dsimp only
    refine advance_of_filled (filled_of_progress present isFound box.threshold .opened ?_ _ _
      (sub_nonneg.mpr fills) rfl) unrefunded
    split
    · exact Or.inr ⟨_, rfl⟩
    · exact Or.inl rfl
  · refine ⟨_, rfl, ?_, Or.inl rfl⟩
    refine filled_of_progress present isFound _ _ (Or.inr ⟨_, rfl⟩) _ _ (le_refl 0) ?_
    dsimp only
    omega

/-- Six less the level rounds are enough, whatever the rows of the boxes are. -/
theorem fillBoxes_of_filled (filled : Filled opening sessionId gift filling)
    (inRange : filling.currentLevel ≤ treasureBoxCount) (unrefunded : filling.refundAmount = 0) :
    ∃ final, (∀ fuel, treasureBoxCount + 1 - filling.currentLevel ≤ fuel →
        fillBoxes sessionId gift fuel filling = some final) ∧
      Filled opening sessionId gift final ∧ final.remainingContribution = 0 := by
  induction rounds : treasureBoxCount - filling.currentLevel using Nat.strong_induction_on
    generalizing filling with
  | _ rounds ih =>
    by_cases spent : filling.remainingContribution = 0
    · refine ⟨filling, ?_, filled, spent⟩
      intro fuel _
      apply fillBoxes_of_stopped
      unfold Filling.goesOn
      rw [spent]
      simp
    · have positive : 0 < filling.remainingContribution :=
        lt_of_le_of_ne filled.left (Ne.symm spent)
      have goesOn : filling.goesOn = true := decide_eq_true ⟨positive, inRange⟩
      obtain ⟨next, isNext, filledNext, proceeds⟩ := fillBox_of_filled filled unrefunded
      have oneRound : ∀ fuel, fillBoxes sessionId gift (fuel + 1) filling =
          fillBoxes sessionId gift fuel next := by
        intro fuel
        rw [fillBoxes, if_pos goesOn, isNext]
      have later : ∃ final, (∀ fuel, treasureBoxCount - filling.currentLevel ≤ fuel →
            fillBoxes sessionId gift fuel next = some final) ∧
          Filled opening sessionId gift final ∧ final.remainingContribution = 0 := by
        rcases proceeds with isSpent | ⟨higher, within, unrefundedNext⟩
        · refine ⟨next, ?_, filledNext, isSpent⟩
          intro fuel _
          apply fillBoxes_of_stopped
          unfold Filling.goesOn
          rw [isSpent]
          simp
        · obtain ⟨final, fills, filledFinal, isSpent⟩ :=
            ih (treasureBoxCount - next.currentLevel) (by omega) filledNext within unrefundedNext
              rfl
          refine ⟨final, ?_, filledFinal, isSpent⟩
          intro fuel enough
          exact fills fuel (by omega)
      obtain ⟨final, fills, filledFinal, isSpent⟩ := later
      refine ⟨final, ?_, filledFinal, isSpent⟩
      intro fuel enough
      obtain ⟨fewer, rfl⟩ : ∃ fewer, fuel = fewer + 1 := ⟨fuel - 1, by omega⟩
      rw [oneRound]
      exact fills fewer (by omega)

/-! ### The listener -/

/-- The boxes take what is not refunded. -/
structure Delivers (tables : Tables) (gift : GiftProgress) (after : Tables)
    (result : ProgressResult) : Prop where
  keyed : Keyed after
  coins : boxedCoins after + result.refundAmount = boxedCoins tables + gift.amount
  refunds : 0 ≤ result.refundAmount
  ranks : gift.countsTowardRanking = false → after.contributions = tables.contributions

theorem fillSession_of_keyed (keyed : Keyed tables)
    (row : (tables.findSession session.id).isSome = true)
    (inRange : session.currentLevel ≤ treasureBoxCount) (nonneg : 0 ≤ gift.amount) :
    ∃ after result, (∀ fuel, enoughRounds ≤ fuel →
        TreasureProgressService.fillSession fuel tables session gift = some (after, result)) ∧
      Delivers tables gift after result := by
  have filled : Filled tables session.id gift (filling tables session.currentLevel gift.amount) :=
    ⟨keyed, row, add_zero _, nonneg, le_refl 0, fun _ => rfl⟩
  obtain ⟨final, fills, filledFinal, spent⟩ := fillBoxes_of_filled filled inRange rfl
  have coins := filledFinal.coins
  refine ⟨final.tables, TreasureProgressService.progressResult gift session.id final, ?_,
    filledFinal.keyed, ?_, filledFinal.refunds, filledFinal.ranks⟩
  · intro fuel enough
    unfold TreasureProgressService.fillSession
    dsimp only
    change (fillBoxes session.id gift fuel (filling tables session.currentLevel gift.amount)).map
      _ = _
    rw [fills fuel (le_trans (Nat.sub_le _ _) enough)]
    rfl
  · change boxedCoins final.tables + final.refundAmount = _
    omega

theorem getOrCreateActiveSession_of_keyed (keyed : Keyed tables)
    (uncompleted : tables.completedSince roomId tables.todayStart = none) :
    ∃ found session,
      TreasureBoxService.getOrCreateActiveSession tables roomId = some (found, some session) ∧
      Stays tables found ∧ (found.findSession session.id).isSome = true ∧
      session.currentLevel ≤ treasureBoxCount := by
  unfold TreasureBoxService.getOrCreateActiveSession
  cases active : tables.getActiveSession roomId with
  | some session =>
      obtain ⟨member, -, isActive⟩ := getActiveSession_eq_some active
      refine ⟨tables, session, rfl, Stays.refl keyed, ?_, keyed.levels session member isActive⟩
      rw [findSession_of_mem keyed.ids member]
      rfl
  | none =>
      have opening := stays_createSession keyed roomId
      have absent : ∀ level ∈ getAllLevelConfigs tables,
          (tables.createSession (tables.newSession roomId)).findBox
            ((tables.newSession roomId).id, level.1) = none := by
        intro level _
        cases found : tables.findBox ((tables.newSession roomId).id, level.1) with
        | none => exact found
        | some box =>
            have isIssued := keyed.owned box (KeyedRows.mem_of_find found)
            have isNew : box.sessionId = tables.sessions.length :=
              congrArg Prod.fst (key_of_findBox found)
            exact absurd (isNew ▸ isIssued) (lt_irrefl _)
      obtain ⟨created, creates, sessions, -⟩ := createBoxes_of_absent
        (levels_getAllLevelConfigs tables) absent opening.keyed.distinct
      have isNewRow : tables.newSession roomId ∈ created.sessions := by
        rw [sessions]
        exact List.mem_append_right _ (List.mem_singleton_self _)
      have isIssued : (tables.newSession roomId).id <
          (tables.createSession (tables.newSession roomId)).sessions.length := by
        unfold createSession
        dsimp only
        rw [List.length_append]
        exact Nat.lt_succ_self _
      have boxes := stays_createBoxes opening.keyed isIssued creates
      rw [uncompleted]
      dsimp only
      rw [creates]
      have atFirst : (tables.newSession roomId).currentLevel ≤ treasureBoxCount :=
        (by decide : 1 ≤ treasureBoxCount)
      refine ⟨created, tables.newSession roomId, rfl, opening.trans boxes, ?_, atFirst⟩
      rw [findSession_of_mem boxes.keyed.ids isNewRow]
      rfl

theorem applyGiftProgress_of_uncompleted (keyed : Keyed tables) (positive : 0 < gift.amount)
    (unrecorded : Unrecorded tables gift)
    (uncompleted : tables.completedSince gift.roomId tables.todayStart = none) :
    ∃ after result, (∀ fuel, enoughRounds ≤ fuel →
        TreasureProgressService.applyGiftProgress fuel tables gift = some (after, result)) ∧
      Delivers tables gift after result := by
  obtain ⟨found, session, isFound, stays, row, inRange⟩ :=
    getOrCreateActiveSession_of_keyed keyed uncompleted
  obtain ⟨after, result, fills, delivers⟩ :=
    fillSession_of_keyed stays.keyed row inRange (le_of_lt positive)
  refine ⟨after, result, ?_, delivers.keyed, ?_, delivers.refunds, ?_⟩
  · intro fuel enough
    rw [applyGiftProgress_eq fuel positive unrecorded uncompleted, isFound]
    exact fills fuel enough
  · rw [delivers.coins, stays.coins]
  · intro unranked
    exact (delivers.ranks unranked).trans stays.contributions

theorem applyGiftProgress_of_recorded (positive : 0 < gift.amount)
    (recorded : ¬Unrecorded tables gift) (fuel : Nat) :
    ∃ anySession, TreasureProgressService.applyGiftProgress fuel tables gift =
      some (tables, TreasureProgressService.noProgress gift.roomId anySession) := by
  obtain ⟨existingTx, isFound⟩ := Option.ne_none_iff_exists'.mp recorded
  unfold TreasureProgressService.applyGiftProgress
  rw [if_neg (Int.not_le.mpr positive), isFound]
  exact ⟨_, rfl⟩

theorem applyGiftProgress_of_completed (positive : 0 < gift.amount)
    (completed : tables.completedSince gift.roomId tables.todayStart ≠ none) (fuel : Nat) :
    ∃ anySession, TreasureProgressService.applyGiftProgress fuel tables gift =
      some (tables, TreasureProgressService.noProgress gift.roomId anySession) := by
  obtain ⟨completedToday, isFound⟩ := Option.ne_none_iff_exists'.mp completed
  unfold TreasureProgressService.applyGiftProgress
  rw [if_neg (Int.not_le.mpr positive), isFound]
  cases gift.giftTxnId.bind tables.existingTx <;> exact ⟨_, rfl⟩

/-- What the listener does: nothing, or it gives to the boxes what it does not return. -/
inductive Listened (tables : Tables) (gift : GiftSent) : Tables × Int → Prop where
  | idle (ignores : gift.totalCoinValue ≤ 0 ∨ ¬Unrecorded tables (giftProgress gift) ∨
      tables.completedSince gift.contextId tables.todayStart ≠ none) :
      Listened tables gift (tables, 0)
  | delivers (after : Tables) (refundAmount : Int) (positive : 0 < gift.totalCoinValue)
      (unrecorded : Unrecorded tables (giftProgress gift))
      (uncompleted : tables.completedSince gift.contextId tables.todayStart = none)
      (keyed : Keyed after)
      (coins : boxedCoins after + refundAmount = boxedCoins tables + gift.totalCoinValue)
      (ranks : gift.receiverId = gift.senderId → after.contributions = tables.contributions) :
      Listened tables gift (after, toNumber refundAmount)

theorem toNumber_zero : toNumber 0 = 0 := by decide

/-- Every gift of a room is listened to, by a call that ends. -/
theorem listened_handleGiftSent (keyed : Keyed tables) (gift : GiftSent)
    (isNamed : gift.contextId ≠ "") {fuel : Nat} (enough : enoughRounds ≤ fuel) :
    Listened tables gift (handleGiftSent fuel tables gift) := by
  unfold handleGiftSent
  by_cases positive : 0 < gift.totalCoinValue
  · have isPositive : 0 < (giftProgress gift).amount := positive
    rw [if_neg (not_or.mpr ⟨isNamed, Int.not_le.mpr positive⟩)]
    by_cases unrecorded : Unrecorded tables (giftProgress gift)
    · by_cases uncompleted : tables.completedSince gift.contextId tables.todayStart = none
      · obtain ⟨after, result, applies, delivers⟩ :=
          applyGiftProgress_of_uncompleted keyed isPositive unrecorded uncompleted
        rw [applies fuel enough]
        have returns : (if 0 < result.refundAmount then toNumber result.refundAmount else 0) =
            toNumber result.refundAmount := by
          split
          · rfl
          · rename_i unrefunded
            rw [le_antisymm (Int.not_lt.mp unrefunded) delivers.refunds, toNumber_zero]
        dsimp only
        rw [returns]
        refine .delivers after _ positive unrecorded uncompleted delivers.keyed delivers.coins ?_
        intro isSelf
        apply delivers.ranks
        exact decide_eq_false (not_not.mpr isSelf)
      · obtain ⟨anySession, applies⟩ :=
          applyGiftProgress_of_completed isPositive uncompleted fuel
        rw [applies]
        exact .idle (Or.inr (Or.inr uncompleted))
    · obtain ⟨anySession, applies⟩ := applyGiftProgress_of_recorded isPositive unrecorded fuel
      rw [applies]
      exact .idle (Or.inr (Or.inl unrecorded))
  · rw [if_pos (Or.inr (Int.not_lt.mp positive))]
    exact .idle (Or.inl (Int.not_lt.mp positive))

theorem keyed_handleGiftSent (keyed : Keyed tables) (gift : GiftSent) {fuel : Nat}
    (enough : enoughRounds ≤ fuel) : Keyed (handleGiftSent fuel tables gift).1 := by
  by_cases isNamed : gift.contextId = ""
  · unfold handleGiftSent
    rw [if_pos (Or.inl isNamed)]
    exact keyed
  · have listened := listened_handleGiftSent keyed gift isNamed enough
    generalize handleGiftSent fuel tables gift = listener at listened ⊢
    cases listened with
    | idle => exact keyed
    | delivers _ _ _ _ _ keyedAfter => exact keyedAfter

/-! ### The transaction -/

/-- What the transaction does with a new gift: no ladder takes it, or the ladder takes what
it still needs and refunds the rest. -/
inductive Processed (tables : Tables) (gift : GiftSent) : Tables × ContributionResult → Prop where
  | untaken (sent : Tables) (isLadder : ladderOf tables gift.contextId = some (sent, none)) :
      Processed tables gift
        (sent,
          { acceptedAmount := gift.totalCoinValue
            refundAmount := 0 })
  | taken (sent : Tables) (most refundAmount : Int) (result : ContributionResult) (keyed : Keyed sent)
      (isCapacity : roomCapacity tables gift.contextId = some most)
      (coins : boxedCoins sent + refundAmount = boxedCoins tables + gift.totalCoinValue)
      (isRest : refundAmount = gift.totalCoinValue - min gift.totalCoinValue most)
      (isResult : result.refundAmount = toNumber refundAmount)
      (recorded : refundAmount < gift.totalCoinValue →
        (sent.existingTx gift.transactionId).isSome = true) :
      Processed tables gift (sent, result)

theorem processed_processTreasureContribution (keyed : Keyed tables) {gift : GiftSent}
    (nonneg : 0 ≤ gift.totalCoinValue) (isNew : tables.existingTx gift.transactionId = none)
    {fuel : Nat} {processed : Tables × ContributionResult}
    (processes : processTreasureContribution fuel tables gift.contextId gift.senderId
      gift.totalCoinValue gift.transactionId = some processed) : Processed tables gift processed := by
  rw [processTreasureContribution_eq fuel _ _ _ isNew] at processes
  cases isLadder : ladderOf tables gift.contextId with
  | none =>
      rw [isLadder] at processes
      cases processes
  | some found =>
      obtain ⟨started, session⟩ := found
      rw [isLadder] at processes
      cases session with
      | none =>
          cases processes
          exact .untaken started isLadder
      | some session =>
          obtain ⟨done, ends, isProcessed⟩ := Option.map_eq_some_iff.mp processes
          have stays := stays_ladderOf keyed isLadder
          have start : Contributed started gift.totalCoinValue gift.transactionId
              (contributing started gift.totalCoinValue) :=
            contributed_contributing stays.keyed nonneg
          obtain ⟨contributed, spent⟩ := contributed_contributeAll start rfl ends
          have refunds := refund_of_contributeAll nonneg ends
          have isCapacity : roomCapacity tables gift.contextId =
              some (capacity started session.id) := by
            unfold roomCapacity
            rw [isLadder]
          have coins := contributed.coins
          have whole := contributed.whole
          have same := stays.coins
          subst isProcessed
          refine .taken done.tables _ done.refundAmount _ contributed.keyed isCapacity (by omega)
            ?_ rfl ?_
          · change done.refundAmount = 0 + (gift.totalCoinValue -
              min gift.totalCoinValue (capacity started session.id)) at refunds
            omega
          · intro accepted
            exact contributed.recorded (by omega)

theorem keyed_processTreasureContribution (keyed : Keyed tables) {fuel : Nat} {senderId : UserId}
    {result : ContributionResult}
    (processes : processTreasureContribution fuel tables roomId senderId amount giftTxnId =
      some (after, result)) : Keyed after := by
  cases recorded : tables.existingTx giftTxnId with
  | some existingTx =>
      unfold processTreasureContribution at processes
      rw [recorded] at processes
      cases processes
      exact keyed
  | none =>
      rw [processTreasureContribution_eq fuel _ _ _ recorded] at processes
      split at processes
      · cases processes
      · rename_i sent isLadder
        cases processes
        exact (stays_ladderOf keyed isLadder).keyed
      · rename_i started session isLadder
        obtain ⟨done, ends, isPair⟩ := Option.map_eq_some_iff.mp processes
        have stays := stays_ladderOf keyed isLadder
        cases isPair
        by_cases positive : 0 < amount
        · have start : Contributed started amount giftTxnId (contributing started amount) :=
            contributed_contributing stays.keyed (le_of_lt positive)
          exact (contributed_contributeAll start rfl ends).1.keyed
        · rw [contributeAll_of_nothing positive] at ends
          cases ends
          exact stays.keyed

theorem same_of_unstarted (unstarted : autoStart tables roomId = some (after, none)) :
    after = tables := by
  unfold autoStart at unstarted
  split at unstarted
  · cases unstarted
    rfl
  · dsimp only at unstarted
    split at unstarted
    · split at unstarted
      · cases unstarted
      · obtain ⟨created, -, isPair⟩ := Option.map_eq_some_iff.mp unstarted
        cases isPair
    · cases unstarted
      rfl

/-- Finishing a session of an earlier day completes none of today. -/
theorem completedSince_of_finished (keyed : Keyed tables)
    (isActive : tables.getActiveSession roomId = some session)
    (isStale : session.createdAt < tables.todayStart) :
    (tables.changeSession session.id (TreasureSession.withStatus .completed)).completedSince roomId
        tables.todayStart = none ↔
      tables.completedSince roomId tables.todayStart = none := by
  obtain ⟨member, -, active⟩ := getActiveSession_eq_some isActive
  unfold completedSince
  rw [List.find?_eq_none, List.find?_eq_none]
  constructor
  · intro none row inside matched
    have isCompleted := (of_decide_eq_true matched).2.1
    have different : row.id ≠ session.id := by
      intro same
      rw [eq_of_id keyed.ids inside member same, active] at isCompleted
      cases isCompleted
    apply none row _ matched
    unfold changeSession KeyedRows.update
    exact List.mem_map.mpr ⟨row, inside, if_neg different⟩
  · intro none row inside matched
    obtain ⟨earlier, wasInside, isRow⟩ := KeyedRows.mem_update inside
    split at isRow
    · rename_i same
      have isToday := (of_decide_eq_true matched).2.2
      rw [isRow, eq_of_id keyed.ids wasInside member same] at isToday
      exact absurd isToday (Nat.not_le.mpr isStale)
    · subst isRow
      exact none row wasInside matched

/-- Where no ladder takes the gift, the listener finds today's ladder completed or not as
the transaction did. -/
theorem completedSince_of_untaken (keyed : Keyed tables)
    (isLadder : ladderOf tables roomId = some (after, none)) :
    after.completedSince roomId after.todayStart = none ↔
      tables.completedSince roomId tables.todayStart = none := by
  unfold ladderOf at isLadder
  split at isLadder
  · cases isLadder
  · cases isLadder
  · rename_i finished isFound
    obtain rfl := same_of_unstarted isLadder
    unfold sessionOfToday at isFound
    split at isFound
    · rename_i stale isActive
      split at isFound
      · rename_i isStale
        obtain ⟨written, finishes, isPair⟩ := Option.map_eq_some_iff.mp isFound
        obtain rfl := changeSession_of_updateSession finishes
        cases isPair
        exact completedSince_of_finished keyed isActive isStale
      · cases isFound
    · cases isFound
      exact Iff.rfl

/-! ### Both together -/

/-- The coins of the gift that the boxes did not take. -/
def restOf (tables : Tables) (gift : GiftSent) (conveyance : Conveyance) : Int :=
  gift.totalCoinValue - (boxedCoins conveyance.after - boxedCoins tables)

/-- The boxes advance by the coins that are not refunded, and what one of the two refunds
the other does not apply.  A refund is a number, exact up to 2^53. -/
structure Conveyed (tables : Tables) (gift : GiftSent) (conveyance : Conveyance) : Prop where
  refunds : conveyance.refunded + conveyance.returned = toNumber (restOf tables gift conveyance)
  advances : (restOf tables gift conveyance).natAbs ≤ Binary64.exactLimit →
    boxedCoins conveyance.after =
      boxedCoins tables + (gift.totalCoinValue - (conveyance.refunded + conveyance.returned))
  unapplied : conveyance.refunded ≠ 0 → boxedCoins conveyance.after = boxedCoins conveyance.sent
  untaken : conveyance.returned ≠ 0 → boxedCoins conveyance.sent = boxedCoins tables

/-- What becomes of a new gift, by the ladder that the transaction finds: today's is
complete, or it takes the gift, or the listener opens one. -/
structure Carried (tables : Tables) (gift : GiftSent) (conveyance : Conveyance) : Prop where
  completed : roomCapacity tables gift.contextId = none →
    tables.completedSince gift.contextId tables.todayStart ≠ none →
      boxedCoins conveyance.after = boxedCoins tables ∧ conveyance.refunded = 0 ∧
        conveyance.returned = 0
  taken : ∀ most ∈ roomCapacity tables gift.contextId, 0 < most →
    Conveyed tables gift conveyance ∧ conveyance.after = conveyance.sent ∧ conveyance.returned = 0
  opened : roomCapacity tables gift.contextId = none →
    tables.completedSince gift.contextId tables.todayStart = none →
      Conveyed tables gift conveyance ∧ boxedCoins conveyance.sent = boxedCoins tables ∧
        conveyance.refunded = 0
  unranked : gift.receiverId = gift.senderId →
    conveyance.after.contributions = conveyance.sent.contributions

theorem conveyed_of_rest {gift : GiftSent} {conveyance : Conveyance}
    (refunds : conveyance.refunded + conveyance.returned = toNumber (restOf tables gift conveyance))
    (unapplied : conveyance.refunded ≠ 0 →
      boxedCoins conveyance.after = boxedCoins conveyance.sent)
    (untaken : conveyance.returned ≠ 0 → boxedCoins conveyance.sent = boxedCoins tables) :
    Conveyed tables gift conveyance where
  refunds := refunds
  advances := by
    intro small
    have exact : toNumber (restOf tables gift conveyance) = restOf tables gift conveyance :=
      Binary64.round_eq_self small
    rw [refunds, exact]
    unfold restOf
    omega
  unapplied := unapplied
  untaken := untaken

theorem roomCapacity_of_untaken (isLadder : ladderOf tables roomId = some (after, none)) :
    roomCapacity tables roomId = none := by
  unfold roomCapacity
  rw [isLadder]

/-- The transaction left the gift to the listener. -/
theorem carried_of_untaken (keyed : Keyed tables) {gift : GiftSent}
    (nonneg : 0 ≤ gift.totalCoinValue) (isNew : tables.existingTx gift.transactionId = none)
    {sent : Tables} (isLadder : ladderOf tables gift.contextId = some (sent, none))
    {listener : Tables × Int} (listened : Listened sent gift listener) :
    Carried tables gift
      { sent := sent
        refunded := 0
        after := listener.1
        returned := listener.2 } := by
  have stays := stays_ladderOf keyed isLadder
  have same := completedSince_of_untaken keyed isLadder
  have isNone := roomCapacity_of_untaken isLadder
  have unrecorded : Unrecorded sent (giftProgress gift) :=
    (existingTx_of_contributions stays.contributions _).trans isNew
  have untaken : ∀ most ∈ roomCapacity tables gift.contextId, ¬0 < most := by
    intro most isSome
    rw [isNone] at isSome
    cases isSome
  cases listened with
  | idle ignores =>
      refine ⟨fun _ _ => ⟨stays.coins, rfl, rfl⟩,
        fun most isSome takes => absurd takes (untaken most isSome), ?_, fun _ => rfl⟩
      intro _ uncompleted
      have nothing : gift.totalCoinValue = 0 := by
        rcases ignores with none | recorded | completed
        · exact le_antisymm none nonneg
        · exact absurd unrecorded recorded
        · exact absurd (same.mpr uncompleted) completed
      refine ⟨conveyed_of_rest ?_ (fun _ => rfl) (fun _ => stays.coins), stays.coins, rfl⟩
      unfold restOf
      dsimp only
      rw [stays.coins, nothing, sub_self, sub_zero, toNumber_zero, add_zero]
  | delivers after refundAmount _ _ uncompleted _ takes ranks =>
      refine ⟨fun _ completed => absurd (same.mp uncompleted) completed,
        fun most isSome takes => absurd takes (untaken most isSome), ?_, ranks⟩
      intro _ _
      refine ⟨conveyed_of_rest ?_ (fun refunded => absurd rfl refunded) (fun _ => stays.coins),
        stays.coins, rfl⟩
      have coins := stays.coins
      unfold restOf
      dsimp only
      rw [zero_add]
      congr 1
      omega

/-- A ladder that still takes coins leaves a contribution, which the listener finds. -/
theorem carried_of_taken {gift : GiftSent} {sent : Tables} {most refundAmount refunded : Int} (isCapacity : roomCapacity tables gift.contextId = some most)
    (coins : boxedCoins sent + refundAmount = boxedCoins tables + gift.totalCoinValue)
    (isRest : refundAmount = gift.totalCoinValue - min gift.totalCoinValue most)
    (isRefund : refunded = toNumber refundAmount)
    (recorded : refundAmount < gift.totalCoinValue →
      (sent.existingTx gift.transactionId).isSome = true)
    {listener : Tables × Int} (listened : Listened sent gift listener) :
    Carried tables gift
      { sent := sent
        refunded := refunded
        after := listener.1
        returned := listener.2 } := by
  have ladder : roomCapacity tables gift.contextId ≠ none := by
    rw [isCapacity]
    exact Option.some_ne_none most
  have idle : ∀ most ∈ roomCapacity tables gift.contextId, 0 < most → listener = (sent, 0) := by
    intro capacity isSome takes
    rw [isCapacity] at isSome
    cases isSome
    cases listened with
    | idle => rfl
    | delivers after returned positive unrecorded =>
        have isFound := recorded (by omega)
        have isNone : sent.existingTx gift.transactionId = none := unrecorded
        rw [isNone] at isFound
        cases isFound
  refine ⟨fun none => absurd none ladder, ?_, fun none => absurd none ladder, ?_⟩
  · intro most isSome takes
    have isIdle := idle most isSome takes
    subst isIdle
    refine ⟨conveyed_of_rest ?_ (fun _ => rfl) (fun returned => absurd rfl returned), rfl, rfl⟩
    unfold restOf
    dsimp only
    rw [add_zero, isRefund]
    congr 1
    omega
  · intro isSelf
    cases listened with
    | idle => rfl
    | delivers _ _ _ _ _ _ _ ranks => exact ranks isSelf

theorem carried_of_conveys (keyed : Keyed tables) {gift : GiftSent}
    (nonneg : 0 ≤ gift.totalCoinValue) (isNamed : gift.contextId ≠ "")
    (isNew : tables.existingTx gift.transactionId = none) {fuel : Nat}
    (enough : enoughRounds ≤ fuel) {conveyance : Conveyance}
    (conveyed : conveys fuel tables gift = some conveyance) : Carried tables gift conveyance := by
  obtain ⟨⟨sent, result⟩, processes, isConveyance⟩ := Option.map_eq_some_iff.mp conveyed
  have keyedSent : Keyed sent := keyed_processTreasureContribution keyed processes
  have listened := listened_handleGiftSent keyedSent gift isNamed enough
  have processed := processed_processTreasureContribution keyed nonneg isNew processes
  subst isConveyance
  cases processed with
  | untaken _ isLadder => exact carried_of_untaken keyed nonneg isNew isLadder listened
  | taken _ most refundAmount _ _ isCapacity coins isRest isResult recorded =>
      exact carried_of_taken isCapacity coins isRest isResult recorded listened

/-! ### Runs -/

inductive PipelineEvent where
  | gift (gift : GiftSent)
  | configure (configs : UniqueTable TreasureBoxConfig.level)
  | pass (milliseconds : Nat)

def pipelineStep (tables : Tables) : PipelineEvent → Tables
  | .gift gift =>
      match conveys enoughRounds tables gift with
      | some conveyance => conveyance.after
      | none => tables
  | .configure configs => { tables with configs := configs }
  | .pass milliseconds => { tables with now := tables.now + milliseconds }

theorem keyed_pipelineStep (keyed : Keyed tables) (event : PipelineEvent) :
    Keyed (pipelineStep tables event) := by
  cases event with
  | gift gift =>
      unfold pipelineStep
      dsimp only
      split
      · rename_i conveyance conveyed
        obtain ⟨⟨sent, result⟩, processes, isConveyance⟩ := Option.map_eq_some_iff.mp conveyed
        have keyedSent : Keyed sent := keyed_processTreasureContribution keyed processes
        subst isConveyance
        exact keyed_handleGiftSent keyedSent gift (le_refl _)
      · exact keyed
  | configure configs => exact ⟨keyed.numbered, keyed.distinct, keyed.owned, keyed.levels⟩
  | pass milliseconds => exact ⟨keyed.numbered, keyed.distinct, keyed.owned, keyed.levels⟩

/-- Whatever gift a room gets next, under a transaction id of its own. -/
def CarriesAll (tables : Tables) : Prop :=
  ∀ gift : GiftSent, 0 ≤ gift.totalCoinValue → gift.contextId ≠ "" →
    tables.existingTx gift.transactionId = none →
      ∀ fuel conveyance, enoughRounds ≤ fuel → conveys fuel tables gift = some conveyance →
        Carried tables gift conveyance

/-- From any rows that are told apart, over any gifts, days and configurations. -/
theorem always_carriesAll (opening : Tables) (keyed : Keyed opening)
    (events : List PipelineEvent) :
    Runs.Always pipelineStep CarriesAll opening events := by
  have kept : ∀ (tables : Tables) (event : PipelineEvent), Keyed tables →
      Keyed (pipelineStep tables event) := fun _ event keyed => keyed_pipelineStep keyed event
  have always := Runs.always_of_step kept opening keyed events
  refine always.imp ?_
  intro tables keyed gift nonneg isNamed isNew fuel conveyance enough conveyed
  exact carried_of_conveys keyed nonneg isNamed isNew enough conveyed

/-! ### Gifts to a ladder of small boxes -/

def coinsTo (receiverId : UserId) (totalCoinValue : Int) (transactionId : GiftTxnId) : GiftSent :=
  { contextId := "room"
    senderId := "sender"
    receiverId := receiverId
    totalCoinValue := totalCoinValue
    transactionId := transactionId }

theorem keyed_smallLadder : Keyed smallLadder where
  numbered := rfl
  distinct := by decide
  owned := by decide
  levels := by decide

theorem carriesAll_smallLadder :
    Runs.Always pipelineStep CarriesAll smallLadder
      [.gift (coinsTo "host" 3 1), .gift (coinsTo "sender" 4 2), .pass millisecondsPerDay,
        .gift (coinsTo "host" 1 3)] :=
  always_carriesAll smallLadder keyed_smallLadder _

def completedLadder : Tables := pipelineStep smallLadder (.gift (coinsTo "host" 5 1))

/-- The first box waits, so the ladder takes nothing of the transaction. -/
def waitingLadder : Tables :=
  { smallLadder with boxes := [1, 2, 3, 4, 5].map fun level => { initialBox 0 level 1 with
      status := .pending } }

/-- A gift to a completed ladder neither advances it nor is refunded; a self-gift is in
the ranking; and a gift refunded by the transaction is applied by the listener. -/
theorem uncarried_gifts :
    (∃ conveyance ∈ conveys enoughRounds completedLadder (coinsTo "host" 1 2),
      boxedCoins conveyance.after = boxedCoins completedLadder ∧ conveyance.refunded = 0 ∧
        conveyance.returned = 0) ∧
    (∃ conveyance ∈ conveys enoughRounds smallLadder (coinsTo "sender" 1 1),
      conveyance.after.contributions ≠ smallLadder.contributions) ∧
    ∃ conveyance ∈ conveys enoughRounds waitingLadder (coinsTo "host" 1 1),
      conveyance.refunded = 1 ∧ boxedCoins conveyance.after = boxedCoins waitingLadder + 1 := by
  refine ⟨?_, ?_, ?_⟩
  · decide +kernel
  · decide +kernel
  · decide +kernel

end Soulzaa.Treasure
