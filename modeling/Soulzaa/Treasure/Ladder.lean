/-
The ladder of a day, filled by any of the three implementations.

While it charges they leave the same tables.  Once it is complete none of them writes
to it: the gift itself was accepted, so nothing is refunded, and only the transaction
of the gift still reports it as accepted.
-/

import Soulzaa.Treasure.Agreement

namespace Soulzaa.Treasure

open TreasureConfigurationService Tables TreasureService

variable {tables after : Tables} {roomId : RoomId} {sessionId : SessionId} {level : Nat}
  {gift : GiftProgress}

/-- A session created today, with its five boxes and nothing in them. -/
structure NewLadder (tables : Tables) (roomId : RoomId) (sessionId : SessionId) : Prop where
  distinct : (tables.boxes.map TreasureBox.id).Nodup
  only : OnlyLadder tables roomId sessionId
  session : ∃ session, tables.findSession sessionId = some session ∧
    session.status = .active ∧ session.currentLevel = 1
  boxes : ∀ level box, tables.findBox (sessionId, level) = some box →
    (1 ≤ level ∧ level ≤ treasureBoxCount) ∧
      ∃ threshold, 0 < threshold ∧ box = initialBox sessionId level threshold
  complete : Complete tables sessionId

theorem NewLadder.today (ladder : NewLadder tables roomId sessionId) :
    Today tables roomId sessionId := by
  refine .charging ladder.only 1 ?_ ladder.complete
  refine ⟨⟨le_refl 1, by decide⟩, ladder.distinct, ladder.only.ids, ?_, ladder.session, ?_, ?_, ?_⟩
  · intro level box found
    exact (ladder.boxes level box found).1
  · intro lower least isBelow
    omega
  · intro box found
    obtain ⟨-, threshold, positive, rfl⟩ := ladder.boxes 1 box found
    exact charging_of_initial positive
  · intro higher isAbove box found
    obtain ⟨-, threshold, positive, rfl⟩ := ladder.boxes higher box found
    exact waiting_of_initial positive isAbove

/-! ### A gift to the ladder -/

def filling (tables : Tables) (level : Nat) (amount : Int) : Filling :=
  { tables := tables
    currentLevel := level
    remainingContribution := amount }

/-- The variables of the transaction's loop before its first round. -/
def contributing (tables : Tables) (amount : Int) : Contributing :=
  { tables := tables
    remainingAmount := amount }

/-- The gift as the transaction records it. -/
def giftOf (roomId : RoomId) (senderId : UserId) (amount : Int) (giftTxnId : GiftTxnId) :
    GiftProgress :=
  { roomId := roomId
    userId := senderId
    amount := amount
    giftTxnId := some giftTxnId }

theorem today_of_outcome (only : OnlyLadder tables roomId sessionId)
    (complete : Complete tables sessionId) {final : Filling}
    (leaves : Leaves tables final.tables sessionId) (outcome : Outcome final sessionId) :
    Today final.tables roomId sessionId := by
  have onlyAfter := only.of_leaves leaves
  cases outcome with
  | goesOn _ _ standing =>
      have completeAfter : Complete final.tables sessionId :=
        fun level least most => leaves.kept _ (complete level least most)
      exact .charging onlyAfter final.currentLevel standing.toClimbing completeAfter
  | completes _ _ _ _ completed => exact .done onlyAfter completed

/-- The gift fills the charging ladder, and leaves a ladder of today. -/
theorem filled_of_charging (only : OnlyLadder tables roomId sessionId)
    (climbing : Climbing tables sessionId level) (complete : Complete tables sessionId)
    (gift : GiftProgress) (positive : 0 < gift.amount) :
    ∃ final, (∀ fuel, treasureBoxCount ≤ fuel →
        fillBoxes sessionId gift fuel (filling tables level gift.amount) = some final) ∧
      Today final.tables roomId sessionId := by
  have start : (filling tables level gift.amount).Fresh := ⟨rfl, rfl⟩
  obtain ⟨final, fills, leaves, -, -, outcome⟩ :=
    fillBoxes_of_climbing gift climbing positive start
  have least : 1 ≤ level := climbing.inRange.1
  refine ⟨final, ?_, today_of_outcome only complete leaves outcome⟩
  intro fuel enough
  apply fills fuel
  change treasureBoxCount + 1 - level ≤ fuel
  omega

/-- The other two implementations leave the same tables. -/
theorem runsAlong_of_charging (only : OnlyLadder tables roomId sessionId)
    (climbing : Climbing tables sessionId level) (complete : Complete tables sessionId)
    (ranks : gift.countsTowardRanking = true) (positive : 0 < gift.amount) :
    ∃ final, RunsAlong gift sessionId (filling tables level gift.amount) final ∧
      Today final.tables roomId sessionId := by
  have start : (filling tables level gift.amount).Fresh := ⟨rfl, rfl⟩
  obtain ⟨final, along⟩ := runsAlong_of_climbing ranks climbing complete positive start
  obtain ⟨same, fills, today⟩ := filled_of_charging only climbing complete gift positive
  have least : 1 ≤ level := climbing.inRange.1
  have isFinal := along.fills treasureBoxCount
    (by change treasureBoxCount + 1 - level ≤ treasureBoxCount; omega)
  rw [fills treasureBoxCount (le_refl _)] at isFinal
  cases isFinal
  exact ⟨final, along, today⟩

/-! ### The three calls on a charging ladder -/

section Charging

variable {session : TreasureSession} (only : OnlyLadder tables roomId sessionId)
  (found : tables.findSession sessionId = some session) (isActive : session.status = .active)
include only found isActive

theorem applyGiftProgress_of_charging (fuel : Nat) (positive : 0 < gift.amount)
    (unrecorded : Unrecorded tables gift) (isRoom : gift.roomId = roomId) :
    TreasureProgressService.applyGiftProgress fuel tables gift =
      (fillBoxes sessionId gift fuel (filling tables session.currentLevel gift.amount)).map
        fun filling => (filling.tables,
          TreasureProgressService.progressResult gift sessionId filling) := by
  subst isRoom
  have uncompleted : session.status ≠ .completed := by
    rw [isActive]
    exact TreasureSessionStatus.noConfusion
  have isId : session.id = sessionId := KeyedRows.key_of_find found
  subst isId
  rw [applyGiftProgress_eq fuel positive unrecorded (completedSince_of_only only found uncompleted)]
  unfold TreasureBoxService.getOrCreateActiveSession
  rw [getActiveSession_of_only only found isActive]
  rfl

theorem sessionOfToday_of_charging : sessionOfToday tables roomId = some (tables, some session) := by
  obtain ⟨own, isOwn, -, today⟩ := only.own
  rw [found] at isOwn
  cases isOwn
  unfold sessionOfToday
  rw [getActiveSession_of_only only found isActive]
  exact if_neg (Nat.not_lt.mpr today)

theorem processTreasureContribution_of_charging (fuel : Nat) (senderId : UserId) (amount : Int)
    {giftTxnId : GiftTxnId} (unrecorded : tables.existingTx giftTxnId = none) :
    processTreasureContribution fuel tables roomId senderId amount giftTxnId =
      (contributeAll sessionId (giftOf roomId senderId amount giftTxnId) fuel
          (contributing tables amount)).map
        fun state => (state.tables,
          { acceptedAmount := toNumber state.acceptedAmount
            refundAmount := toNumber state.refundAmount }) := by
  have isId : session.id = sessionId := KeyedRows.key_of_find found
  subst isId
  unfold processTreasureContribution
  rw [unrecorded]
  dsimp only
  rw [sessionOfToday_of_charging only found isActive]
  rfl

theorem handleContribution_of_charging (fuel : Nat) (isRoom : gift.roomId = roomId) :
    handleContribution fuel tables gift = handleAll sessionId gift fuel tables gift.amount := by
  subst isRoom
  have isId : session.id = sessionId := KeyedRows.key_of_find found
  subst isId
  unfold handleContribution
  rw [getActiveSession_of_only only found isActive]

end Charging

/-! ### The three calls on a completed ladder -/

section Done

variable {session : TreasureSession} (only : OnlyLadder tables roomId sessionId)
  (found : tables.findSession sessionId = some session)
  (isCompleted : session.status = .completed)
include only found isCompleted

theorem inactive_of_done : tables.getActiveSession roomId = none := by
  apply getActiveSession_of_inactive only found
  rw [isCompleted]
  exact TreasureSessionStatus.noConfusion

theorem applyGiftProgress_of_done (fuel : Nat) (positive : 0 < gift.amount)
    (isRoom : gift.roomId = roomId) :
    ∃ anySession, TreasureProgressService.applyGiftProgress fuel tables gift =
      some (tables, TreasureProgressService.noProgress gift.roomId anySession) := by
  subst isRoom
  obtain ⟨completedToday, isToday⟩ :=
    Option.isSome_iff_exists.mp (completedSince_of_completed only found isCompleted)
  unfold TreasureProgressService.applyGiftProgress
  rw [if_neg (Int.not_le.mpr positive)]
  cases gift.giftTxnId.bind tables.existingTx with
  | some existingTx => exact ⟨some existingTx.boxId.1, rfl⟩
  | none =>
      dsimp only
      rw [isToday]
      exact ⟨some completedToday.id, rfl⟩

theorem processTreasureContribution_of_done (fuel : Nat) (senderId : UserId) (amount : Int)
    {giftTxnId : GiftTxnId} (unrecorded : tables.existingTx giftTxnId = none) :
    processTreasureContribution fuel tables roomId senderId amount giftTxnId =
      some (tables,
        { acceptedAmount := amount
          refundAmount := 0 }) := by
  obtain ⟨completedToday, isToday⟩ :=
    Option.isSome_iff_exists.mp (completedSince_of_completed only found isCompleted)
  have noSession : sessionOfToday tables roomId = some (tables, none) := by
    unfold sessionOfToday
    rw [inactive_of_done only found isCompleted]
  have noStart : autoStart tables roomId = some (tables, none) := by
    unfold autoStart
    rw [isToday]
  unfold processTreasureContribution
  rw [unrecorded]
  dsimp only
  rw [noSession]
  dsimp only
  rw [noStart]

theorem handleContribution_of_done (fuel : Nat) (isRoom : gift.roomId = roomId) :
    handleContribution fuel tables gift = some tables := by
  subst isRoom
  unfold handleContribution
  rw [inactive_of_done only found isCompleted]

end Done

/-! ### Runs -/

/-- A contribution to the room. -/
inductive ContributionEvent where
  | applyGiftProgress (userId : UserId) (amount : Int) (giftTxnId : Option GiftTxnId)
      (countsTowardRanking : Bool)
  | processTreasureContribution (senderId : UserId) (amount : Int) (giftTxnId : GiftTxnId)
  | handleContribution (userId : UserId) (amount : Int) (giftTxnId : Option GiftTxnId)

/-- The rounds that the longest loop takes: five boxes, and one to see them complete. -/
def enoughRounds : Nat := treasureBoxCount + 1

def contributionStep (roomId : RoomId) (tables : Tables) : ContributionEvent → Tables
  | .applyGiftProgress userId amount giftTxnId countsTowardRanking =>
      match TreasureProgressService.applyGiftProgress enoughRounds tables
        { roomId := roomId
          userId := userId
          amount := amount
          giftTxnId := giftTxnId
          countsTowardRanking := countsTowardRanking } with
      | some (after, _) => after
      | none => tables
  | .processTreasureContribution senderId amount giftTxnId =>
      match processTreasureContribution enoughRounds tables roomId senderId amount giftTxnId with
      | some (after, _) => after
      | none => tables
  | .handleContribution userId amount giftTxnId =>
      match handleContribution enoughRounds tables
        { roomId := roomId
          userId := userId
          amount := amount
          giftTxnId := giftTxnId } with
      | some after => after
      | none => tables

theorem contributeAll_of_nothing {state : Contributing} (nothing : ¬0 < state.remainingAmount)
    (fuel : Nat) : contributeAll sessionId gift fuel state = some state := by
  unfold contributeAll
  rw [if_neg nothing]

theorem handleAll_of_nothing {amount : Int} (nothing : ¬0 < amount) (fuel : Nat) :
    handleAll sessionId gift fuel tables amount = some tables := by
  unfold handleAll
  rw [if_neg nothing]

theorem today_of_applyGiftProgress (today : Today tables roomId sessionId)
    (isRoom : gift.roomId = roomId) {result : ProgressResult}
    (applied : TreasureProgressService.applyGiftProgress enoughRounds tables gift =
      some (after, result)) : Today after roomId sessionId := by
  by_cases positive : 0 < gift.amount
  · cases today with
    | charging only level climbing complete =>
        cases recorded : gift.giftTxnId.bind tables.existingTx with
        | some existingTx =>
            unfold TreasureProgressService.applyGiftProgress at applied
            rw [if_neg (Int.not_le.mpr positive), recorded] at applied
            cases applied
            exact .charging only level climbing complete
        | none =>
            obtain ⟨session, found, isActive, isLevel⟩ := climbing.session
            obtain ⟨final, fills, today⟩ := filled_of_charging only climbing complete gift positive
            rw [applyGiftProgress_of_charging only found isActive _ positive recorded isRoom,
              isLevel, fills _ (by decide)] at applied
            cases applied
            exact today
    | done only completed =>
        obtain ⟨session, found, isCompleted, -⟩ := completed.session
        obtain ⟨anySession, applies⟩ :=
          applyGiftProgress_of_done only found isCompleted enoughRounds positive isRoom
        rw [applies] at applied
        cases applied
        exact .done only completed
  · unfold TreasureProgressService.applyGiftProgress at applied
    rw [if_pos (Int.not_lt.mp positive)] at applied
    cases applied

theorem today_of_processTreasureContribution (today : Today tables roomId sessionId)
    {senderId : UserId} {amount : Int} {giftTxnId : GiftTxnId} {result : ContributionResult}
    (processed : processTreasureContribution enoughRounds tables roomId senderId amount giftTxnId =
      some (after, result)) : Today after roomId sessionId := by
  cases recorded : tables.existingTx giftTxnId with
  | some existingTx =>
      unfold processTreasureContribution at processed
      rw [recorded] at processed
      cases processed
      exact today
  | none =>
      cases today with
      | charging only level climbing complete =>
          obtain ⟨session, found, isActive, isLevel⟩ := climbing.session
          rw [processTreasureContribution_of_charging only found isActive _ _ _ recorded]
            at processed
          by_cases positive : 0 < amount
          · have ranks : (giftOf roomId senderId amount giftTxnId).countsTowardRanking = true := rfl
            obtain ⟨final, along, today⟩ :=
              runsAlong_of_charging only climbing complete ranks positive
            obtain ⟨done, ends, same, -, -⟩ :=
              along.contributes (contributing tables amount) rfl rfl
            rw [ends enoughRounds (Nat.sub_le _ _)] at processed
            cases processed
            rw [same]
            exact today
          · rw [contributeAll_of_nothing positive] at processed
            cases processed
            exact .charging only level climbing complete
      | done only completed =>
          obtain ⟨session, found, isCompleted, -⟩ := completed.session
          rw [processTreasureContribution_of_done only found isCompleted _ _ _ recorded]
            at processed
          cases processed
          exact .done only completed

theorem today_of_handleContribution (today : Today tables roomId sessionId)
    (isRoom : gift.roomId = roomId) (ranks : gift.countsTowardRanking = true)
    (handled : handleContribution enoughRounds tables gift = some after) :
    Today after roomId sessionId := by
  cases today with
  | charging only level climbing complete =>
      obtain ⟨session, found, isActive, isLevel⟩ := climbing.session
      rw [handleContribution_of_charging only found isActive _ isRoom] at handled
      by_cases positive : 0 < gift.amount
      · obtain ⟨final, along, today⟩ :=
          runsAlong_of_charging only climbing complete ranks positive
        have least : 1 ≤ level := climbing.inRange.1
        have handles : handleAll sessionId gift enoughRounds tables gift.amount =
            some final.tables := along.handles enoughRounds
          (by change treasureBoxCount + 2 - level ≤ treasureBoxCount + 1; omega)
        rw [handles] at handled
        cases handled
        exact today
      · rw [handleAll_of_nothing positive] at handled
        cases handled
        exact .charging only level climbing complete
  | done only completed =>
      obtain ⟨session, found, isCompleted, -⟩ := completed.session
      rw [handleContribution_of_done only found isCompleted _ isRoom] at handled
      cases handled
      exact .done only completed

/-- Any contribution leaves a ladder of today. -/
theorem today_contributionStep (today : Today tables roomId sessionId)
    (event : ContributionEvent) : Today (contributionStep roomId tables event) roomId sessionId := by
  cases event with
  | applyGiftProgress userId amount giftTxnId countsTowardRanking =>
      unfold contributionStep
      dsimp only
      split
      · rename_i applied
        refine today_of_applyGiftProgress today ?_ applied
        rfl
      · exact today
  | processTreasureContribution senderId amount giftTxnId =>
      unfold contributionStep
      dsimp only
      split
      · rename_i processed
        exact today_of_processTreasureContribution today processed
      · exact today
  | handleContribution userId amount giftTxnId =>
      unfold contributionStep
      dsimp only
      split
      · rename_i handled
        refine today_of_handleContribution today ?_ ?_ handled
        · rfl
        · rfl
      · exact today

/-- The three calls with one gift, from the same tables. -/
structure AgreeOn (tables : Tables) (roomId : RoomId) (sessionId : SessionId) (senderId : UserId)
    (amount : Int) (giftTxnId : GiftTxnId) (after : Tables) (progress : ProgressResult)
    (contribution : ContributionResult) : Prop where
  applies : ∀ fuel, enoughRounds ≤ fuel →
    TreasureProgressService.applyGiftProgress fuel tables
      (giftOf roomId senderId amount giftTxnId) = some (after, progress)
  processes : ∀ fuel, enoughRounds ≤ fuel →
    processTreasureContribution fuel tables roomId senderId amount giftTxnId =
      some (after, contribution)
  handles : ∀ fuel, enoughRounds ≤ fuel →
    handleContribution fuel tables (giftOf roomId senderId amount giftTxnId) = some after
  charging : (∃ session ∈ tables.findSession sessionId, session.status = .active) →
    contribution.acceptedAmount = toNumber progress.appliedAmount ∧
      contribution.refundAmount = toNumber progress.refundAmount
  done : (∃ session ∈ tables.findSession sessionId, session.status = .completed) →
    after = tables ∧ progress.refundAmount = 0 ∧ contribution.refundAmount = 0 ∧
      progress.appliedAmount = 0 ∧ contribution.acceptedAmount = amount

/-- The ladder charges or is complete, and the three agree on every gift that is new. -/
def Agree (roomId : RoomId) (sessionId : SessionId) (tables : Tables) : Prop :=
  (∃ session ∈ tables.findSession sessionId,
    session.status = .active ∨ session.status = .completed) ∧
  ∀ senderId amount giftTxnId, 0 < amount → tables.existingTx giftTxnId = none →
    ∃ after progress contribution,
      AgreeOn tables roomId sessionId senderId amount giftTxnId after progress contribution

theorem agree_of_charging (only : OnlyLadder tables roomId sessionId)
    (climbing : Climbing tables sessionId level) (complete : Complete tables sessionId)
    {senderId : UserId} {amount : Int} {giftTxnId : GiftTxnId} (positive : 0 < amount)
    (unrecorded : tables.existingTx giftTxnId = none) :
    ∃ after progress contribution,
      AgreeOn tables roomId sessionId senderId amount giftTxnId after progress contribution := by
  obtain ⟨session, found, isActive, isLevel⟩ := climbing.session
  let gift := giftOf roomId senderId amount giftTxnId
  have ranks : gift.countsTowardRanking = true := rfl
  obtain ⟨final, along, -⟩ := runsAlong_of_charging only climbing complete ranks positive
  obtain ⟨done, ends, same, refunded, accounted⟩ :=
    along.contributes (contributing tables amount) rfl rfl
  have least : 1 ≤ level := climbing.inRange.1
  refine ⟨final.tables, TreasureProgressService.progressResult gift sessionId final,
    { acceptedAmount := toNumber done.acceptedAmount
      refundAmount := toNumber done.refundAmount }, ?_, ?_, ?_, ?_, ?_⟩
  · intro fuel enough
    have fills : fillBoxes sessionId gift fuel (filling tables level amount) = some final :=
      along.fills fuel (le_trans (Nat.sub_le _ _) enough)
    have unnamed : Unrecorded tables gift := unrecorded
    have isRoom : gift.roomId = roomId := rfl
    rw [applyGiftProgress_of_charging only found isActive fuel positive unnamed isRoom, isLevel]
    change (fillBoxes sessionId gift fuel (filling tables level amount)).map _ = _
    rw [fills]
    rfl
  · intro fuel enough
    rw [processTreasureContribution_of_charging only found isActive fuel senderId amount unrecorded,
      ends fuel (le_trans (Nat.sub_le _ _) enough), Option.map_some, same]
  · intro fuel enough
    rw [handleContribution_of_charging only found isActive fuel rfl]
    apply along.handles fuel
    change treasureBoxCount + 1 ≤ fuel at enough
    change treasureBoxCount + 2 - level ≤ fuel
    omega
  · intro _
    have noRefund : (contributing tables amount).refundAmount = 0 := rfl
    have noneAccepted : (contributing tables amount).acceptedAmount = 0 := rfl
    have whole : (contributing tables amount).remainingAmount = amount := rfl
    have sameRefund : done.refundAmount = final.refundAmount := by omega
    have sameApplied : done.acceptedAmount = amount - final.refundAmount := by omega
    constructor
    · exact congrArg toNumber sameApplied
    · exact congrArg toNumber sameRefund
  · rintro ⟨row, isRow, isCompleted⟩
    rw [found] at isRow
    cases isRow
    rw [isActive] at isCompleted
    cases isCompleted

theorem agree_of_done (only : OnlyLadder tables roomId sessionId)
    (completed : Completed tables sessionId) {senderId : UserId} {amount : Int}
    {giftTxnId : GiftTxnId} (positive : 0 < amount)
    (unrecorded : tables.existingTx giftTxnId = none) :
    ∃ after progress contribution,
      AgreeOn tables roomId sessionId senderId amount giftTxnId after progress contribution := by
  obtain ⟨session, found, isCompleted, -⟩ := completed.session
  obtain ⟨completedToday, isToday⟩ :=
    Option.isSome_iff_exists.mp (completedSince_of_completed only found isCompleted)
  refine ⟨tables, TreasureProgressService.noProgress roomId (some completedToday.id),
    { acceptedAmount := amount
      refundAmount := 0 }, ?_, ?_, ?_, ?_, ?_⟩
  · intro fuel _
    have unnamed : (giftOf roomId senderId amount giftTxnId).giftTxnId.bind tables.existingTx =
        none := unrecorded
    have isPositive : ¬(giftOf roomId senderId amount giftTxnId).amount ≤ 0 :=
      Int.not_le.mpr positive
    unfold TreasureProgressService.applyGiftProgress
    rw [if_neg isPositive, unnamed]
    dsimp only
    erw [isToday]
    rfl
  · intro fuel _
    exact processTreasureContribution_of_done only found isCompleted fuel senderId amount unrecorded
  · intro fuel _
    exact handleContribution_of_done only found isCompleted fuel rfl
  · rintro ⟨row, isRow, isActive⟩
    rw [found] at isRow
    cases isRow
    rw [isCompleted] at isActive
    cases isActive
  · intro _
    exact ⟨rfl, rfl, rfl, rfl, rfl⟩

theorem agree_of_today (today : Today tables roomId sessionId) : Agree roomId sessionId tables := by
  cases today with
  | charging only level climbing complete =>
      obtain ⟨session, found, isActive, -⟩ := climbing.session
      refine ⟨⟨session, found, Or.inl isActive⟩, ?_⟩
      intro senderId amount giftTxnId positive unrecorded
      exact agree_of_charging only climbing complete positive unrecorded
  | done only completed =>
      obtain ⟨session, found, isCompleted, -⟩ := completed.session
      refine ⟨⟨session, found, Or.inr isCompleted⟩, ?_⟩
      intro senderId amount giftTxnId positive unrecorded
      exact agree_of_done only completed positive unrecorded

/-- From a new ladder, after any contributions by any of the three: all three leave the
same tables, and the first two the same refund. -/
theorem always_agree (ladder : NewLadder tables roomId sessionId)
    (events : List ContributionEvent) :
    Runs.Always (contributionStep roomId) (Agree roomId sessionId) tables events := by
  have kept : ∀ (tables : Tables) (event : ContributionEvent), Today tables roomId sessionId →
      Today (contributionStep roomId tables event) roomId sessionId :=
    fun _ event today => today_contributionStep today event
  have always := Runs.always_of_step kept tables ladder.today events
  exact always.imp fun _ today => agree_of_today today

/-! ### A ladder of small boxes -/

/-- Each box takes one coin. -/
def smallLadder : Tables :=
  { configs := UniqueTable.empty
    sessions := [{ id := 0, roomId := "room", createdAt := 0 }]
    boxes := [1, 2, 3, 4, 5].map fun level => initialBox 0 level 1
    now := 0 }

theorem newLadder_smallLadder : NewLadder smallLadder "room" 0 where
  distinct := by decide
  only := by
    refine ⟨by decide, ⟨_, rfl, rfl, by decide⟩, ?_⟩
    intro session member _ different
    cases List.mem_singleton.mp member
    exact absurd rfl different
  session := ⟨_, rfl, rfl, rfl⟩
  boxes := by
    intro level box found
    have isKey : box.level = level := congrArg Prod.snd (key_of_findBox found)
    have member : box ∈ smallLadder.boxes := KeyedRows.mem_of_find found
    obtain ⟨number, inRange, rfl⟩ := List.mem_map.mp member
    subst isKey
    have bounds : ∀ level ∈ [1, 2, 3, 4, 5], 1 ≤ level ∧ level ≤ treasureBoxCount := by decide
    exact ⟨bounds _ inRange, 1, by decide, rfl⟩
  complete := by
    have all : ∀ level < 6, 1 ≤ level → (smallLadder.findBox (0, level)).isSome = true := by
      decide
    intro level least most
    exact all level (Nat.lt_succ_of_le most) least

theorem agree_smallLadder :
    Runs.Always (contributionStep "room") (Agree "room" 0) smallLadder
      [.applyGiftProgress "sender" 3 (some 1) true, .processTreasureContribution "other" 4 2,
        .handleContribution "sender" 1 (some 3)] :=
  always_agree newLadder_smallLadder _

/-- Five coins complete the ladder; of one more coin the first call reports nothing as
accepted, the second all of it. -/
theorem differ_of_completed :
    NewLadder smallLadder "room" 0 ∧
      let completed := contributionStep "room" smallLadder
        (.applyGiftProgress "sender" 5 (some 1) true)
      completed.existingTx 2 = none ∧
      (TreasureProgressService.applyGiftProgress enoughRounds completed
        (giftOf "room" "sender" 1 2)).map (fun after => after.2.appliedAmount) = some 0 ∧
      (processTreasureContribution enoughRounds completed "room" "sender" 1 2).map
        (fun after => after.2.acceptedAmount) = some 1 :=
  ⟨newLadder_smallLadder, by decide +kernel⟩

end Soulzaa.Treasure
