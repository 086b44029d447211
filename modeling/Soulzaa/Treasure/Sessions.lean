/-
The sessions of a room over whole runs.

A session is created where none is active and none of the day is completed, so a room
has one active session at most.  In every state a run of gifts reaches, the next gift
is applied or refunded to the coin.
-/

import Soulzaa.Treasure.Accounting

namespace Soulzaa.Treasure

open TreasureConfigurationService Tables

variable {tables before after : Tables} {sessionId : SessionId} {level : Nat}

/-! ### Sessions of the rooms -/

/-- The rows, whatever the state of each ladder: one active session a room at most,
and no session of a day on which another was completed. -/
structure Rows (tables : Tables) : Prop where
  numbered : tables.sessions.map TreasureSession.id = List.range tables.sessions.length
  distinct : (tables.boxes.map TreasureBox.id).Nodup
  owned : ∀ id box, tables.findBox id = some box → id.1 < tables.sessions.length
  past : ∀ session ∈ tables.sessions, session.createdAt ≤ tables.now
  single : ∀ first ∈ tables.sessions, ∀ second ∈ tables.sessions, first.roomId = second.roomId →
    first.status = .active → second.status = .active → first.id = second.id
  daily : ∀ first ∈ tables.sessions, ∀ second ∈ tables.sessions, first.roomId = second.roomId →
    first.status = .active → second.status = .completed →
      second.createdAt < dayStart first.createdAt

theorem Rows.ids (rows : Rows tables) : (tables.sessions.map TreasureSession.id).Nodup := by
  rw [rows.numbered]
  exact List.nodup_range

theorem Rows.issued (rows : Rows tables) :
    ∀ session ∈ tables.sessions, session.id < tables.sessions.length := by
  intro session member
  have inRange : session.id ∈ tables.sessions.map TreasureSession.id :=
    List.mem_map_of_mem member
  rw [rows.numbered] at inRange
  exact List.mem_range.mp inRange

inductive Sound (tables : Tables) (session : TreasureSession) : Prop where
  | active (isActive : session.status = .active)
      (standing : Standing tables session.id session.currentLevel)
  | completed (isCompleted : session.status = .completed)
      (completed : Completed tables session.id)

structure Regular (tables : Tables) : Prop extends Rows tables where
  sound : ∀ session ∈ tables.sessions, Sound tables session

/-- One ladder is being filled, and the others are as they should be. -/
structure Opened (tables : Tables) (sessionId : SessionId) (level : Nat) : Prop where
  rows : Rows tables
  climbing : Climbing tables sessionId level
  others : ∀ session ∈ tables.sessions, session.id ≠ sessionId → Sound tables session

theorem findSession_of_mem (ids : (tables.sessions.map TreasureSession.id).Nodup)
    {session : TreasureSession} (member : session ∈ tables.sessions) :
    tables.findSession session.id = some session :=
  KeyedRows.find_of_mem ids member

theorem sound_of_same {session : TreasureSession} (sound : Sound before session)
    (distinct : (after.boxes.map TreasureBox.id).Nodup)
    (ids : (after.sessions.map TreasureSession.id).Nodup)
    (boxes : ∀ level, after.findBox (session.id, level) = before.findBox (session.id, level))
    (same : after.findSession session.id = before.findSession session.id) :
    Sound after session := by
  cases sound with
  | active isActive standing =>
      obtain ⟨⟨inRange, _, _, levels, found, below, current, above⟩, present⟩ := standing
      refine .active isActive ⟨⟨inRange, distinct, ids, ?_, ?_, ?_, ?_, ?_⟩, ?_⟩
      all_goals simp only [boxes, same]
      · exact levels
      · exact found
      · exact below
      · exact current
      · exact above
      · exact present
  | completed isCompleted completed =>
      obtain ⟨levels, found, all⟩ := completed
      refine .completed isCompleted ⟨?_, ?_, ?_⟩
      all_goals simp only [boxes, same]
      · exact levels
      · exact found
      · exact all

theorem opened_of_active (regular : Regular tables) {session : TreasureSession}
    (member : session ∈ tables.sessions) (isActive : session.status = .active) :
    Opened tables session.id session.currentLevel := by
  have standing : Standing tables session.id session.currentLevel := by
    cases regular.sound session member with
    | active _ standing => exact standing
    | completed isCompleted _ =>
        rw [isActive] at isCompleted
        cases isCompleted
  exact ⟨regular.toRows, standing.toClimbing, fun other inside _ => regular.sound other inside⟩

/-- The row of a session before it was written. -/
theorem row_of_leaves (leaves : Leaves before after sessionId) {session : TreasureSession}
    (member : session ∈ after.sessions) :
    ∃ earlier ∈ before.sessions, session.id = earlier.id ∧ session.roomId = earlier.roomId ∧
      session.createdAt = earlier.createdAt ∧ (session.id ≠ sessionId → session = earlier) := by
  obtain ⟨status, level, written⟩ := leaves.sessions
  rw [written] at member
  obtain ⟨earlier, inside, isRow⟩ := KeyedRows.mem_update member
  refine ⟨earlier, inside, ?_⟩
  rw [isRow]
  split
  · rename_i same
    exact ⟨rfl, rfl, rfl, fun different => absurd same different⟩
  · exact ⟨rfl, rfl, rfl, fun _ => rfl⟩

theorem ids_of_leaves (leaves : Leaves before after sessionId) :
    after.sessions.map TreasureSession.id = before.sessions.map TreasureSession.id := by
  obtain ⟨status, level, written⟩ := leaves.sessions
  rw [written]
  exact KeyedRows.keys_update fun _ => rfl

theorem eq_of_id (ids : (tables.sessions.map TreasureSession.id).Nodup)
    {first second : TreasureSession} (isFirst : first ∈ tables.sessions)
    (isSecond : second ∈ tables.sessions) (same : first.id = second.id) : first = second :=
  List.inj_on_of_nodup_map ids isFirst isSecond same

/-- The filled session was active, and is active or completed now. -/
theorem regular_of_filled (opened : Opened before sessionId level)
    (leaves : Leaves before after sessionId)
    (filled : ∀ session ∈ after.sessions, session.id = sessionId → Sound after session) :
    Regular after := by
  obtain ⟨rows, climbing, others⟩ := opened
  have sameIds := ids_of_leaves leaves
  have ids : (after.sessions.map TreasureSession.id).Nodup := by
    rw [sameIds]
    exact rows.ids
  have count : after.sessions.length = before.sessions.length := by
    have lengths := congrArg List.length sameIds
    rw [List.length_map, List.length_map] at lengths
    exact lengths
  obtain ⟨own, isFound, ownActive, -⟩ := climbing.session
  have ownMember : own ∈ before.sessions := KeyedRows.mem_of_find isFound
  have ownId : own.id = sessionId := KeyedRows.key_of_find isFound
  have wasActive : ∀ session earlier, earlier ∈ before.sessions → session.id = earlier.id →
      (session.id ≠ sessionId → session = earlier) → session.status = .active →
        earlier.status = .active := by
    intro session earlier inside sameId others isActive
    by_cases isOwn : session.id = sessionId
    · rw [eq_of_id rows.ids inside ownMember (sameId.symm.trans (isOwn.trans ownId.symm))]
      exact ownActive
    · rw [← others isOwn]
      exact isActive
  refine ⟨⟨?_, leaves.distinct rows.distinct, ?_, ?_, ?_, ?_⟩, ?_⟩
  · rw [sameIds, count]
    exact rows.numbered
  · intro id box found
    rw [count]
    by_cases isOwn : id.1 = sessionId
    · rw [isOwn, ← ownId]
      exact rows.issued own ownMember
    · rw [leaves.boxes id isOwn] at found
      exact rows.owned id box found
  · intro session member
    obtain ⟨earlier, inside, -, -, sameTime, -⟩ := row_of_leaves leaves member
    rw [sameTime, leaves.now]
    exact rows.past earlier inside
  · intro first isFirst second isSecond sameRoom firstActive secondActive
    obtain ⟨one, isOne, oneId, oneRoom, -, oneSame⟩ := row_of_leaves leaves isFirst
    obtain ⟨two, isTwo, twoId, twoRoom, -, twoSame⟩ := row_of_leaves leaves isSecond
    rw [oneId, twoId]
    exact rows.single one isOne two isTwo (oneRoom.symm.trans (sameRoom.trans twoRoom))
      (wasActive first one isOne oneId oneSame firstActive)
      (wasActive second two isTwo twoId twoSame secondActive)
  · intro first isFirst second isSecond sameRoom firstActive secondCompleted
    obtain ⟨one, isOne, oneId, oneRoom, oneTime, oneSame⟩ := row_of_leaves leaves isFirst
    obtain ⟨two, isTwo, twoId, twoRoom, twoTime, twoSame⟩ := row_of_leaves leaves isSecond
    have oneActive := wasActive first one isOne oneId oneSame firstActive
    have sameRooms := oneRoom.symm.trans (sameRoom.trans twoRoom)
    by_cases isOwn : second.id = sessionId
    · -- The completed session was the active one, so no other is active.
      have twoIsOwn := eq_of_id rows.ids isTwo ownMember (twoId.symm.trans (isOwn.trans ownId.symm))
      have twoActive : two.status = .active := by
        rw [twoIsOwn]
        exact ownActive
      have sameSession := rows.single one isOne two isTwo sameRooms oneActive twoActive
      have sameRow := eq_of_id ids isFirst isSecond (oneId.trans (sameSession.trans twoId.symm))
      rw [sameRow, secondCompleted] at firstActive
      cases firstActive
    · rw [oneTime, twoTime]
      refine rows.daily one isOne two isTwo sameRooms oneActive ?_
      rw [← twoSame isOwn]
      exact secondCompleted
  · intro session member
    by_cases isOwn : session.id = sessionId
    · exact filled session member isOwn
    · obtain ⟨earlier, inside, -, -, -, same⟩ := row_of_leaves leaves member
      obtain rfl := same isOwn
      refine sound_of_same (others session inside isOwn) (leaves.distinct rows.distinct) ids
        (fun level => leaves.boxes _ isOwn) ?_
      rw [findSession_of_mem ids member, findSession_of_mem rows.ids inside]

theorem sound_of_standing (ids : (after.sessions.map TreasureSession.id).Nodup)
    (standing : Standing after sessionId level) {session : TreasureSession}
    (member : session ∈ after.sessions) (isOwn : session.id = sessionId) :
    Sound after session := by
  subst isOwn
  obtain ⟨found, isFound, isActive, isAt⟩ := standing.session
  rw [findSession_of_mem ids member] at isFound
  cases isFound
  refine .active isActive ?_
  rw [isAt]
  exact standing

theorem sound_of_completed (ids : (after.sessions.map TreasureSession.id).Nodup)
    (completed : Completed after sessionId) {session : TreasureSession}
    (member : session ∈ after.sessions) (isOwn : session.id = sessionId) :
    Sound after session := by
  subst isOwn
  obtain ⟨found, isFound, isCompleted, -⟩ := completed.session
  rw [findSession_of_mem ids member] at isFound
  cases isFound
  exact .completed isCompleted completed

/-! ### A new ladder -/

/-- Levels of a ladder, each once, with positive thresholds. -/
structure Levels (levels : List (Nat × Int)) : Prop where
  distinct : (levels.map Prod.fst).Nodup
  inRange : ∀ level ∈ levels, 1 ≤ level.1 ∧ level.1 ≤ treasureBoxCount
  positive : ∀ level ∈ levels, 0 < level.2

theorem levels_getAllLevelConfigs (tables : Tables) : Levels (getAllLevelConfigs tables) := by
  unfold getAllLevelConfigs
  dsimp only
  split
  · have isSorted : (listEnabledConfigs tables).Perm
        (tables.configs.rows.filter TreasureBoxConfig.enabled) := List.mergeSort_perm _ _
    refine ⟨?_, ?_, ?_⟩
    · rw [List.map_map]
      change ((listEnabledConfigs tables).map TreasureBoxConfig.level).Nodup
      rw [(isSorted.map _).nodup_iff]
      exact tables.configs.distinct.sublist (List.filter_sublist.map _)
    · intro level member
      obtain ⟨config, -, rfl⟩ := List.mem_map.mp member
      exact config.inRange
    · intro level member
      obtain ⟨config, -, rfl⟩ := List.mem_map.mp member
      exact config.positive
  · exact ⟨by decide, by decide, by decide⟩

theorem createBoxes_of_absent {levels : List (Nat × Int)} (isLadder : Levels levels)
    (absent : ∀ level ∈ levels, tables.findBox (sessionId, level.1) = none)
    (distinct : (tables.boxes.map TreasureBox.id).Nodup) :
    ∃ after, createBoxes tables sessionId levels = some after ∧
      after.sessions = tables.sessions ∧ after.configs = tables.configs ∧
      after.now = tables.now ∧ (after.boxes.map TreasureBox.id).Nodup ∧
      (∀ id : BoxId, id.1 ≠ sessionId → after.findBox id = tables.findBox id) ∧
      (∀ level box, after.findBox (sessionId, level) = some box →
        tables.findBox (sessionId, level) = some box ∨
          ∃ threshold, (level, threshold) ∈ levels ∧
            box = initialBox sessionId level threshold) ∧
      after.progressOf sessionId = tables.progressOf sessionId := by
  induction levels generalizing tables with
  | nil =>
      exact ⟨tables, rfl, rfl, rfl, rfl, distinct, fun _ _ => rfl, fun _ _ found => Or.inl found,
        rfl⟩
  | cons first rest ih =>
      obtain ⟨level, threshold⟩ := first
      obtain ⟨notAgain, restDistinct⟩ := List.nodup_cons.mp isLadder.distinct
      have isNew : tables.findBox (initialBox sessionId level threshold).id = none :=
        absent (level, threshold) List.mem_cons_self
      have adds := writes_addBox isNew
      have restAbsent : ∀ other ∈ rest,
          (tables.addBox (initialBox sessionId level threshold)).findBox (sessionId, other.1) =
            none := by
        intro other member
        rw [adds.others]
        · exact absent other (List.mem_cons_of_mem _ member)
        · intro same
          have sameLevel : other.1 = level := congrArg Prod.snd same
          have isAgain : other.1 ∈ rest.map Prod.fst := List.mem_map_of_mem member
          rw [sameLevel] at isAgain
          exact notAgain isAgain
      obtain ⟨after, isCreated, sessions, configs, now, distinctAfter, others, own, progress⟩ :=
        ih ⟨restDistinct, fun other member => isLadder.inRange other (List.mem_cons_of_mem _ member),
          fun other member => isLadder.positive other (List.mem_cons_of_mem _ member)⟩ restAbsent
          (adds.distinct distinct)
      unfold createBoxes
      rw [createBox_of_absent isNew]
      refine ⟨after, isCreated, sessions, configs, now, distinctAfter, ?_, ?_, ?_⟩
      · intro id other
        rw [others id other]
        exact adds.others id fun same => other (congrArg Prod.fst same)
      · intro wanted box found
        rcases own wanted box found with isAdded | ⟨atThreshold, member, isInitial⟩
        · rw [findBox_addBox isNew] at isAdded
          split at isAdded
          · rename_i same
            have sameLevel : wanted = level := congrArg Prod.snd same
            cases isAdded
            subst sameLevel
            exact Or.inr ⟨threshold, List.mem_cons_self, rfl⟩
          · exact Or.inl isAdded
        · exact Or.inr ⟨atThreshold, List.mem_cons_of_mem _ member, isInitial⟩
      · rw [progress]
        exact progressOf_addBox tables rfl sessionId

theorem findBox_of_new (rows : Rows tables) (other : Nat) :
    tables.findBox (tables.sessions.length, other) = none := by
  cases found : tables.findBox (tables.sessions.length, other) with
  | none => rfl
  | some box => exact absurd (rows.owned _ box found) (Nat.lt_irrefl _)

theorem charging_of_initial {threshold : Int} (positive : 0 < threshold) :
    (initialBox sessionId 1 threshold).Charging :=
  ⟨rfl, Int.le_refl 0, positive⟩

theorem waiting_of_initial {threshold : Int} (positive : 0 < threshold) (isAbove : 1 < level) :
    (initialBox sessionId level threshold).Waiting where
  pending := by
    unfold initialBox
    exact if_neg (Nat.ne_of_gt isAbove)
  empty := rfl
  positive := positive

/-- The room had no active session and none completed today, and gets one. -/
theorem opened_of_created (regular : Regular tables) {roomId : RoomId}
    (inactive : tables.getActiveSession roomId = none)
    (uncompleted : tables.completedSince roomId tables.todayStart = none) :
    ∃ created, createBoxes (tables.createSession (tables.newSession roomId))
        tables.sessions.length (getAllLevelConfigs tables) = some created ∧
      Opened created tables.sessions.length 1 ∧
      (∀ id : BoxId, id.1 ≠ tables.sessions.length → created.findBox id = tables.findBox id) ∧
      created.progressOf tables.sessions.length = tables.progressOf tables.sessions.length := by
  have ladder := levels_getAllLevelConfigs tables
  let opening := tables.createSession (tables.newSession roomId)
  have absent : ∀ level ∈ getAllLevelConfigs tables,
      opening.findBox (tables.sessions.length, level.1) = none :=
    fun level _ => findBox_of_new regular.toRows level.1
  obtain ⟨created, isCreated, sessions, configs, now, distinct, others, own, progress⟩ :=
    createBoxes_of_absent ladder absent regular.distinct
  have isList : created.sessions = tables.sessions ++ [tables.newSession roomId] := sessions
  have numbered : created.sessions.map TreasureSession.id =
      List.range created.sessions.length := by
    rw [isList, List.map_append, List.length_append, List.length_singleton, List.range_succ,
      regular.numbered]
    rfl
  have ids : (created.sessions.map TreasureSession.id).Nodup := by
    rw [numbered]
    exact List.nodup_range
  have isNewRow : tables.newSession roomId ∈ created.sessions := by
    rw [isList]
    exact List.mem_append_right _ (List.mem_singleton_self _)
  have older : ∀ session ∈ created.sessions, session ∈ tables.sessions ∨
      session = tables.newSession roomId := by
    intro session member
    rw [isList] at member
    exact (List.mem_append.mp member).imp_right List.mem_singleton.mp
  have noneActive : ∀ session ∈ tables.sessions, session.roomId = roomId →
      session.status ≠ .active := by
    intro session inside sameRoom isActive
    have missed := List.find?_eq_none.mp inactive session inside
    exact missed (decide_eq_true ⟨sameRoom, isActive⟩)
  have noneToday : ∀ session ∈ tables.sessions, session.roomId = roomId →
      session.status = .completed → session.createdAt < tables.todayStart := by
    intro session inside sameRoom isCompleted
    have missed := List.find?_eq_none.mp uncompleted session inside
    by_contra today
    exact missed (decide_eq_true ⟨sameRoom, isCompleted, Nat.not_lt.mp today⟩)
  have boxOf : ∀ other box, created.findBox (tables.sessions.length, other) = some box →
      ∃ threshold, (other, threshold) ∈ getAllLevelConfigs tables ∧
        box = initialBox tables.sessions.length other threshold := by
    intro other box found
    refine (own other box found).resolve_left ?_
    intro isOld
    have none := findBox_of_new regular.toRows other
    change tables.findBox (tables.sessions.length, other) = some box at isOld
    rw [none] at isOld
    cases isOld
  refine ⟨created, isCreated, ⟨⟨numbered, distinct, ?_, ?_, ?_, ?_⟩, ?_, ?_⟩, others, progress⟩
  · intro id box found
    rw [isList, List.length_append, List.length_singleton]
    by_cases isOwn : id.1 = tables.sessions.length
    · rw [isOwn]
      exact Nat.lt_succ_self _
    · rw [others id isOwn] at found
      exact Nat.lt_succ_of_lt (regular.owned id box found)
  · intro session member
    rw [now]
    rcases older session member with inside | rfl
    · exact regular.past session inside
    · exact le_refl _
  · intro first isFirst second isSecond sameRoom firstActive secondActive
    rcases older first isFirst with firstOld | rfl
    · rcases older second isSecond with secondOld | rfl
      · exact regular.single first firstOld second secondOld sameRoom firstActive secondActive
      · exact absurd firstActive (noneActive first firstOld sameRoom)
    · rcases older second isSecond with secondOld | rfl
      · exact absurd secondActive (noneActive second secondOld sameRoom.symm)
      · rfl
  · intro first isFirst second isSecond sameRoom firstActive secondCompleted
    rcases older second isSecond with secondOld | rfl
    · rcases older first isFirst with firstOld | rfl
      · exact regular.daily first firstOld second secondOld sameRoom firstActive secondCompleted
      · exact noneToday second secondOld sameRoom.symm secondCompleted
    · cases secondCompleted
  · refine ⟨⟨le_refl 1, by decide⟩, distinct, ids, ?_, ?_, ?_, ?_, ?_⟩
    · intro other box found
      obtain ⟨threshold, member, -⟩ := boxOf other box found
      exact ladder.inRange _ member
    · exact ⟨_, findSession_of_mem ids isNewRow, rfl, rfl⟩
    · intro lower least isBelow
      omega
    · intro box found
      obtain ⟨threshold, member, rfl⟩ := boxOf 1 box found
      exact charging_of_initial (ladder.positive _ member)
    · intro higher isAbove box found
      obtain ⟨threshold, member, rfl⟩ := boxOf higher box found
      exact waiting_of_initial (ladder.positive _ member) isAbove
  · intro session member different
    rcases older session member with inside | rfl
    · refine sound_of_same (regular.sound session inside) distinct ids
        (fun level => others _ different) ?_
      rw [findSession_of_mem ids member, findSession_of_mem regular.ids inside]
    · exact absurd rfl different

/-! ### One gift -/

/-- No contribution names the gift. -/
def Unrecorded (tables : Tables) (gift : GiftProgress) : Prop :=
  gift.giftTxnId.bind tables.existingTx = none

/-- The room has an active session, or gets one: none of today is completed. -/
def Accepts (tables : Tables) (roomId : RoomId) : Prop :=
  (tables.getActiveSession roomId).isSome = true ∨
    tables.completedSince roomId tables.todayStart = none

/-- The session of the result took what the gift applied, to the coin.  A refund is
made by the call that completes it only. -/
structure Applied (before after : Tables) (gift : GiftProgress) (result : ProgressResult)
    (sessionId : SessionId) : Prop where
  session : result.sessionId = some sessionId
  amounts : result.appliedAmount + result.refundAmount = gift.amount
  nonneg : 0 ≤ result.refundAmount
  progress : after.progressOf sessionId = before.progressOf sessionId + result.appliedAmount
  others : ∀ id : BoxId, id.1 ≠ sessionId → after.findBox id = before.findBox id
  completedNow : result.sessionCompleted = true →
    (∀ session ∈ before.findSession sessionId, session.status = .active) ∧
      ∃ session ∈ after.findSession sessionId, session.status = .completed
  refunds : 0 < result.refundAmount → result.sessionCompleted = true

theorem uncompleted_of_accepts (regular : Regular tables) {roomId : RoomId}
    (accepts : Accepts tables roomId) :
    tables.completedSince roomId tables.todayStart = none := by
  rcases accepts with isActive | uncompleted
  · obtain ⟨active, found⟩ := Option.isSome_iff_exists.mp isActive
    obtain ⟨member, ownRoom, isActive⟩ := getActiveSession_eq_some found
    rw [completedSince, List.find?_eq_none]
    intro session inside matched
    obtain ⟨sameRoom, isCompleted, today⟩ := of_decide_eq_true matched
    have earlier := regular.daily active member session inside (ownRoom.trans sameRoom.symm)
      isActive isCompleted
    have sameDay := dayStart_mono (regular.past active member)
    have isToday : tables.todayStart ≤ session.createdAt := today
    unfold todayStart at isToday
    omega
  · exact uncompleted

theorem fillSession_of_opened {session : TreasureSession}
    (opened : Opened tables session.id session.currentLevel) {gift : GiftProgress}
    (positive : 0 < gift.amount) :
    ∃ after result, (∀ fuel, treasureBoxCount ≤ fuel →
        TreasureProgressService.fillSession fuel tables session gift = some (after, result)) ∧
      Regular after ∧ Applied tables after gift result session.id := by
  let start : Filling :=
    { tables := tables
      currentLevel := session.currentLevel
      remainingContribution := gift.amount }
  have climbing : Climbing start.tables session.id start.currentLevel := opened.climbing
  obtain ⟨final, terminates, leaves, accounted, spent, outcome⟩ :=
    fillBoxes_of_climbing gift climbing positive ⟨rfl, rfl⟩
  have ids : (final.tables.sessions.map TreasureSession.id).Nodup := by
    rw [ids_of_leaves leaves]
    exact opened.rows.ids
  have least : 1 ≤ session.currentLevel := opened.climbing.inRange.1
  refine ⟨final.tables, TreasureProgressService.progressResult gift session.id final, ?_, ?_, ?_⟩
  · intro fuel enough
    unfold TreasureProgressService.fillSession
    dsimp only
    rw [terminates fuel (by change treasureBoxCount + 1 - session.currentLevel ≤ fuel; omega)]
    rfl
  · refine regular_of_filled opened leaves ?_
    intro row member isOwn
    cases outcome with
    | goesOn _ _ standing => exact sound_of_standing ids standing member isOwn
    | completes _ _ _ _ completed => exact sound_of_completed ids completed member isOwn
  · have nonneg : 0 ≤ final.refundAmount ∧
        (0 < final.refundAmount → final.sessionCompleted = true) := by
      cases outcome with
      | goesOn fresh _ _ =>
          have unrefunded := fresh.unrefunded
          exact ⟨by omega, by omega⟩
      | completes finished _ refunded _ _ => exact ⟨refunded, fun _ => finished⟩
    refine ⟨rfl, sub_add_cancel _ _, nonneg.1, ?_, leaves.boxes, ?_, nonneg.2⟩
    · change final.tables.progressOf session.id + final.refundAmount =
        tables.progressOf session.id + gift.amount at accounted
      unfold TreasureProgressService.progressResult
      dsimp only
      omega
    · intro finished
      obtain ⟨found, isFound, isActive, -⟩ := opened.climbing.session
      constructor
      · intro row isRow
        rw [isFound] at isRow
        cases isRow
        exact isActive
      · cases outcome with
        | goesOn fresh _ _ =>
            have unfinished := fresh.unfinished
            change final.sessionCompleted = true at finished
            rw [unfinished] at finished
            cases finished
        | completes _ _ _ _ completed =>
            obtain ⟨row, isRow, isCompleted, -⟩ := completed.session
            exact ⟨row, isRow, isCompleted⟩

theorem applyGiftProgress_eq (fuel : Nat) {gift : GiftProgress} (positive : 0 < gift.amount)
    (unrecorded : Unrecorded tables gift)
    (uncompleted : tables.completedSince gift.roomId tables.todayStart = none) :
    TreasureProgressService.applyGiftProgress fuel tables gift =
      match TreasureBoxService.getOrCreateActiveSession tables gift.roomId with
      | none => none
      | some (tables, none) => some (tables, TreasureProgressService.noProgress gift.roomId none)
      | some (tables, some session) =>
          TreasureProgressService.fillSession fuel tables session gift := by
  unfold TreasureProgressService.applyGiftProgress
  rw [if_neg (Int.not_le.mpr positive),
    show gift.giftTxnId.bind tables.existingTx = none from unrecorded]
  generalize tables.completedSince gift.roomId tables.todayStart = completed at uncompleted ⊢
  subst uncompleted
  rfl

theorem applyGiftProgress_of_accepts (regular : Regular tables) {gift : GiftProgress}
    (positive : 0 < gift.amount) (unrecorded : Unrecorded tables gift)
    (accepts : Accepts tables gift.roomId) :
    ∃ after result sessionId, (∀ fuel, treasureBoxCount ≤ fuel →
        TreasureProgressService.applyGiftProgress fuel tables gift = some (after, result)) ∧
      Regular after ∧ Applied tables after gift result sessionId := by
  have uncompleted := uncompleted_of_accepts regular accepts
  cases found : tables.getActiveSession gift.roomId with
  | some session =>
      obtain ⟨member, -, isActive⟩ := getActiveSession_eq_some found
      obtain ⟨after, result, applies, regularAfter, applied⟩ :=
        fillSession_of_opened (opened_of_active regular member isActive) positive
      refine ⟨after, result, session.id, ?_, regularAfter, applied⟩
      intro fuel enough
      rw [applyGiftProgress_eq fuel positive unrecorded uncompleted]
      unfold TreasureBoxService.getOrCreateActiveSession
      rw [found]
      exact applies fuel enough
  | none =>
      obtain ⟨created, isCreated, opened, others, sameProgress⟩ :=
        opened_of_created regular found uncompleted
      have openedNew : Opened created (tables.newSession gift.roomId).id
          (tables.newSession gift.roomId).currentLevel := opened
      obtain ⟨after, result, applies, regularAfter, applied⟩ :=
        fillSession_of_opened openedNew positive
      refine ⟨after, result, tables.sessions.length, ?_, regularAfter, ?_⟩
      · intro fuel enough
        rw [applyGiftProgress_eq fuel positive unrecorded uncompleted]
        unfold TreasureBoxService.getOrCreateActiveSession
        rw [found, uncompleted]
        dsimp only [newSession]
        unfold newSession at isCreated
        rw [isCreated]
        exact applies fuel enough
      · obtain ⟨isSession, amounts, nonneg, progress, othersAfter, completedNow, refunds⟩ := applied
        refine ⟨isSession, amounts, nonneg, ?_, ?_, ?_, refunds⟩
        · rw [← sameProgress]
          exact progress
        · intro id other
          rw [othersAfter id other]
          exact others id other
        · intro finished
          refine ⟨?_, (completedNow finished).2⟩
          intro row isRow
          have isIssued := regular.issued row (KeyedRows.mem_of_find isRow)
          rw [KeyedRows.key_of_find isRow] at isIssued
          exact absurd isIssued (Nat.lt_irrefl _)

/-! ### Runs -/

inductive TreasureEvent where
  | gift (gift : GiftProgress)
  | configure (configs : UniqueTable TreasureBoxConfig.level)
  | pass (milliseconds : Nat)

def step (tables : Tables) : TreasureEvent → Tables
  | .gift gift =>
      match TreasureProgressService.applyGiftProgress treasureBoxCount tables gift with
      | some (after, _) => after
      | none => tables
  | .configure configs => { tables with configs := configs }
  | .pass milliseconds => { tables with now := tables.now + milliseconds }

theorem regular_gift (regular : Regular tables) (gift : GiftProgress) :
    Regular (step tables (.gift gift)) := by
  unfold step
  dsimp only
  by_cases positive : 0 < gift.amount
  · cases recorded : gift.giftTxnId.bind tables.existingTx with
    | some existingTx =>
        unfold TreasureProgressService.applyGiftProgress
        rw [if_neg (Int.not_le.mpr positive), recorded]
        exact regular
    | none =>
        cases completed : tables.completedSince gift.roomId tables.todayStart with
        | some completedToday =>
            unfold TreasureProgressService.applyGiftProgress
            rw [if_neg (Int.not_le.mpr positive), recorded]
            dsimp only
            rw [completed]
            exact regular
        | none =>
            obtain ⟨after, result, sessionId, applies, regularAfter, -⟩ :=
              applyGiftProgress_of_accepts regular positive recorded (Or.inr completed)
            rw [applies treasureBoxCount (le_refl _)]
            exact regularAfter
  · unfold TreasureProgressService.applyGiftProgress
    rw [if_pos (Int.not_lt.mp positive)]
    exact regular

/-- The boxes and sessions do not depend on the configuration and the clock. -/
theorem regular_of_rows (regular : Regular tables) (sessions : after.sessions = tables.sessions)
    (boxes : after.boxes = tables.boxes) (later : tables.now ≤ after.now) : Regular after := by
  have ids := regular.ids
  obtain ⟨⟨numbered, distinct, owned, past, single, daily⟩, sound⟩ := regular
  have sameBox : ∀ id, after.findBox id = tables.findBox id := by
    intro id
    unfold findBox
    rw [boxes]
  have sameSession : ∀ id, after.findSession id = tables.findSession id := by
    intro id
    unfold findSession
    rw [sessions]
  rw [← boxes] at distinct
  rw [← sessions] at ids numbered owned past single daily sound
  refine ⟨⟨numbered, distinct, ?_, ?_, single, daily⟩, ?_⟩
  · intro id box found
    rw [sameBox] at found
    exact owned id box found
  · intro session member
    exact (past session member).trans later
  · intro session member
    exact sound_of_same (sound session member) distinct ids (fun level => sameBox _)
      (sameSession _)

theorem regular_step (regular : Regular tables) (event : TreasureEvent) :
    Regular (step tables event) := by
  cases event with
  | gift gift => exact regular_gift regular gift
  | configure configs => exact regular_of_rows regular rfl rfl (le_refl _)
  | pass milliseconds => exact regular_of_rows regular rfl rfl (Nat.le_add_right _ _)

/-- The ladder of one session. -/
structure Ladder (tables : Tables) (session : TreasureSession) : Prop where
  below : ∀ box ∈ tables.boxes, box.sessionId = session.id → box.level < session.currentLevel →
    box.status = .opened ∧ box.progress = box.threshold
  reached : ∀ level, 1 ≤ level → level < session.currentLevel →
    (tables.findBox (session.id, level)).isSome = true
  current : session.status = .active →
    ∃ box, tables.findBox (session.id, session.currentLevel) = some box ∧
      box.status = .active ∧ box.progress < box.threshold
  completed : session.status = .completed ↔
    ∃ box, tables.findBox (session.id, treasureBoxCount) = some box ∧
      box.progress = box.threshold

/-- Every ladder is in order, and every gift that is new to a room with a session, or
one to come, is applied or refunded in full by a call that ends. -/
structure Balanced (tables : Tables) : Prop where
  within : ∀ box ∈ tables.boxes, box.progress ≤ box.threshold
  ladders : ∀ session ∈ tables.sessions, Ladder tables session
  applies : ∀ gift : GiftProgress, 0 < gift.amount → Unrecorded tables gift →
    Accepts tables gift.roomId →
      ∃ after result sessionId, (∀ fuel, treasureBoxCount ≤ fuel →
          TreasureProgressService.applyGiftProgress fuel tables gift = some (after, result)) ∧
        Applied tables after gift result sessionId

theorem findBox_of_mem (distinct : (tables.boxes.map TreasureBox.id).Nodup) {box : TreasureBox}
    (member : box ∈ tables.boxes) : tables.findBox box.id = some box :=
  KeyedRows.find_of_mem distinct member

/-- A box of a ladder is full, charging or waiting, by its level. -/
theorem ladder_of_regular (regular : Regular tables) {session : TreasureSession}
    (member : session ∈ tables.sessions) : Ladder tables session := by
  have rowOf : ∀ box ∈ tables.boxes, box.sessionId = session.id →
      tables.findBox (session.id, box.level) = some box := by
    intro box member isOwn
    rw [← isOwn]
    exact findBox_of_mem regular.distinct member
  cases regular.sound session member with
  | active isActive standing =>
      have most : session.currentLevel ≤ treasureBoxCount := standing.inRange.2
      refine ⟨?_, ?_, ?_, ?_⟩
      · intro box member isOwn isBelow
        have found := rowOf box member isOwn
        obtain ⟨row, isRow, full⟩ := standing.below box.level (standing.levels _ _ found).1 isBelow
        rw [found] at isRow
        cases isRow
        exact ⟨full.opened, full.full⟩
      · intro level least isBelow
        obtain ⟨row, isRow, -⟩ := standing.below level least isBelow
        rw [isRow]
        rfl
      · intro _
        obtain ⟨box, found⟩ := standing.present
        have charging := standing.current box found
        exact ⟨box, found, charging.active, charging.short⟩
      · constructor
        · intro isCompleted
          rw [isActive] at isCompleted
          cases isCompleted
        · rintro ⟨box, found, full⟩
          rcases Nat.lt_or_eq_of_le most with isAbove | isLast
          · have waiting := standing.above treasureBoxCount isAbove box found
            have empty := waiting.empty
            have positive := waiting.positive
            omega
          · rw [← isLast] at found
            have short := (standing.current box found).short
            omega
  | completed isCompleted completed =>
      obtain ⟨levels, ⟨row, isRow, -, isLast⟩, all⟩ := completed
      rw [findSession_of_mem regular.ids member] at isRow
      cases isRow
      refine ⟨?_, ?_, ?_, ?_⟩
      · intro box member isOwn _
        have found := rowOf box member isOwn
        obtain ⟨least, most⟩ := levels _ _ found
        obtain ⟨stored, isStored, full⟩ := all box.level least most
        rw [found] at isStored
        cases isStored
        exact ⟨full.opened, full.full⟩
      · intro level least isBelow
        obtain ⟨stored, isStored, -⟩ := all level least (by omega)
        rw [isStored]
        rfl
      · intro isActive
        rw [isCompleted] at isActive
        cases isActive
      · refine iff_of_true isCompleted ?_
        obtain ⟨box, found, full⟩ := all treasureBoxCount (by decide) (le_refl _)
        exact ⟨box, found, full.full⟩

theorem within_of_regular (regular : Regular tables) {box : TreasureBox}
    (member : box ∈ tables.boxes) : box.progress ≤ box.threshold := by
  have found : tables.findBox (box.sessionId, box.level) = some box :=
    findBox_of_mem regular.distinct member
  obtain ⟨session, inside, isOwn⟩ : ∃ session ∈ tables.sessions,
      session.id = box.sessionId := by
    have isIssued := List.mem_range.mpr (regular.owned _ box found)
    rw [← regular.numbered] at isIssued
    exact List.mem_map.mp isIssued
  rw [← isOwn] at found
  cases regular.sound session inside with
  | active isActive standing =>
      rcases Nat.lt_trichotomy box.level session.currentLevel with isBelow | isAt | isAbove
      · obtain ⟨row, isRow, full⟩ := standing.below box.level (standing.levels _ _ found).1 isBelow
        rw [found] at isRow
        cases isRow
        exact Int.le_of_eq full.full
      · rw [isAt] at found
        exact Int.le_of_lt (standing.current box found).short
      · have waiting := standing.above box.level isAbove box found
        rw [waiting.empty]
        exact Int.le_of_lt waiting.positive
  | completed isCompleted completed =>
      obtain ⟨least, most⟩ := completed.levels _ _ found
      obtain ⟨row, isRow, full⟩ := completed.all box.level least most
      rw [found] at isRow
      cases isRow
      exact Int.le_of_eq full.full

theorem balanced_of_regular (regular : Regular tables) : Balanced tables where
  within := fun _ member => within_of_regular regular member
  ladders := fun _ member => ladder_of_regular regular member
  applies := by
    intro gift positive unrecorded accepts
    obtain ⟨after, result, sessionId, applies, -, applied⟩ :=
      applyGiftProgress_of_accepts regular positive unrecorded accepts
    exact ⟨after, result, sessionId, applies, applied⟩

/-- No session yet. -/
def noSessions (configs : UniqueTable TreasureBoxConfig.level) (now : Nat) : Tables :=
  { configs := configs
    now := now }

theorem regular_noSessions (configs : UniqueTable TreasureBoxConfig.level) (now : Nat) :
    Regular (noSessions configs now) where
  numbered := rfl
  distinct := List.nodup_nil
  owned := fun _ _ found => by cases found
  past := List.forall_mem_nil _
  single := List.forall_mem_nil _
  daily := List.forall_mem_nil _
  sound := List.forall_mem_nil _

/-- Gifts of any amounts to any rooms, over any days and configurations: every state
is balanced. -/
theorem always_balanced (configs : UniqueTable TreasureBoxConfig.level) (now : Nat)
    (events : List TreasureEvent) :
    Runs.Always step Balanced (noSessions configs now) events := by
  have kept : ∀ (tables : Tables) (event : TreasureEvent), Regular tables →
      Regular (step tables event) := fun _ event regular => regular_step regular event
  have always := Runs.always_of_step kept (noSessions configs now)
    (regular_noSessions configs now) events
  exact always.imp fun _ regular => balanced_of_regular regular

end Soulzaa.Treasure
