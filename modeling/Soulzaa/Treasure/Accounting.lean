/-
The accounting of a ladder.

Between two rounds of the loop the boxes below the current level are full, the one at
the level is charging and those above wait empty.  A round either uses up what is left
of the gift, moves one level up, or completes the session.
-/

import Soulzaa.Treasure.Progress

namespace Soulzaa.Treasure

open TreasureConfigurationService Tables

/-! ### Boxes of a ladder -/

structure TreasureBox.Full (box : TreasureBox) : Prop where
  opened : box.status = .opened
  full : box.progress = box.threshold
  positive : 0 < box.threshold

structure TreasureBox.Charging (box : TreasureBox) : Prop where
  active : box.status = .active
  nonneg : 0 ≤ box.progress
  short : box.progress < box.threshold

structure TreasureBox.Waiting (box : TreasureBox) : Prop where
  pending : box.status = .pending
  empty : box.progress = 0
  positive : 0 < box.threshold

theorem TreasureBox.Waiting.charging {box : TreasureBox} (waiting : box.Waiting) :
    box.activated.Charging where
  active := rfl
  nonneg := by
    change 0 ≤ box.progress
    have empty := waiting.empty
    omega
  short := by
    change box.progress < box.threshold
    rw [waiting.empty]
    exact waiting.positive

/-- The boxes of a session around a level; boxes from there on may be missing. -/
structure Climbing (tables : Tables) (sessionId : SessionId) (level : Nat) : Prop where
  inRange : 1 ≤ level ∧ level ≤ treasureBoxCount
  distinct : (tables.boxes.map TreasureBox.id).Nodup
  ids : (tables.sessions.map TreasureSession.id).Nodup
  levels : ∀ other box, tables.findBox (sessionId, other) = some box →
    1 ≤ other ∧ other ≤ treasureBoxCount
  session : ∃ session, tables.findSession sessionId = some session ∧
    session.status = .active ∧ session.currentLevel = level
  below : ∀ lower, 1 ≤ lower → lower < level →
    ∃ box, tables.findBox (sessionId, lower) = some box ∧ box.Full
  current : ∀ box, tables.findBox (sessionId, level) = some box → box.Charging
  above : ∀ higher, level < higher →
    ∀ box, tables.findBox (sessionId, higher) = some box → box.Waiting

/-- With the box of the level in place. -/
structure Standing (tables : Tables) (sessionId : SessionId) (level : Nat) : Prop
    extends Climbing tables sessionId level where
  present : ∃ box, tables.findBox (sessionId, level) = some box

structure Completed (tables : Tables) (sessionId : SessionId) : Prop where
  levels : ∀ other box, tables.findBox (sessionId, other) = some box →
    1 ≤ other ∧ other ≤ treasureBoxCount
  session : ∃ session, tables.findSession sessionId = some session ∧
    session.status = .completed ∧ session.currentLevel = treasureBoxCount
  all : ∀ level, 1 ≤ level → level ≤ treasureBoxCount →
    ∃ box, tables.findBox (sessionId, level) = some box ∧ box.Full

/-! ### What a round leaves -/

/-- Of the sessions only the one is written, and of it the status and the level. -/
structure Leaves (before after : Tables) (sessionId : SessionId) : Prop where
  boxes : ∀ id : BoxId, id.1 ≠ sessionId → after.findBox id = before.findBox id
  sessions : ∃ status level, after.sessions =
    KeyedRows.update TreasureSession.id sessionId
      (fun session => (session.withStatus status).atLevel level) before.sessions
  configs : after.configs = before.configs
  now : after.now = before.now
  distinct : (before.boxes.map TreasureBox.id).Nodup → (after.boxes.map TreasureBox.id).Nodup
  kept : ∀ id, (before.findBox id).isSome = true → (after.findBox id).isSome = true

/-- Of the boxes only the one is written. -/
structure Writes (before after : Tables) (id : BoxId) : Prop where
  others : ∀ other, other ≠ id → after.findBox other = before.findBox other
  sessions : after.sessions = before.sessions
  configs : after.configs = before.configs
  now : after.now = before.now
  distinct : (before.boxes.map TreasureBox.id).Nodup → (after.boxes.map TreasureBox.id).Nodup
  kept : ∀ id, (before.findBox id).isSome = true → (after.findBox id).isSome = true

variable {tables before middle after : Tables} {sessionId : SessionId} {level : Nat} {id : BoxId}
  {box : TreasureBox} {gift : GiftProgress}

theorem Writes.refl (tables : Tables) (id : BoxId) : Writes tables tables id :=
  ⟨fun _ _ => rfl, rfl, rfl, rfl, fun distinct => distinct, fun _ present => present⟩

theorem Writes.trans (first : Writes before middle id) (second : Writes middle after id) :
    Writes before after id where
  others := fun other different => (second.others other different).trans
    (first.others other different)
  sessions := second.sessions.trans first.sessions
  configs := second.configs.trans first.configs
  now := second.now.trans first.now
  distinct := fun distinct => second.distinct (first.distinct distinct)
  kept := fun id present => second.kept id (first.kept id present)

theorem writes_changeBox (tables : Tables) (id : BoxId) {change : TreasureBox → TreasureBox}
    (keeps : KeyedRows.KeepsKey TreasureBox.id change) :
    Writes tables (tables.changeBox id change) id where
  others := fun other different => by rw [findBox_changeBox keeps, if_neg different]
  sessions := rfl
  configs := rfl
  now := rfl
  distinct := fun distinct => by
    unfold changeBox
    rw [KeyedRows.keys_update keeps]
    exact distinct
  kept := fun other present => by
    rw [isSome_findBox_changeBox keeps]
    exact present

theorem writes_addBox (absent : tables.findBox box.id = none) :
    Writes tables (tables.addBox box) box.id where
  others := fun other different => by rw [findBox_addBox absent, if_neg different]
  sessions := rfl
  configs := rfl
  now := rfl
  distinct := fun distinct => by
    unfold addBox
    rw [List.map_append, List.map_singleton]
    refine List.Nodup.append distinct (List.nodup_singleton _) (List.disjoint_singleton.mpr ?_)
    intro member
    obtain ⟨row, inside, same⟩ := List.mem_map.mp member
    have found := KeyedRows.find_of_mem distinct inside
    rw [same] at found
    unfold findBox at absent
    rw [absent] at found
    cases found
  kept := fun other present => by
    rw [findBox_addBox absent]
    split
    · rfl
    · exact present

theorem recordContribution_eq (tables : Tables) (gift : GiftProgress) (id : BoxId)
    (amount : Int) : ∃ contributions, recordContribution tables gift id amount =
      { tables with contributions := contributions } := by
  unfold recordContribution
  split
  · exact ⟨_, rfl⟩
  · exact ⟨_, rfl⟩

theorem writes_recordContribution (tables : Tables) (gift : GiftProgress) (boxId : BoxId)
    (amount : Int) (id : BoxId) : Writes tables (recordContribution tables gift boxId amount) id := by
  obtain ⟨contributions, isRecorded⟩ := recordContribution_eq tables gift boxId amount
  rw [isRecorded]
  exact ⟨fun _ _ => rfl, rfl, rfl, rfl, fun distinct => distinct, fun _ present => present⟩

theorem keeps_withProgress (progress : Int) (status : TreasureBoxStatus) :
    KeyedRows.KeepsKey TreasureBox.id (TreasureBox.withProgress progress status) := fun _ => rfl

theorem keeps_activated : KeyedRows.KeepsKey TreasureBox.id TreasureBox.activated := fun _ => rfl

theorem keeps_withStatus (status : TreasureSessionStatus) :
    KeyedRows.KeepsKey TreasureSession.id (TreasureSession.withStatus status) := fun _ => rfl

theorem keeps_atLevel (level : Nat) :
    KeyedRows.KeepsKey TreasureSession.id (TreasureSession.atLevel level) := fun _ => rfl

/-! ### Boxes made on demand -/

theorem getLevelThreshold_pos (tables : Tables) (level : Nat) :
    0 < getLevelThreshold tables level := by
  have prd : 0 < (prdBoxThresholds level).getD 15000 := by
    unfold prdBoxThresholds
    split <;> decide
  unfold getLevelThreshold
  split
  · rename_i config _
    split
    · have positive := config.positive
      omega
    · exact prd
  · exact prd

theorem adds_newBox (absent : tables.findBox (sessionId, level) = none) :
    tables.createBox (newBox tables sessionId level) =
        some (tables.addBox (newBox tables sessionId level)) ∧
      Writes tables (tables.addBox (newBox tables sessionId level)) (sessionId, level) ∧
      (tables.addBox (newBox tables sessionId level)).findBox (sessionId, level) =
        some (newBox tables sessionId level) ∧
      (newBox tables sessionId level).Charging ∧
      (tables.addBox (newBox tables sessionId level)).progressOf sessionId =
        tables.progressOf sessionId := by
  have isNew : tables.findBox (newBox tables sessionId level).id = none := absent
  refine ⟨createBox_of_absent isNew, writes_addBox isNew, ?_, ?_, ?_⟩
  · rw [findBox_addBox isNew]
    exact if_pos rfl
  · exact ⟨rfl, Int.le_refl 0, getLevelThreshold_pos tables level⟩
  · exact progressOf_addBox tables rfl sessionId

theorem boxAt_of_charging (current : ∀ box, tables.findBox (sessionId, level) = some box →
    box.Charging) :
    ∃ prepared box, boxAt tables sessionId level = some (prepared, box) ∧
      Writes tables prepared (sessionId, level) ∧
      prepared.findBox (sessionId, level) = some box ∧ box.Charging ∧
      prepared.progressOf sessionId = tables.progressOf sessionId := by
  unfold boxAt
  cases found : tables.findBox (sessionId, level) with
  | some box =>
      exact ⟨tables, box, rfl, Writes.refl tables _, found, current box found, rfl⟩
  | none =>
      obtain ⟨isCreated, adds⟩ := adds_newBox found
      dsimp only
      rw [isCreated]
      exact ⟨_, _, rfl, adds⟩

theorem unlock_of_waiting (distinct : (tables.boxes.map TreasureBox.id).Nodup)
    (waiting : ∀ box, tables.findBox (sessionId, level) = some box → box.Waiting) :
    ∃ unlocked box, unlock tables sessionId level = some unlocked ∧
      Writes tables unlocked (sessionId, level) ∧
      unlocked.findBox (sessionId, level) = some box ∧ box.Charging ∧
      unlocked.progressOf sessionId = tables.progressOf sessionId := by
  unfold unlock
  cases found : tables.findBox (sessionId, level) with
  | some box =>
      dsimp only
      rw [updateBox_of_found found]
      refine ⟨_, box.activated, rfl, writes_changeBox tables _ keeps_activated, ?_,
        (waiting box found).charging, ?_⟩
      · rw [findBox_changeBox keeps_activated, if_pos rfl, found, Option.map_some]
      · rw [progressOf_changeBox distinct keeps_activated found]
        exact (congrArg _ (sub_self _)).trans (add_zero _)
  | none =>
      obtain ⟨isCreated, adds⟩ := adds_newBox found
      dsimp only
      rw [isCreated]
      exact ⟨_, _, rfl, adds⟩

/-! ### One round -/

theorem Leaves.of_writes (writes : Writes before after (sessionId, level))
    {session : TreasureSession} (found : before.findSession sessionId = some session)
    (distinct : (before.sessions.map TreasureSession.id).Nodup) :
    Leaves before after sessionId where
  boxes := fun id other => writes.others id fun same => other (congrArg Prod.fst same)
  sessions := by
    refine ⟨session.status, session.currentLevel, ?_⟩
    rw [writes.sessions, KeyedRows.update_eq_self distinct found rfl]
  configs := writes.configs
  now := writes.now
  distinct := writes.distinct
  kept := writes.kept

theorem Leaves.trans (first : Leaves before middle sessionId)
    (second : Leaves middle after sessionId) : Leaves before after sessionId where
  boxes := fun id other => (second.boxes id other).trans (first.boxes id other)
  sessions := by
    obtain ⟨earlierStatus, earlierLevel, isMiddle⟩ := first.sessions
    obtain ⟨status, level, isAfter⟩ := second.sessions
    have keeps : KeyedRows.KeepsKey TreasureSession.id fun session =>
        (session.withStatus earlierStatus).atLevel earlierLevel := fun _ => rfl
    refine ⟨status, level, ?_⟩
    rw [isAfter, isMiddle, KeyedRows.update_update keeps]
    rfl
  configs := second.configs.trans first.configs
  now := second.now.trans first.now
  distinct := fun distinct => second.distinct (first.distinct distinct)
  kept := fun id present => second.kept id (first.kept id present)

theorem leaves_changeSession (tables : Tables) (sessionId : SessionId)
    {session : TreasureSession} (found : tables.findSession sessionId = some session)
    (distinct : (tables.sessions.map TreasureSession.id).Nodup)
    (status : TreasureSessionStatus) (level : Nat)
    {change : TreasureSession → TreasureSession}
    (isChange : change session = (session.withStatus status).atLevel level) :
    Leaves tables (tables.changeSession sessionId change) sessionId where
  boxes := fun _ _ => rfl
  sessions := ⟨status, level, KeyedRows.update_congr distinct found isChange⟩
  configs := rfl
  now := rfl
  distinct := fun distinct => distinct
  kept := fun _ present => present

theorem findSession_of_writes (writes : Writes before after id) (sessionId : SessionId) :
    after.findSession sessionId = before.findSession sessionId := by
  unfold findSession
  rw [writes.sessions]

theorem levels_of_writes (climbing : Climbing before sessionId level)
    (writes : Writes before after (sessionId, level)) {other : Nat} {box : TreasureBox}
    (found : after.findBox (sessionId, other) = some box) :
    1 ≤ other ∧ other ≤ treasureBoxCount := by
  by_cases same : other = level
  · rw [same]
    exact climbing.inRange
  · rw [writes.others _ fun equal => same (congrArg Prod.snd equal)] at found
    exact climbing.levels other box found

/-- The box of the level, written and still charging. -/
theorem standing_of_writes (climbing : Climbing before sessionId level)
    (writes : Writes before after (sessionId, level))
    (found : after.findBox (sessionId, level) = some box) (charging : box.Charging) :
    Standing after sessionId level where
  inRange := climbing.inRange
  distinct := writes.distinct climbing.distinct
  ids := by
    rw [writes.sessions]
    exact climbing.ids
  levels := fun other box found =>
    levels_of_writes climbing writes found
  session := by
    rw [findSession_of_writes writes]
    exact climbing.session
  below := by
    intro lower least isBelow
    rw [writes.others _ fun same => absurd (congrArg Prod.snd same) (Nat.ne_of_lt isBelow)]
    exact climbing.below lower least isBelow
  current := by
    intro other isOther
    rw [found] at isOther
    cases isOther
    exact charging
  above := by
    intro higher isAbove
    rw [writes.others _ fun same => absurd (congrArg Prod.snd same) (Nat.ne_of_gt isAbove)]
    exact climbing.above higher isAbove
  present := ⟨box, found⟩

/-- The box of the level, full: the boxes below the next level are full. -/
theorem below_of_full (climbing : Climbing before sessionId level)
    (writes : Writes before after (sessionId, level))
    (found : after.findBox (sessionId, level) = some box) (full : box.Full) :
    ∀ lower, 1 ≤ lower → lower < level + 1 →
      ∃ box, after.findBox (sessionId, lower) = some box ∧ box.Full := by
  intro lower least isBelow
  by_cases same : lower = level
  · rw [same]
    exact ⟨box, found, full⟩
  · rw [writes.others _ fun equal => same (congrArg Prod.snd equal)]
    exact climbing.below lower least (by omega)

/-- Nothing is refunded yet. -/
structure Filling.Fresh (filling : Filling) : Prop where
  unfinished : filling.sessionCompleted = false
  unrefunded : filling.refundAmount = 0

/-- Where the loop is after a round: at a level, or past the last one. -/
inductive Outcome (next : Filling) (sessionId : SessionId) : Prop where
  | goesOn (fresh : next.Fresh) (left : 0 ≤ next.remainingContribution)
      (standing : Standing next.tables sessionId next.currentLevel)
  | completes (finished : next.sessionCompleted = true)
      (spent : next.remainingContribution = 0) (refunded : 0 ≤ next.refundAmount)
      (beyond : next.currentLevel = treasureBoxCount + 1)
      (completed : Completed next.tables sessionId)

theorem standing_of_unlock {opened unlocked : Tables} (climbing : Climbing before sessionId level)
    (isBelow : level < treasureBoxCount) (writes : Writes before opened (sessionId, level))
    (full : ∃ box, opened.findBox (sessionId, level) = some box ∧ box.Full)
    (unlocks : Writes opened unlocked (sessionId, level + 1))
    (found : unlocked.findBox (sessionId, level + 1) = some box) (charging : box.Charging) :
    Standing (unlocked.changeSession sessionId (TreasureSession.atLevel (level + 1))) sessionId
      (level + 1) where
  inRange := ⟨Nat.le_add_left 1 level, isBelow⟩
  distinct := unlocks.distinct (writes.distinct climbing.distinct)
  ids := by
    unfold changeSession
    rw [KeyedRows.keys_update (keeps_atLevel _), unlocks.sessions, writes.sessions]
    exact climbing.ids
  levels := by
    intro other box found
    by_cases isNext : other = level + 1
    · rw [isNext]
      exact ⟨Nat.le_add_left 1 level, isBelow⟩
    · change unlocked.findBox (sessionId, other) = some box at found
      rw [unlocks.others _ fun same => isNext (congrArg Prod.snd same)] at found
      exact levels_of_writes climbing writes found
  session := by
    obtain ⟨session, isFound, active, -⟩ := climbing.session
    refine ⟨session.atLevel (level + 1), ?_, active, rfl⟩
    rw [findSession_changeSession (keeps_atLevel _), if_pos rfl, findSession_of_writes unlocks,
      findSession_of_writes writes, isFound]
    rfl
  below := by
    intro lower least isLower
    obtain ⟨box, isFound, isFull⟩ := full
    change ∃ box, unlocked.findBox (sessionId, lower) = some box ∧ box.Full
    rw [unlocks.others _ fun same => absurd (congrArg Prod.snd same) (Nat.ne_of_lt isLower)]
    exact below_of_full climbing writes isFound isFull lower least isLower
  current := by
    intro other isOther
    change unlocked.findBox (sessionId, level + 1) = some other at isOther
    rw [found] at isOther
    cases isOther
    exact charging
  above := by
    intro higher isAbove box isFound
    change unlocked.findBox (sessionId, higher) = some box at isFound
    rw [unlocks.others _ fun same => absurd (congrArg Prod.snd same) (Nat.ne_of_gt isAbove),
      writes.others _ fun same => absurd (congrArg Prod.snd same) (by omega)] at isFound
    exact climbing.above higher (by omega) box isFound
  present := ⟨box, found⟩

theorem completed_of_full {opened : Tables}
    (climbing : Climbing before sessionId treasureBoxCount)
    (writes : Writes before opened (sessionId, treasureBoxCount))
    (full : ∃ box, opened.findBox (sessionId, treasureBoxCount) = some box ∧ box.Full) :
    Completed (opened.changeSession sessionId (TreasureSession.withStatus .completed))
      sessionId where
  levels := fun other box found =>
    levels_of_writes climbing writes found
  session := by
    obtain ⟨session, isFound, -, isLast⟩ := climbing.session
    refine ⟨session.withStatus .completed, ?_, rfl, isLast⟩
    rw [findSession_changeSession (keeps_withStatus _), if_pos rfl, findSession_of_writes writes,
      isFound]
    rfl
  all := by
    intro lower least most
    obtain ⟨box, isFound, isFull⟩ := full
    exact below_of_full climbing writes isFound isFull lower least (by omega)

/-- A box is full: the session goes to the next level, or is complete and what is
left is refunded. -/
theorem advance_of_full (filling : Filling) (climbing : Climbing before sessionId level)
    (writes : Writes before filling.tables (sessionId, level))
    (full : ∃ box, filling.tables.findBox (sessionId, level) = some box ∧ box.Full)
    (isNext : filling.currentLevel = level + 1) (fresh : filling.Fresh)
    (left : 0 ≤ filling.remainingContribution) :
    ∃ next, advance sessionId filling = some next ∧ Leaves filling.tables next.tables sessionId ∧
      next.tables.progressOf sessionId = filling.tables.progressOf sessionId ∧
      next.remainingContribution + next.refundAmount = filling.remainingContribution ∧
      level + 1 ≤ next.currentLevel ∧ Outcome next sessionId := by
  obtain ⟨session, isFound, active, isAt⟩ := climbing.session
  have found : filling.tables.findSession sessionId = some session := by
    rw [findSession_of_writes writes]
    exact isFound
  have ids : (filling.tables.sessions.map TreasureSession.id).Nodup := by
    rw [writes.sessions]
    exact climbing.ids
  have inRange := climbing.inRange
  unfold advance
  rw [isNext]
  by_cases isLast : treasureBoxCount < level + 1
  · have atLast : level = treasureBoxCount := by omega
    rw [if_pos isLast, updateSession_of_found found, Option.map_some]
    subst atLast
    refine ⟨_, rfl, ?_, rfl, ?_, ?_, ?_⟩
    · exact leaves_changeSession filling.tables sessionId found ids .completed session.currentLevel
        rfl
    · dsimp only
      have unrefunded := fresh.unrefunded
      split <;> omega
    · exact le_refl _
    · refine .completes rfl ?_ ?_ rfl (completed_of_full climbing writes full)
      · dsimp only
        split <;> omega
      · dsimp only
        have unrefunded := fresh.unrefunded
        split <;> omega
  · rw [if_neg isLast]
    have waiting : ∀ box, filling.tables.findBox (sessionId, level + 1) = some box →
        box.Waiting := by
      rw [writes.others _ fun same => absurd (congrArg Prod.snd same) (Nat.succ_ne_self level)]
      exact climbing.above (level + 1) (Nat.lt_succ_self level)
    obtain ⟨unlocked, box, isUnlocked, unlocks, isBox, charging, sameProgress⟩ :=
      unlock_of_waiting (writes.distinct climbing.distinct) waiting
    rw [isUnlocked]
    have foundAfter : unlocked.findSession sessionId = some session := by
      rw [findSession_of_writes unlocks]
      exact found
    dsimp only
    rw [updateSession_of_found foundAfter, Option.map_some]
    refine ⟨_, rfl, ?_, sameProgress, ?_, le_refl _, ?_⟩
    · refine (Leaves.of_writes unlocks found ids).trans ?_
      refine leaves_changeSession unlocked sessionId foundAfter ?_ session.status (level + 1) rfl
      rw [unlocks.sessions]
      exact ids
    · dsimp only
      have unrefunded := fresh.unrefunded
      omega
    · refine .goesOn ⟨fresh.unfinished, fresh.unrefunded⟩ left ?_
      exact standing_of_unlock climbing (by omega) writes full unlocks isBox charging

theorem progressOf_recordContribution (tables : Tables) (gift : GiftProgress) (boxId : BoxId)
    (amount : Int) (sessionId : SessionId) :
    (recordContribution tables gift boxId amount).progressOf sessionId =
      tables.progressOf sessionId := by
  obtain ⟨contributions, isRecorded⟩ := recordContribution_eq tables gift boxId amount
  rw [isRecorded]
  rfl

theorem findBox_recordContribution (tables : Tables) (gift : GiftProgress) (boxId : BoxId)
    (amount : Int) (id : BoxId) :
    (recordContribution tables gift boxId amount).findBox id = tables.findBox id := by
  obtain ⟨contributions, isRecorded⟩ := recordContribution_eq tables gift boxId amount
  rw [isRecorded]
  rfl

/-- A round moves what it takes from the gift into the boxes. -/
theorem fillBox_of_climbing (gift : GiftProgress) {filling : Filling}
    (climbing : Climbing filling.tables sessionId filling.currentLevel)
    (positive : 0 < filling.remainingContribution) (fresh : filling.Fresh) :
    ∃ next, fillBox sessionId gift filling = some next ∧
      Leaves filling.tables next.tables sessionId ∧
      next.tables.progressOf sessionId + next.remainingContribution + next.refundAmount =
        filling.tables.progressOf sessionId + filling.remainingContribution ∧
      (next.remainingContribution = 0 ∨ filling.currentLevel + 1 ≤ next.currentLevel) ∧
      Outcome next sessionId := by
  obtain ⟨session, isFound, -, -⟩ := climbing.session
  obtain ⟨prepared, box, isPrepared, prepares, found, charging, sameProgress⟩ :=
    boxAt_of_charging climbing.current
  have isFor := key_of_findBox found
  have unrefunded := fresh.unrefunded
  have distinct := prepares.distinct climbing.distinct
  have nonneg := charging.nonneg
  have short := charging.short
  have progresses : ∀ progress status,
      (prepared.changeBox (sessionId, filling.currentLevel)
        (TreasureBox.withProgress progress status)).progressOf sessionId =
          filling.tables.progressOf sessionId + (progress - box.progress) := by
    intro progress status
    have changed := progressOf_changeBox distinct (keeps_withProgress progress status) found
    rw [sameProgress] at changed
    exact changed
  have isWritten : ∀ progress status,
      (prepared.changeBox (sessionId, filling.currentLevel)
        (TreasureBox.withProgress progress status)).findBox (sessionId, filling.currentLevel) =
          some (box.withProgress progress status) := by
    intro progress status
    rw [findBox_changeBox (keeps_withProgress _ _), if_pos rfl, found, Option.map_some]
  unfold fillBox
  rw [isPrepared]
  dsimp only
  rw [isFor, updateBox_of_found found, updateBox_of_found found]
  by_cases fills : box.threshold - box.progress ≤ filling.remainingContribution
  · rw [if_pos fills]
    dsimp only
    rw [if_pos (by omega)]
    let opened := prepared.changeBox (sessionId, filling.currentLevel)
      (TreasureBox.withProgress box.threshold .opened)
    let recorded := recordContribution opened gift (sessionId, filling.currentLevel)
      (box.threshold - box.progress)
    have writes : Writes filling.tables recorded (sessionId, filling.currentLevel) :=
      (prepares.trans (writes_changeBox prepared _ (keeps_withProgress _ _))).trans
        (writes_recordContribution opened gift _ _ _)
    have full : ∃ box, recorded.findBox (sessionId, filling.currentLevel) = some box ∧
        box.Full := by
      refine ⟨box.withProgress box.threshold .opened, ?_, rfl, rfl, ?_⟩
      · rw [findBox_recordContribution]
        exact isWritten box.threshold .opened
      · change 0 < box.threshold
        omega
    obtain ⟨next, isNext, leaves, same, remains, isAbove, outcome⟩ :=
      advance_of_full
        { filling with
          tables := recorded
          currentLevel := filling.currentLevel + 1
          remainingContribution :=
            filling.remainingContribution - (box.threshold - box.progress)
          completedBoxes := filling.completedBoxes ++
            [{ boxId := (sessionId, filling.currentLevel)
               threshold := box.threshold
               finalProgress := box.threshold }] }
        climbing writes full rfl ⟨fresh.unfinished, fresh.unrefunded⟩ (by dsimp only; omega)
    refine ⟨next, isNext, (Leaves.of_writes writes isFound climbing.ids).trans leaves, ?_,
      Or.inr isAbove, outcome⟩
    have grown : recorded.progressOf sessionId =
        filling.tables.progressOf sessionId + (box.threshold - box.progress) := by
      rw [progressOf_recordContribution]
      exact progresses box.threshold .opened
    dsimp only at same remains
    omega
  · rw [if_neg fills, Option.map_some]
    have writes : Writes filling.tables (recordContribution
        (prepared.changeBox (sessionId, filling.currentLevel) (TreasureBox.withProgress
          (box.progress + filling.remainingContribution) .active)) gift
        (sessionId, filling.currentLevel) filling.remainingContribution)
        (sessionId, filling.currentLevel) :=
      (prepares.trans (writes_changeBox prepared _ (keeps_withProgress _ _))).trans
        (writes_recordContribution _ gift _ _ _)
    refine ⟨_, rfl, Leaves.of_writes writes isFound climbing.ids, ?_, Or.inl rfl, ?_⟩
    · dsimp only
      rw [progressOf_recordContribution, progresses]
      omega
    · refine .goesOn ⟨fresh.unfinished, fresh.unrefunded⟩ (Int.le_refl 0) ?_
      have charges : (box.withProgress (box.progress + filling.remainingContribution)
          .active).Charging := by
        refine ⟨rfl, ?_, ?_⟩
        · change 0 ≤ box.progress + filling.remainingContribution
          omega
        · change box.progress + filling.remainingContribution < box.threshold
          omega
      refine standing_of_writes climbing writes ?_ charges
      rw [findBox_recordContribution]
      exact isWritten _ _

/-! ### The loop -/

theorem fillBoxes_of_stopped {filling : Filling} (stopped : filling.goesOn = false)
    (fuel : Nat) : fillBoxes sessionId gift fuel filling = some filling := by
  unfold fillBoxes
  rw [if_neg (Bool.not_eq_true _ ▸ stopped)]

/-- Six less the level rounds are enough: each round uses up the gift or a level. -/
theorem fillBoxes_of_climbing (gift : GiftProgress) {filling : Filling}
    (climbing : Climbing filling.tables sessionId filling.currentLevel)
    (positive : 0 < filling.remainingContribution) (fresh : filling.Fresh) :
    ∃ final, (∀ fuel, treasureBoxCount + 1 - filling.currentLevel ≤ fuel →
        fillBoxes sessionId gift fuel filling = some final) ∧
      Leaves filling.tables final.tables sessionId ∧
      final.tables.progressOf sessionId + final.refundAmount =
        filling.tables.progressOf sessionId + filling.remainingContribution ∧
      final.remainingContribution = 0 ∧ Outcome final sessionId := by
  induction rounds : treasureBoxCount - filling.currentLevel using Nat.strong_induction_on
    generalizing filling with
  | _ rounds ih =>
    have inRange := climbing.inRange
    obtain ⟨next, isNext, leaves, accounted, moves, outcome⟩ :=
      fillBox_of_climbing gift climbing positive fresh
    have goesOn : filling.goesOn = true := decide_eq_true ⟨positive, inRange.2⟩
    have oneRound : ∀ fuel, fillBoxes sessionId gift (fuel + 1) filling =
        fillBoxes sessionId gift fuel next := by
      intro fuel
      rw [fillBoxes, if_pos goesOn, isNext]
    have last : next.remainingContribution = 0 →
        ∃ final, (∀ fuel, treasureBoxCount + 1 - filling.currentLevel ≤ fuel →
            fillBoxes sessionId gift fuel filling = some final) ∧
          Leaves filling.tables final.tables sessionId ∧
          final.tables.progressOf sessionId + final.refundAmount =
            filling.tables.progressOf sessionId + filling.remainingContribution ∧
          final.remainingContribution = 0 ∧ Outcome final sessionId := by
      intro spent
      refine ⟨next, ?_, leaves, by omega, spent, outcome⟩
      intro fuel enough
      obtain ⟨fewer, rfl⟩ : ∃ fewer, fuel = fewer + 1 := ⟨fuel - 1, by omega⟩
      rw [oneRound]
      apply fillBoxes_of_stopped
      unfold Filling.goesOn
      rw [spent]
      simp
    by_cases spent : next.remainingContribution = 0
    · exact last spent
    · cases outcome with
      | completes _ isSpent => exact last isSpent
      | goesOn freshNext left standing =>
          have higher := moves.resolve_left spent
          have nextInRange := standing.inRange
          obtain ⟨final, terminates, leavesAfter, accountedAfter, isSpent, outcome⟩ :=
            ih (treasureBoxCount - next.currentLevel) (by omega) standing.toClimbing (by omega)
              freshNext rfl
          have unrefunded := freshNext.unrefunded
          refine ⟨final, ?_, leaves.trans leavesAfter, by omega, isSpent, outcome⟩
          intro fuel enough
          obtain ⟨fewer, rfl⟩ : ∃ fewer, fuel = fewer + 1 := ⟨fuel - 1, by omega⟩
          rw [oneRound]
          exact terminates fewer (by omega)

end Soulzaa.Treasure
