/-
The progress of a mission of one user, over the history of his tasks.

A row is kept for each task and period, and the mission counts rows: a task that is completed in
two periods is counted twice.  The mission is evaluated anew after each completion, and each time
it is found complete its time is written and it is published.
-/

import Mathlib.Data.Finset.Card
import Soulzaa.Lib.Runs
import Soulzaa.Tasks.PeriodKeys

namespace Soulzaa.Tasks

open CivilDates KeyedRows

/-- A mission and its tasks. -/
structure Mission extends MissionDefinition where
  id : MissionId
  definitions : TaskId → TaskDefinition
  belongs : ∀ taskId, (definitions taskId).missionId = some id ↔ taskId ∈ tasks

structure MissionRecord where
  completedTaskCount : Nat
  isCompleted : Bool
  completedAt : Option Moment
  deriving DecidableEq

structure MissionTables where
  progress : List TaskProgress := []
  record : Option MissionRecord := none
  /-- How often `MissionCompleted` was published. -/
  published : Nat := 0
  /-- When enough different tasks had been completed for the first time. -/
  reachedAt : Option Moment := none
  deriving DecidableEq

/-- An event that one task listens to. -/
structure TaskEvent where
  taskId : TaskId
  incrementBy : Nat
  loggedIn : Bool := false
  now : Moment

namespace Mission

variable (mission : Mission)

/-- The row is a completed one of one of the tasks. -/
def Counts (row : TaskProgress) : Prop := row.taskId ∈ mission.tasks ∧ row.isCompleted = true

instance : DecidablePred mission.Counts := fun _ => inferInstanceAs (Decidable (_ ∧ _))

/-- The different tasks of the mission that have been completed. -/
def completedTasks (progress : List TaskProgress) : Finset TaskId :=
  ((progress.filter fun row => mission.Counts row).map TaskProgress.taskId).toFinset

def evaluateMissionProgress (now : Moment) (tables : MissionTables) : MissionTables :=
  if mission.tasks = [] then tables
  else
    let completedTasksCount := tables.progress.countP fun row => mission.Counts row
    let isCompleted := decide (mission.requiredTaskCount ≤ completedTasksCount)
    { tables with
      record :=
        some
          { completedTaskCount := completedTasksCount
            isCompleted := isCompleted
            completedAt := if isCompleted then some now else none }
      published := if isCompleted then tables.published + 1 else tables.published
      reachedAt :=
        if mission.requiredTaskCount ≤ (mission.completedTasks tables.progress).card then
          some (tables.reachedAt.getD now)
        else tables.reachedAt }

section Events

variable (event : TaskEvent) (tables : MissionTables)

def task : TaskDefinition := mission.definitions event.taskId

def periodKey : PeriodKey := buildPeriodKey (mission.task event).resetPolicy event.now.clock

/-- The row of the period. -/
def existing : Option TaskProgress :=
  find TaskProgress.key (event.taskId, mission.periodKey event) tables.progress

/-- The period is completed, or the login is counted already. -/
def Ignored : Prop :=
  (mission.existing event tables).any (·.isCompleted) = true ∨
    (event.loggedIn = true ∧
      1 ≤ ((mission.existing event tables).map (·.currentProgress)).getD 0)

instance : Decidable (mission.Ignored event tables) := inferInstanceAs (Decidable (_ ∨ _))

def row : TaskProgress :=
  progressRow (mission.task event) ⟨event.taskId, event.incrementBy⟩ (mission.periodKey event)
    (mission.existing event tables)

/-- The event completes the task, and the task is one of the mission. -/
def Completes : Prop :=
  ¬mission.Ignored event tables ∧
    JustCompleted (mission.task event) ⟨event.taskId, event.incrementBy⟩
      (mission.existing event tables) ∧
    (mission.task event).missionId = some mission.id

instance : Decidable (mission.Completes event tables) :=
  inferInstanceAs (Decidable (_ ∧ _ ∧ _))

def incrementProgress : MissionTables :=
  { tables with
    progress := upsert TaskProgress.key (mission.row event tables) tables.progress }

end Events

def step (tables : MissionTables) (event : TaskEvent) : MissionTables :=
  if mission.Ignored event tables then tables
  else
    let written := mission.incrementProgress event tables
    if mission.Completes event tables then mission.evaluateMissionProgress event.now written
    else written

/-! ### The property -/

/-- The record tells how many different tasks have been completed, and of the first moment at
which they were enough. -/
structure CountsTasks (tables : MissionTables) : Prop where
  recorded : (mission.completedTasks tables.progress).Nonempty → tables.record.isSome = true
  counted : ∀ record ∈ tables.record,
    record.completedTaskCount = (mission.completedTasks tables.progress).card ∧
      record.completedTaskCount ≤ mission.tasks.length ∧
      (record.isCompleted = true ↔
        mission.requiredTaskCount ≤ (mission.completedTasks tables.progress).card) ∧
      record.completedAt = tables.reachedAt
  once : tables.published = if tables.reachedAt.isSome then 1 else 0

/-- A completion is of a task that has not been completed in any period, of a mission that is not
complete. -/
def PermitsCompletion (tables : MissionTables) (event : TaskEvent) : Prop :=
  mission.Completes event tables →
    event.taskId ∉ mission.completedTasks tables.progress ∧ tables.reachedAt = none

/-! ### Rows -/

structure Regular (tables : MissionTables) : Prop where
  distinct : (tables.progress.map TaskProgress.key).Nodup
  completed : ∀ row ∈ tables.progress,
    row.isCompleted = true ↔ (mission.definitions row.taskId).requiredProgress ≤ row.currentProgress
  /-- The record was written at the last completion. -/
  fresh : tables.progress.countP (fun row => mission.Counts row) =
    (tables.record.map MissionRecord.completedTaskCount).getD 0
  reached : tables.reachedAt.isSome = true ↔
    tables.record.isSome = true ∧
      mission.requiredTaskCount ≤ (mission.completedTasks tables.progress).card

variable {mission} {event : TaskEvent} {tables : MissionTables}

theorem mem_completedTasks {progress : List TaskProgress} {taskId : TaskId} :
    taskId ∈ mission.completedTasks progress ↔
      ∃ row ∈ progress, mission.Counts row ∧ row.taskId = taskId := by
  unfold completedTasks
  simp only [List.mem_toFinset, List.mem_map, List.mem_filter, decide_eq_true_eq, and_assoc]

theorem card_completedTasks_le (progress : List TaskProgress) :
    (mission.completedTasks progress).card ≤ mission.tasks.length := by
  have within : mission.completedTasks progress ⊆ mission.tasks.toFinset := by
    intro taskId member
    obtain ⟨row, _, counts, rfl⟩ := mem_completedTasks.mp member
    exact List.mem_toFinset.mpr counts.1
  exact (Finset.card_le_card within).trans (List.toFinset_card_le _)

section Rows

variable (went : ¬mission.Ignored event tables)
include went

theorem not_counts_existing {before : TaskProgress}
    (found : find TaskProgress.key (mission.row event tables).key tables.progress = some before) :
    ¬mission.Counts before := by
  intro counts
  apply went
  have isExisting : mission.existing event tables = some before := found
  refine Or.inl ?_
  rw [isExisting]
  exact counts.2

variable (regular : mission.Regular tables)
include regular

theorem counts_row_iff : mission.Counts (mission.row event tables) ↔
    mission.Completes event tables := by
  have belongs := mission.belongs event.taskId
  unfold Completes Counts
  rw [and_iff_right went, show (mission.row event tables).taskId = event.taskId from rfl,
    show (mission.task event).missionId = (mission.definitions event.taskId).missionId from rfl,
    belongs, and_comm]
  refine and_congr_left fun _ => ?_
  unfold JustCompleted row progressRow
  dsimp only
  rw [decide_eq_true_eq]
  refine (and_iff_right ?_).symm
  cases isExisting : mission.existing event tables with
  | none => exact (mission.task event).required_pos
  | some before =>
      have completed := regular.completed before (mem_of_find isExisting)
      have isKey : before.key = (event.taskId, mission.periodKey event) := key_of_find isExisting
      have isTask : before.taskId = event.taskId := congrArg Prod.fst isKey
      rw [isTask] at completed
      apply Nat.lt_of_not_le
      intro full
      apply went
      refine Or.inl ?_
      rw [isExisting]
      exact completed.mpr full

theorem completedTasks_increment :
    mission.completedTasks (mission.incrementProgress event tables).progress =
      if mission.Completes event tables then
        insert event.taskId (mission.completedTasks tables.progress)
      else mission.completedTasks tables.progress := by
  have isRow := counts_row_iff went regular
  have kept : ∀ row ∈ tables.progress, mission.Counts row →
      row ∈ (mission.incrementProgress event tables).progress := by
    intro row member counts
    have isFound := find_of_mem regular.distinct member
    have other : row.key ≠ (mission.row event tables).key := by
      intro same
      rw [same] at isFound
      exact not_counts_existing went isFound counts
    have after : find TaskProgress.key row.key (mission.incrementProgress event tables).progress =
        some row := by
      unfold incrementProgress
      rw [find_upsert, if_neg other, isFound]
    exact mem_of_find after
  have written : mission.row event tables ∈ (mission.incrementProgress event tables).progress := by
    have after : find TaskProgress.key (mission.row event tables).key
        (mission.incrementProgress event tables).progress = some (mission.row event tables) := by
      unfold incrementProgress
      rw [find_upsert, if_pos rfl]
    exact mem_of_find after
  ext taskId
  split
  · rename_i completes
    rw [Finset.mem_insert, mem_completedTasks, mem_completedTasks]
    constructor
    · intro some
      obtain ⟨row, member, counts, rfl⟩ := some
      rcases mem_upsert member with rfl | inside
      · exact Or.inl rfl
      · exact Or.inr ⟨row, inside, counts, rfl⟩
    · intro either
      rcases either with rfl | before
      · exact ⟨_, written, isRow.mpr completes, rfl⟩
      · obtain ⟨row, member, counts, isTask⟩ := before
        exact ⟨row, kept row member counts, counts, isTask⟩
  · rename_i incomplete
    rw [mem_completedTasks, mem_completedTasks]
    constructor
    · intro some
      obtain ⟨row, member, counts, isTask⟩ := some
      rcases mem_upsert member with rfl | inside
      · exact absurd (isRow.mp counts) incomplete
      · exact ⟨row, inside, counts, isTask⟩
    · intro before
      obtain ⟨row, member, counts, isTask⟩ := before
      exact ⟨row, kept row member counts, counts, isTask⟩

theorem countP_increment :
    (mission.incrementProgress event tables).progress.countP (fun row => mission.Counts row) =
      tables.progress.countP (fun row => mission.Counts row) +
        if mission.Completes event tables then 1 else 0 := by
  have uncounted : ∀ before,
      find TaskProgress.key (mission.row event tables).key tables.progress = some before →
        decide (mission.Counts before) = false :=
    fun before found => decide_eq_false (not_counts_existing went found)
  have counted := countP_upsert regular.distinct uncounted
  refine counted.trans ?_
  rw [if_congr (decide_eq_true_iff.trans (counts_row_iff went regular)) rfl rfl]

end Rows

/-! ### Steps -/

theorem tasks_ne_nil (completes : mission.Completes event tables) : mission.tasks ≠ [] :=
  List.ne_nil_of_mem ((mission.belongs event.taskId).mp completes.2.2)

/-- What a completion writes. -/
theorem step_of_completes (regular : mission.Regular tables)
    (completes : mission.Completes event tables) :
    mission.step tables event =
      { progress := (mission.incrementProgress event tables).progress
        record :=
          some
            { completedTaskCount := tables.progress.countP (fun row => mission.Counts row) + 1
              isCompleted := decide (mission.requiredTaskCount ≤
                tables.progress.countP (fun row => mission.Counts row) + 1)
              completedAt :=
                if mission.requiredTaskCount ≤
                    tables.progress.countP (fun row => mission.Counts row) + 1 then
                  some event.now
                else none }
        published :=
          if mission.requiredTaskCount ≤
              tables.progress.countP (fun row => mission.Counts row) + 1 then
            tables.published + 1
          else tables.published
        reachedAt :=
          if mission.requiredTaskCount ≤
              (insert event.taskId (mission.completedTasks tables.progress)).card then
            some (tables.reachedAt.getD event.now)
          else tables.reachedAt } := by
  unfold step
  dsimp only
  rw [if_neg completes.1, if_pos completes]
  unfold evaluateMissionProgress
  dsimp only
  rw [if_neg (tasks_ne_nil completes), completedTasks_increment completes.1 regular,
    countP_increment completes.1 regular, if_pos completes, if_pos completes]
  simp only [decide_eq_true_eq]
  rfl

theorem step_of_incomplete (went : ¬mission.Ignored event tables)
    (incomplete : ¬mission.Completes event tables) :
    mission.step tables event = mission.incrementProgress event tables := by
  unfold step
  dsimp only
  rw [if_neg went, if_neg incomplete]

theorem regular_step (regular : mission.Regular tables) :
    mission.Regular (mission.step tables event) := by
  by_cases ignored : mission.Ignored event tables
  · unfold step
    rw [if_pos ignored]
    exact regular
  have tasks := completedTasks_increment ignored regular
  have count := countP_increment ignored regular
  have distinct : ((mission.incrementProgress event tables).progress.map
      TaskProgress.key).Nodup := nodup_upsert regular.distinct
  have completed : ∀ row ∈ (mission.incrementProgress event tables).progress,
      row.isCompleted = true ↔
        (mission.definitions row.taskId).requiredProgress ≤ row.currentProgress := by
    intro row member
    rcases mem_upsert member with rfl | inside
    · exact decide_eq_true_iff
    · exact regular.completed row inside
  by_cases completes : mission.Completes event tables
  · rw [if_pos completes] at tasks count
    rw [step_of_completes regular completes]
    refine ⟨distinct, completed, count, ?_⟩
    dsimp only
    rw [tasks, Option.isSome_some, eq_self, true_and]
    split
    · rename_i enough
      exact iff_of_true rfl enough
    · rename_i few
      refine iff_of_false ?_ few
      intro reached
      exact few ((regular.reached.mp reached).2.trans
        (Finset.card_le_card (Finset.subset_insert _ _)))
  · rw [if_neg completes] at tasks count
    rw [step_of_incomplete ignored completes]
    refine ⟨distinct, completed, count.trans regular.fresh, ?_⟩
    rw [tasks]
    exact regular.reached

/-- Where the property holds, there are as many completed rows as completed tasks. -/
theorem countP_eq_card (regular : mission.Regular tables) (counts : mission.CountsTasks tables) :
    tables.progress.countP (fun row => mission.Counts row) =
      (mission.completedTasks tables.progress).card := by
  have fresh := regular.fresh
  cases isRecord : tables.record with
  | none =>
      have none_done : mission.completedTasks tables.progress = ∅ := by
        apply Finset.not_nonempty_iff_eq_empty.mp
        intro some
        have recorded := counts.recorded some
        rw [isRecord] at recorded
        cases recorded
      rw [fresh, isRecord, none_done]
      rfl
  | some record =>
      rw [fresh, isRecord]
      exact (counts.counted record isRecord).1

theorem countsTasks_step_iff (regular : mission.Regular tables)
    (counts : mission.CountsTasks tables) :
    mission.CountsTasks (mission.step tables event) ↔ mission.PermitsCompletion tables event := by
  by_cases completes : mission.Completes event tables
  · have same := countP_eq_card regular counts
    have once := counts.once
    have tasks := completedTasks_increment completes.1 regular
    have atMost := @card_completedTasks_le mission (mission.incrementProgress event tables).progress
    unfold PermitsCompletion
    rw [step_of_completes regular completes, same]
    rw [if_pos completes] at tasks
    rw [tasks] at atMost
    constructor
    · intro after _
      have counted := (after.counted _ rfl).1
      dsimp only at counted
      rw [tasks] at counted
      have isNew : event.taskId ∉ mission.completedTasks tables.progress := by
        intro done
        rw [Finset.insert_eq_of_mem done] at counted
        exact absurd counted (Nat.succ_ne_self _)
      refine ⟨isNew, Option.isNone_iff_eq_none.mp ?_⟩
      -- a mission that is complete would be published once more
      cases isReached : tables.reachedAt with
      | none => rfl
      | some moment =>
          have enough : mission.requiredTaskCount ≤ (mission.completedTasks tables.progress).card :=
            (regular.reached.mp (by rw [isReached]; rfl)).2
          have onceMore := after.once
          dsimp only at onceMore
          rw [if_pos (enough.trans (Nat.le_succ _)), ← counted,
            if_pos (enough.trans (Nat.le_succ _)), once, isReached] at onceMore
          cases onceMore
    · intro permitted
      obtain ⟨isNew, unreached⟩ := permitted completes
      have card := Finset.card_insert_of_notMem isNew
      rw [unreached] at once ⊢
      constructor
      · intro _
        rfl
      · intro record isRecord
        cases isRecord
        dsimp only
        rw [tasks, card]
        refine ⟨rfl, by omega, decide_eq_true_iff, ?_⟩
        split <;> rfl
      · dsimp only
        rw [card, once]
        split <;> rfl
  · have permits : mission.PermitsCompletion tables event := fun is => absurd is completes
    refine iff_of_true ?_ permits
    by_cases ignored : mission.Ignored event tables
    · unfold step
      rw [if_pos ignored]
      exact counts
    · have tasks := completedTasks_increment ignored regular
      rw [if_neg completes] at tasks
      rw [step_of_incomplete ignored completes]
      constructor
      · rw [tasks]
        exact counts.recorded
      · rw [tasks]
        exact counts.counted
      · exact counts.once

/-- In a history the record tells of the different tasks exactly when each completion is of a task
not completed before, of a mission not complete before. -/
theorem countsTasks_iff (mission : Mission) (events : List TaskEvent) :
    Runs.Always mission.step mission.CountsTasks {} events ↔
      Runs.Each mission.step mission.PermitsCompletion {} events := by
  have regular : mission.Regular {} := by
    refine ⟨List.nodup_nil, ?_, rfl, ?_⟩
    · intro row member
      cases member
    · exact iff_of_false (by decide) fun both => absurd both.1 (by decide)
  have counts : mission.CountsTasks {} := by
    refine ⟨?_, ?_, rfl⟩
    · intro some
      exact absurd some Finset.not_nonempty_empty
    · intro record isRecord
      cases isRecord
  have kept : ∀ tables event, mission.Regular tables → mission.CountsTasks tables →
      mission.PermitsCompletion tables event → mission.Regular (mission.step tables event) :=
    fun _ _ isRegular _ _ => regular_step isRegular
  have exactly : ∀ tables event, mission.Regular tables → mission.CountsTasks tables →
      (mission.CountsTasks (mission.step tables event) ↔
        mission.PermitsCompletion tables event) :=
    fun _ _ isRegular isCounted => countsTasks_step_iff isRegular isCounted
  exact Runs.always_iff_each mission.Regular kept exactly {} regular counts events

/-! ### A task completed on two days -/

theorem one_pos : 0 < 1 := by decide

theorem days_may : 28 ≤ daysInMonth 2026 5 := by decide

theorem may_valid (day : Fin 28) : Date.Valid ⟨2026, 5, day.val + 1⟩ where
  month_pos := Nat.le_add_left 1 4
  month_le := Nat.le_add_right 5 7
  day_pos := Nat.le_add_left 1 day.val
  day_le := (Nat.succ_le_of_lt day.isLt).trans days_may

theorem since_2026 : 1970 ≤ 2026 := by decide

def may (day : Fin 28) : Moment := ⟨⟨2026, 5, day.val + 1⟩, 0, may_valid day, since_2026⟩

/-- Each of two tasks is done daily. -/
def pairOfTasks : Mission where
  requiredTaskCount := 2
  tasks := [1, 2]
  id := 7
  definitions := fun taskId =>
    { requiredProgress := 1
      missionId := if taskId ∈ [1, 2] then some 7 else none
      required_pos := one_pos }
  belongs := by
    intro taskId
    by_cases isTask : taskId ∈ [1, 2] <;> simp [isTask]

/-- The mission is complete when the first task has been completed on two days. -/
theorem not_countsTasks_twoDays :
    ¬Runs.Always pairOfTasks.step pairOfTasks.CountsTasks {}
      [⟨1, 1, false, may 0⟩, ⟨1, 1, false, may 1⟩] := by
  intro always
  have counted := always.final.counted
  have record : (Runs.run pairOfTasks.step {}
      [⟨1, 1, false, may 0⟩, ⟨1, 1, false, may 1⟩]).record = some ⟨2, true, some (may 1)⟩ := by
    decide +kernel
  have card : (pairOfTasks.completedTasks (Runs.run pairOfTasks.step {}
      [⟨1, 1, false, may 0⟩, ⟨1, 1, false, may 1⟩]).progress).card = 1 := by
    decide +kernel
  have same := (counted _ record).1
  rw [card] at same
  cases same

end Mission

end Soulzaa.Tasks
