/-
The tasks of one user: progress by period, completion, missions and rewards.

Any number of events are evaluated and any number of claims are made side by side.  Each read and
each write of a row is a step of its own.
-/

import Mathlib.Data.List.Basic
import Soulzaa.Lib.CivilDates
import Soulzaa.Lib.KeyedRows

namespace Soulzaa.Tasks

open CivilDates KeyedRows

abbrev TaskId := Nat
abbrev MissionId := Nat

/-! ### Periods -/

inductive ResetPolicy where
  | none
  | daily
  | weekly
  | monthly
  | seasonal
  deriving DecidableEq, Repr

inductive PeriodKey where
  | day (year month day : Nat)
  | week (year week : Nat)
  | month (year month : Nat)
  | season (year : Nat)
  | alltime
  deriving DecidableEq, Repr

/-- The date in UTC, and in the time zone of the server. -/
structure Clock where
  utc : Date
  zoned : Date
  deriving DecidableEq, Repr

/-- The year of a week's key is the year of the date, also where the week is another year's. -/
def buildPeriodKey (resetPolicy : ResetPolicy) (now : Clock) : PeriodKey :=
  match resetPolicy with
  | .daily => .day now.utc.year now.utc.month now.utc.day
  | .weekly => .week now.utc.year now.zoned.weekNumber
  | .monthly => .month now.utc.year now.utc.month
  | .seasonal => .season now.utc.year
  | .none => .alltime

example :
    buildPeriodKey .weekly ⟨⟨2024, 12, 30⟩, ⟨2024, 12, 30⟩⟩ =
      buildPeriodKey .weekly ⟨⟨2024, 1, 1⟩, ⟨2024, 1, 1⟩⟩ := by
  decide

/-! ### Rows -/

structure TaskDefinition where
  requiredProgress : Nat
  resetPolicy : ResetPolicy := .daily
  active : Bool := true
  /-- A reward is defined. -/
  rewarded : Bool := true
  missionId : Option MissionId := none
  required_pos : 0 < requiredProgress

structure MissionDefinition where
  requiredTaskCount : Nat := 1
  tasks : List TaskId

structure Catalogue where
  tasks : TaskId → TaskDefinition
  missions : MissionId → MissionDefinition

structure TaskProgress where
  taskId : TaskId
  periodKey : PeriodKey
  currentProgress : Nat
  isCompleted : Bool
  completionCount : Nat
  deriving DecidableEq, Repr

abbrev Key := TaskId × PeriodKey

def TaskProgress.key (row : TaskProgress) : Key := (row.taskId, row.periodKey)

structure MissionProgress where
  missionId : MissionId
  completedTaskCount : Nat
  isCompleted : Bool
  deriving DecidableEq, Repr

structure TaskReward where
  taskId : Option TaskId
  missionId : Option MissionId
  claimedAt : Clock
  deriving DecidableEq, Repr

/-! ### Calls -/

structure Event where
  /-- The event is `user.logged_in`. -/
  loggedIn : Bool := false
  autoClaim : Bool := true
  deriving DecidableEq, Repr

/-- A matching task and what the event adds to it. -/
structure Match where
  taskId : TaskId
  incrementBy : Nat
  deriving DecidableEq, Repr

inductive Call where
  | reading (event : Event) (matching : List Match)
  | writing (event : Event) (current : Match) (periodKey : PeriodKey)
      (existing : Option TaskProgress) (rest : List Match)
  | counting (event : Event) (taskId : TaskId) (missionId : MissionId) (rest : List Match)
  | recording (event : Event) (taskId : TaskId) (missionId : MissionId) (count : Nat)
      (rest : List Match)
  | rewarding (event : Event) (taskId : TaskId) (rest : List Match)
  | claimingTask (taskId : TaskId)
  | claimingMission (missionId : MissionId)
  | selfReading (taskId : TaskId)
  | selfChecking (taskId : TaskId)
  | selfClaiming (taskId : TaskId)
  | finished
  deriving DecidableEq, Repr

/-- An event of a period, as it was counted towards a task. -/
structure Counted where
  key : Key
  incrementBy : Nat
  loggedIn : Bool
  deriving DecidableEq, Repr

/-- A claim that was refused, and what there was of the period in which it was. -/
structure Refusal where
  taskId : TaskId
  completed : Bool
  paid : Bool
  deriving DecidableEq, Repr

structure World where
  clock : Clock
  progress : List TaskProgress := []
  missions : List MissionProgress := []
  rewards : List TaskReward := []
  calls : List Call := []
  counted : List Counted := []
  /-- `task.completed` as it was published, by task and period. -/
  published : List Key := []
  /-- The periods in which a task was completed, each once. -/
  reached : List Key := []
  missionsReached : List MissionId := []
  refusals : List Refusal := []
  deriving DecidableEq, Repr

inductive Happening where
  | evaluateEvent (event : Event) (matching : List Match)
  | claimMyTaskReward (taskId : TaskId)
  | claimMyMissionReward (missionId : MissionId)
  | selfClaimReward (taskId : TaskId)
  /-- Where a query does not say which row comes first, the choice does. -/
  | goOn (position choice : Nat)
  | turn (clock : Clock)
  deriving DecidableEq, Repr

/-- What `incrementProgress` writes. -/
def progressRow (task : TaskDefinition) (current : Match) (periodKey : PeriodKey)
    (existing : Option TaskProgress) : TaskProgress :=
  let progressBefore := (existing.map (·.currentProgress)).getD 0
  let progressAfter := min task.requiredProgress (progressBefore + current.incrementBy)
  let justCompleted :=
    progressBefore < task.requiredProgress ∧ task.requiredProgress ≤ progressAfter
  { taskId := current.taskId
    periodKey := periodKey
    currentProgress := progressAfter
    isCompleted := task.requiredProgress ≤ progressAfter
    completionCount :=
      (existing.map (·.completionCount)).getD 0 + if justCompleted then 1 else 0 }

def JustCompleted (task : TaskDefinition) (current : Match) (existing : Option TaskProgress) :
    Prop :=
  let progressBefore := (existing.map (·.currentProgress)).getD 0
  progressBefore < task.requiredProgress ∧
    task.requiredProgress ≤ min task.requiredProgress (progressBefore + current.incrementBy)

instance (task : TaskDefinition) (current : Match) (existing : Option TaskProgress) :
    Decidable (JustCompleted task current existing) :=
  inferInstanceAs (Decidable (_ < _ ∧ _ ≤ _))

namespace World

def put (world : World) (position : Nat) (call : Call) : World :=
  { world with calls := world.calls.set position call }

def spawn (world : World) (call : Call) : World := { world with calls := world.calls ++ [call] }

def dispatchReward (world : World) (taskId : Option TaskId) (missionId : Option MissionId) :
    World :=
  { world with
    rewards :=
      world.rewards ++ [{ taskId := taskId, missionId := missionId, claimedAt := world.clock }] }

section Steps

variable (catalogue : Catalogue) (world : World) (position : Nat)

/-- The user's progress on the task in the period that it is now. -/
def current (taskId : TaskId) : Option TaskProgress :=
  find TaskProgress.key
    (taskId, buildPeriodKey (catalogue.tasks taskId).resetPolicy world.clock) world.progress

/-- The reward is one of the task's, claimed in the period that it is now. -/
def ClaimedNow (taskId : TaskId) (reward : TaskReward) : Prop :=
  reward.taskId = some taskId ∧
    buildPeriodKey (catalogue.tasks taskId).resetPolicy reward.claimedAt =
      buildPeriodKey (catalogue.tasks taskId).resetPolicy world.clock

instance (taskId : TaskId) (reward : TaskReward) :
    Decidable (world.ClaimedNow catalogue taskId reward) :=
  inferInstanceAs (Decidable (_ = _ ∧ _ = _))

def refuse (taskId : TaskId) : World :=
  { world.put position .finished with
    refusals :=
      { taskId := taskId
        completed := (world.current catalogue taskId).any (·.isCompleted)
        paid := decide (∃ reward ∈ world.rewards, world.ClaimedNow catalogue taskId reward) } ::
        world.refusals }

def rewardNext (event : Event) (taskId : TaskId) (rest : List Match) : Call :=
  if event.autoClaim ∧ (catalogue.tasks taskId).rewarded then .rewarding event taskId rest
  else .reading event rest

def completedNext (event : Event) (taskId : TaskId) (rest : List Match) : Call :=
  match (catalogue.tasks taskId).missionId with
  | some missionId => .counting event taskId missionId rest
  | none => rewardNext catalogue event taskId rest

def read (event : Event) (next : Match) (rest : List Match) : World :=
  let periodKey := buildPeriodKey (catalogue.tasks next.taskId).resetPolicy world.clock
  let existing := world.current catalogue next.taskId
  { world.put position
      (if existing.any (·.isCompleted) ∨
          (event.loggedIn ∧ 1 ≤ (existing.map (·.currentProgress)).getD 0) then
        .reading event rest
      else .writing event next periodKey existing rest) with
    counted :=
      { key := (next.taskId, periodKey)
        incrementBy := next.incrementBy
        loggedIn := event.loggedIn } :: world.counted }

def write (event : Event) (next : Match) (periodKey : PeriodKey)
    (existing : Option TaskProgress) (rest : List Match) : World :=
  let task := catalogue.tasks next.taskId
  let row := progressRow task next periodKey existing
  { world.put position
      (if JustCompleted task next existing then completedNext catalogue event next.taskId rest
      else .reading event rest) with
    progress := upsert TaskProgress.key row world.progress
    reached :=
      if row.isCompleted ∧ row.key ∉ world.reached then row.key :: world.reached
      else world.reached
    published :=
      if JustCompleted task next existing then row.key :: world.published else world.published }

def record (event : Event) (taskId : TaskId) (missionId : MissionId) (count : Nat)
    (rest : List Match) : World :=
  let isCompleted := decide ((catalogue.missions missionId).requiredTaskCount ≤ count)
  { world.put position (rewardNext catalogue event taskId rest) with
    missions :=
      upsert MissionProgress.missionId
        { missionId := missionId, completedTaskCount := count, isCompleted := isCompleted }
        world.missions
    missionsReached :=
      if isCompleted then missionId :: world.missionsReached else world.missionsReached }

def goOn (choice : Nat) : Call → World
  | .reading _ [] => world.put position .finished
  | .reading event (next :: rest) => world.read catalogue position event next rest
  | .writing event next periodKey existing rest =>
      world.write catalogue position event next periodKey existing rest
  | .counting event taskId missionId rest =>
      let tasks := (catalogue.missions missionId).tasks
      if tasks = [] then world.put position (rewardNext catalogue event taskId rest)
      else
        world.put position
          (.recording event taskId missionId
            (world.progress.countP fun row => row.taskId ∈ tasks ∧ row.isCompleted) rest)
  | .recording event taskId missionId count rest =>
      world.record catalogue position event taskId missionId count rest
  | .rewarding event taskId rest =>
      (world.put position (.reading event rest)).dispatchReward (some taskId) none
  | .claimingTask taskId => (world.put position .finished).dispatchReward (some taskId) none
  | .claimingMission missionId =>
      (world.put position .finished).dispatchReward none (some missionId)
  | .selfReading taskId =>
      let task := catalogue.tasks taskId
      let rows := world.progress.filter fun row => row.taskId = taskId
      let found := rows[choice % rows.length]?
      if task.active then
        if (found.map (·.currentProgress)).getD 0 < task.requiredProgress then
          world.refuse catalogue position taskId
        else world.put position (.selfChecking taskId)
      else world.put position .finished
  | .selfChecking taskId =>
      if ∃ reward ∈ world.rewards, reward.taskId = some taskId then
        world.refuse catalogue position taskId
      else world.put position (.selfClaiming taskId)
  | .selfClaiming taskId => (world.put position .finished).dispatchReward (some taskId) none
  | .finished => world

def step (world : World) : Happening → World
  | .evaluateEvent event matching => world.spawn (.reading event matching)
  | .claimMyTaskReward taskId => world.spawn (.claimingTask taskId)
  | .claimMyMissionReward missionId => world.spawn (.claimingMission missionId)
  | .selfClaimReward taskId => world.spawn (.selfReading taskId)
  | .goOn position choice =>
      match world.calls[position]? with
      | none => world
      | some call => world.goOn catalogue position choice call
  | .turn clock => { world with clock := clock }

end Steps

/-- The user has done nothing yet. -/
structure Unused (world : World) : Prop where
  rows : world.progress = [] ∧ world.missions = [] ∧ world.rewards = []
  calls : world.calls = []
  history : world.counted = [] ∧ world.published = [] ∧ world.refusals = []
  ever : world.reached = [] ∧ world.missionsReached = []

end World

end Soulzaa.Tasks
