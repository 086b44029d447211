/-
How often the rewards of tasks and missions are dispatched.

A completed period is worth one reward.  It is dispatched by the call that has completed it, or by
one of the three ways to claim it.
-/

import Mathlib.Algebra.Order.Group.Int
import Soulzaa.Tasks.Counting

namespace Soulzaa.Tasks

open Interleaving KeyedRows Runs

variable {catalogue : Catalogue}

/-- The rewards of a task that were dispatched. -/
def dispatched (taskId : TaskId) (rewards : List TaskReward) : Nat :=
  rewards.countP fun reward => reward.taskId = some taskId

/-- The rewards of a mission that were dispatched. -/
def missionDispatched (missionId : MissionId) (rewards : List TaskReward) : Nat :=
  rewards.countP fun reward => reward.missionId = some missionId

/-- The periods in which the task was completed. -/
def periods (taskId : TaskId) (reached : List Key) : Nat :=
  reached.countP fun key => key.1 = taskId

/-- The rewards of the task that the call is about to claim by itself. -/
def Call.owes (catalogue : Catalogue) (taskId : TaskId) : Call → Int
  | .counting event current _ _ | .recording event current _ _ _ =>
      if current = taskId ∧ event.autoClaim ∧ (catalogue.tasks current).rewarded then 1 else 0
  | .rewarding _ current _ => if current = taskId then 1 else 0
  | _ => 0

namespace World

structure Earned (world : World) : Prop where
  tasks : ∀ taskId, dispatched taskId world.rewards ≤ periods taskId world.reached
  missions : ∀ missionId, missionDispatched missionId world.rewards ≤ 1 ∧
    (0 < missionDispatched missionId world.rewards → missionId ∈ world.missionsReached)
  /-- Only what is not completed in this period, or is paid for it, cannot be claimed. -/
  claimable : ∀ refusal ∈ world.refusals, refusal.completed = true → refusal.paid = true

def CompletedNow (catalogue : Catalogue) (world : World) (taskId : TaskId) : Prop :=
  (world.current catalogue taskId).any (·.isCompleted) = true

/-- A completed period is left that is neither paid nor about to be. -/
def Unpaid (catalogue : Catalogue) (world : World) (taskId : TaskId) : Prop :=
  dispatched taskId world.rewards + underWay (Call.owes catalogue taskId) world.calls <
    periods taskId world.reached

def PermitsReward (catalogue : Catalogue) (world : World) (choice : Nat) : Call → Prop
  -- No other call has completed the task in the period.
  | .writing _ next periodKey existing _ =>
      JustCompleted (catalogue.tasks next.taskId) next existing →
        (next.taskId, periodKey) ∉ world.reached
  | .claimingTask taskId | .selfClaiming taskId => world.Unpaid catalogue taskId
  | .claimingMission missionId =>
      (∃ mission ∈ world.missions, mission.missionId = missionId ∧ mission.isCompleted = true) ∧
        ∀ reward ∈ world.rewards, reward.missionId ≠ some missionId
  -- A completed period finds a completed row, and no reward of a period before.
  | .selfReading taskId =>
      let rows := world.progress.filter fun row => row.taskId = taskId
      world.CompletedNow catalogue taskId →
        ∃ row ∈ rows[choice % rows.length]?, row.isCompleted = true
  | .selfChecking taskId =>
      world.CompletedNow catalogue taskId → ∀ reward ∈ world.rewards,
        reward.taskId = some taskId → world.ClaimedNow catalogue taskId reward
  | _ => True

def PermitsClaim (catalogue : Catalogue) (world : World) : Happening → Prop
  | .goOn position choice =>
      ∀ call ∈ world.calls[position]?, world.PermitsReward catalogue choice call
  | _ => True

instance (world : World) (taskId : TaskId) : Decidable (world.CompletedNow catalogue taskId) :=
  inferInstanceAs (Decidable (_ = true))

instance (world : World) (taskId : TaskId) : Decidable (world.Unpaid catalogue taskId) :=
  inferInstanceAs (Decidable ((_ : Int) < _))

instance (world : World) (choice : Nat) (call : Call) :
    Decidable (world.PermitsReward catalogue choice call) :=
  match call with
  | .writing _ _ _ _ _ => inferInstanceAs (Decidable (JustCompleted _ _ _ → _ ∉ _))
  | .claimingTask _ | .selfClaiming _ => inferInstanceAs (Decidable (world.Unpaid _ _))
  | .claimingMission _ => inferInstanceAs (Decidable ((∃ mission ∈ _, _) ∧ ∀ reward ∈ _, _))
  | .selfReading _ =>
      inferInstanceAs (Decidable (world.CompletedNow _ _ → ∃ row ∈ (_ : Option TaskProgress), _))
  | .selfChecking _ =>
      inferInstanceAs (Decidable (world.CompletedNow _ _ → ∀ reward ∈ _, _))
  | .reading _ _ | .counting _ _ _ _ | .recording _ _ _ _ _ | .rewarding _ _ _ | .finished =>
      inferInstanceAs (Decidable True)

instance (world : World) (happening : Happening) :
    Decidable (world.PermitsClaim catalogue happening) :=
  match happening with
  | .goOn _ _ => inferInstanceAs (Decidable (∀ call ∈ (_ : Option Call), _))
  | .evaluateEvent _ _ | .claimMyTaskReward _ | .claimMyMissionReward _ | .selfClaimReward _
  | .turn _ => inferInstanceAs (Decidable True)

end World

/-! ### What is kept -/

theorem dispatched_concat (taskId : TaskId) (rewards : List TaskReward) (reward : TaskReward) :
    dispatched taskId (rewards ++ [reward]) =
      dispatched taskId rewards + if reward.taskId = some taskId then 1 else 0 := by
  unfold dispatched
  rw [List.countP_append, List.countP_singleton]
  simp only [decide_eq_true_eq]

theorem missionDispatched_concat (missionId : MissionId) (rewards : List TaskReward)
    (reward : TaskReward) :
    missionDispatched missionId (rewards ++ [reward]) =
      missionDispatched missionId rewards + if reward.missionId = some missionId then 1 else 0 := by
  unfold missionDispatched
  rw [List.countP_append, List.countP_singleton]
  simp only [decide_eq_true_eq]

theorem owes_nonneg (taskId : TaskId) (call : Call) : 0 ≤ call.owes catalogue taskId := by
  have either : ∀ owed : Prop, [Decidable owed] → (0 : Int) ≤ if owed then 1 else 0 := by
    intro owed _
    split
    · exact Int.one_nonneg
    · exact Int.le_refl 0
  cases call with
  | counting event current missionId rest => exact either _
  | recording event current missionId count rest => exact either _
  | rewarding event current rest => exact either _
  | _ => exact Int.le_refl 0

theorem owes_rewardNext (event : Event) (current taskId : TaskId) (rest : List Match) :
    (World.rewardNext catalogue event current rest).owes catalogue taskId =
      if current = taskId ∧ event.autoClaim ∧ (catalogue.tasks current).rewarded then 1 else 0 := by
  rw [World.rewardNext]
  by_cases pays : event.autoClaim ∧ (catalogue.tasks current).rewarded
  · rw [if_pos pays]
    exact if_congr (and_iff_left pays).symm rfl rfl
  · rw [if_neg pays]
    exact (if_neg fun owed => pays owed.2).symm

/-- A completion owes its task one reward at most, and no other task. -/
theorem owes_completedNext (event : Event) (current taskId : TaskId) (rest : List Match) :
    (World.completedNext catalogue event current rest).owes catalogue taskId ≤
      if current = taskId then 1 else 0 := by
  have owed : (World.completedNext catalogue event current rest).owes catalogue taskId =
      if current = taskId ∧ event.autoClaim ∧ (catalogue.tasks current).rewarded then 1 else 0 := by
    rw [World.completedNext]
    split
    · rfl
    · exact owes_rewardNext event current taskId rest
  rw [owed]
  by_cases same : current = taskId
  · rw [if_pos same]
    split
    · exact Int.le_refl 1
    · exact Int.one_nonneg
  · rw [if_neg same, if_neg fun pays => same pays.1]

namespace World

variable {world : World} {position choice : Nat} {call next : Call}

structure Earning (catalogue : Catalogue) (world : World) : Prop where
  completed : ∀ row ∈ world.progress, row.isCompleted = true →
    (catalogue.tasks row.taskId).requiredProgress ≤ row.currentProgress
  recorded : ∀ row ∈ world.missions, row.isCompleted = true →
    row.missionId ∈ world.missionsReached
  paid : ∀ taskId,
    dispatched taskId world.rewards + underWay (Call.owes catalogue taskId) world.calls ≤
      periods taskId world.reached
  single : ∀ missionId, missionDispatched missionId world.rewards ≤ 1 ∧
    (0 < missionDispatched missionId world.rewards → missionId ∈ world.missionsReached)
  claimable : ∀ refusal ∈ world.refusals, refusal.completed = true → refusal.paid = true

namespace Earning

/-- Nothing changes but one call, which owes no more than before. -/
theorem puts (earning : world.Earning catalogue) (found : world.calls[position]? = some call)
    (fewer : ∀ taskId, next.owes catalogue taskId ≤ call.owes catalogue taskId) :
    (world.put position next).Earning catalogue := by
  refine { earning with paid := ?_ }
  intro taskId
  have moved := underWay_set (Call.owes catalogue taskId) found next
  have before := earning.paid taskId
  have fewerHere := fewer taskId
  dsimp only [put]
  omega

theorem spawns (earning : world.Earning catalogue)
    (none : ∀ taskId, next.owes catalogue taskId = 0) : (world.spawn next).Earning catalogue := by
  refine { earning with paid := ?_ }
  intro taskId
  dsimp only [spawn]
  rw [underWay_spawn, none taskId, add_zero]
  exact earning.paid taskId

/-- A reward of a task is dispatched, for which there is room. -/
theorem dispatches (earning : world.Earning catalogue) {taskId : TaskId}
    (found : world.calls[position]? = some call)
    (room : ∀ other, (dispatched other world.rewards : Int) +
        underWay (Call.owes catalogue other) world.calls + next.owes catalogue other +
          (if other = taskId then 1 else 0) ≤
      periods other world.reached + call.owes catalogue other) :
    ((world.put position next).dispatchReward (some taskId) none).Earning catalogue := by
  refine { earning with paid := ?_, single := ?_ }
  · intro other
    have moved := underWay_set (Call.owes catalogue other) found next
    have isRoom := room other
    dsimp only [put, dispatchReward]
    rw [dispatched_concat]
    by_cases same : other = taskId
    · rw [if_pos same] at isRoom
      rw [if_pos (congrArg some same.symm)]
      push_cast
      omega
    · rw [if_neg same] at isRoom
      rw [if_neg fun isOther => same (Option.some.inj isOther).symm]
      push_cast
      omega
  · intro missionId
    dsimp only [put, dispatchReward]
    rw [missionDispatched_concat, if_neg (Option.some_ne_none missionId).symm]
    exact earning.single missionId

/-- A reward is claimed while a completed period is left. -/
theorem claims (earning : world.Earning catalogue) {taskId : TaskId}
    (found : world.calls[position]? = some call) (idle : ∀ other, call.owes catalogue other = 0)
    (unpaid : world.Unpaid catalogue taskId) :
    ((world.put position .finished).dispatchReward (some taskId) none).Earning catalogue := by
  refine earning.dispatches found fun other => ?_
  have isOver : Call.finished.owes catalogue other = 0 := rfl
  have before := earning.paid other
  rw [isOver, idle other]
  by_cases same : other = taskId
  · rw [same, if_pos rfl]
    unfold Unpaid at unpaid
    omega
  · rw [if_neg same]
    omega

theorem counts (earning : world.Earning catalogue) (counted : List Counted) :
    { world with counted := counted }.Earning catalogue :=
  { earning with }

/-- The reward of a mission is dispatched, which was completed and has none. -/
theorem dispatchesMission (earning : world.Earning catalogue) {missionId : MissionId}
    (found : world.calls[position]? = some (.claimingMission missionId))
    (reached : missionId ∈ world.missionsReached)
    (first : ∀ reward ∈ world.rewards, reward.missionId ≠ some missionId) :
    ((world.put position .finished).dispatchReward none (some missionId)).Earning catalogue := by
  have put : (world.put position .finished).Earning catalogue :=
    earning.puts found fun _ => Int.le_refl 0
  refine { put with paid := ?_, single := ?_ }
  · intro taskId
    dsimp only [dispatchReward]
    rw [dispatched_concat, if_neg (Option.some_ne_none taskId).symm]
    exact put.paid taskId
  · intro other
    dsimp only [dispatchReward, World.put]
    rw [missionDispatched_concat]
    by_cases same : missionId = other
    · have none : missionDispatched other world.rewards = 0 := by
        refine List.countP_eq_zero.mpr fun reward member isMission => ?_
        exact first reward member ((of_decide_eq_true isMission).trans (congrArg some same.symm))
      rw [none, if_pos (congrArg some same)]
      exact ⟨Nat.le_refl 1, fun _ => same ▸ reached⟩
    · rw [if_neg fun isOther => same (Option.some.inj isOther)]
      exact earning.single other

/-- A claim is refused that could not be made. -/
theorem refuses (earning : world.Earning catalogue) {taskId : TaskId}
    (found : world.calls[position]? = some call) (idle : ∀ other, call.owes catalogue other = 0)
    (rightly : world.CompletedNow catalogue taskId →
      ∃ reward ∈ world.rewards, world.ClaimedNow catalogue taskId reward) :
    (world.refuse catalogue position taskId).Earning catalogue := by
  have put : (world.put position .finished).Earning catalogue :=
    earning.puts found fun other => Int.le_of_eq (idle other).symm
  refine { put with claimable := ?_ }
  refine List.forall_mem_cons.mpr ⟨?_, earning.claimable⟩
  exact fun completed => decide_eq_true (rightly completed)

/-- Progress is written, and a completion is the first of its period. -/
theorem writes (earning : world.Earning catalogue) {event : Event} {current : Match}
    {periodKey : PeriodKey} {existing : Option TaskProgress} {rest : List Match}
    (found : world.calls[position]? = some (.writing event current periodKey existing rest))
    (first : JustCompleted (catalogue.tasks current.taskId) current existing →
      (current.taskId, periodKey) ∉ world.reached) :
    (world.write catalogue position event current periodKey existing rest).Earning catalogue := by
  refine { earning with completed := ?_, paid := ?_ }
  · intro row member isCompleted
    rcases mem_upsert member with rfl | older
    · exact of_decide_eq_true isCompleted
    · exact earning.completed row older isCompleted
  · intro taskId
    have before := earning.paid taskId
    dsimp only [write, put]
    by_cases just : JustCompleted (catalogue.tasks current.taskId) current existing
    · have moved := underWay_set (Call.owes catalogue taskId) found
        (completedNext catalogue event current.taskId rest)
      have owes : (completedNext catalogue event current.taskId rest).owes catalogue taskId ≤ _ :=
        owes_completedNext event current.taskId taskId rest
      have isCompleted : (progressRow (catalogue.tasks current.taskId) current periodKey
          existing).isCompleted = true := decide_eq_true just.2
      have isNew : periods taskId ((current.taskId, periodKey) :: world.reached) =
          periods taskId world.reached + if current.taskId = taskId then 1 else 0 := by
        unfold periods
        rw [List.countP_cons]
        simp only [decide_eq_true_eq]
      have idle : (Call.writing event current periodKey existing rest).owes catalogue taskId = 0 :=
        rfl
      rw [if_pos just, if_pos ⟨isCompleted, first just⟩]
      show _ ≤ (periods taskId ((current.taskId, periodKey) :: world.reached) : Int)
      rw [isNew]
      push_cast
      omega
    · have moved := underWay_set (Call.owes catalogue taskId) found (.reading event rest)
      have idle : (Call.writing event current periodKey existing rest).owes catalogue taskId = 0 :=
        rfl
      have alsoIdle : (Call.reading event rest).owes catalogue taskId = 0 := rfl
      rw [if_neg just]
      have noFewer : periods taskId world.reached ≤
          periods taskId
            (if (progressRow (catalogue.tasks current.taskId) current periodKey
                  existing).isCompleted ∧
                (progressRow (catalogue.tasks current.taskId) current periodKey existing).key ∉
                  world.reached then
              (progressRow (catalogue.tasks current.taskId) current periodKey existing).key ::
                world.reached
            else world.reached) := by
        split
        · exact (List.sublist_cons_self _ _).countP_le
        · exact Nat.le_refl _
      omega

/-- A mission's progress is written. -/
theorem records (earning : world.Earning catalogue) {event : Event} {taskId : TaskId}
    {missionId : MissionId} {count : Nat} {rest : List Match}
    (found : world.calls[position]? = some (.recording event taskId missionId count rest)) :
    (world.record catalogue position event taskId missionId count rest).Earning catalogue := by
  have put : (world.put position (rewardNext catalogue event taskId rest)).Earning catalogue :=
    earning.puts found fun other => Int.le_of_eq (owes_rewardNext event taskId other rest)
  have wider : ∀ other ∈ world.missionsReached, other ∈
      (if decide ((catalogue.missions missionId).requiredTaskCount ≤ count) = true then
        missionId :: world.missionsReached
      else world.missionsReached) := by
    intro other member
    split
    · exact List.mem_cons_of_mem _ member
    · exact member
  refine { put with recorded := ?_, single := ?_ }
  · intro row member isCompleted
    rcases mem_upsert member with rfl | older
    · dsimp only [record] at isCompleted ⊢
      rw [if_pos isCompleted]
      exact List.mem_cons_self
    · exact wider _ (earning.recorded row older isCompleted)
  · intro other
    obtain ⟨once, reached⟩ := earning.single other
    exact ⟨once, fun isDispatched => wider other (reached isDispatched)⟩

end Earning

/-! ### Steps -/

theorem earning_goOn (earning : world.Earning catalogue)
    (found : world.calls[position]? = some call)
    (permits : world.PermitsReward catalogue choice call) :
    (world.goOn catalogue position choice call).Earning catalogue := by
  cases call with
  | reading event matching =>
      cases matching with
      | nil => exact earning.puts found fun _ => Int.le_refl 0
      | cons next rest =>
          refine Earning.counts (earning.puts found fun taskId => ?_) _
          split
          · exact Int.le_refl 0
          · exact Int.le_refl 0
  | writing event next periodKey existing rest => exact earning.writes found permits
  | counting event taskId missionId rest =>
      dsimp only [goOn]
      split
      · exact earning.puts found fun other =>
          Int.le_of_eq (owes_rewardNext event taskId other rest)
      · exact earning.puts found fun _ => Int.le_refl _
  | recording event taskId missionId count rest => exact earning.records found
  | rewarding event taskId rest =>
      refine earning.dispatches found fun other => ?_
      have before := earning.paid other
      have isOver : (Call.reading event rest).owes catalogue other = 0 := rfl
      have owed : (Call.rewarding event taskId rest).owes catalogue other =
          if taskId = other then 1 else 0 := rfl
      rw [isOver, owed, if_congr (eq_comm) rfl rfl]
      omega
  | claimingTask taskId => exact earning.claims found (fun _ => rfl) permits
  | claimingMission missionId =>
      obtain ⟨⟨mission, member, rfl, isCompleted⟩, first⟩ := permits
      exact earning.dispatchesMission found (earning.recorded mission member isCompleted) first
  | selfReading taskId =>
      dsimp only [goOn]
      split
      · split
        · rename_i below
          refine earning.refuses found (fun _ => rfl) fun completed => ?_
          obtain ⟨row, isRow, isCompleted⟩ := permits completed
          obtain ⟨member, isTask⟩ := List.mem_filter.mp (List.mem_of_getElem? isRow)
          have full := earning.completed row member isCompleted
          rw [of_decide_eq_true isTask] at full
          rw [Option.mem_def.mp isRow] at below
          exact absurd below (Nat.not_lt_of_le full)
        · exact earning.puts found fun _ => Int.le_refl 0
      · exact earning.puts found fun _ => Int.le_refl 0
  | selfChecking taskId =>
      rw [goOn]
      split
      · rename_i there
        obtain ⟨reward, member, isTask⟩ := there
        exact earning.refuses found (fun _ => rfl) fun completed =>
          ⟨reward, member, permits completed reward member isTask⟩
      · exact earning.puts found fun _ => Int.le_refl 0
  | selfClaiming taskId => exact earning.claims found (fun _ => rfl) permits
  | finished => exact earning

theorem earning_step (earning : world.Earning catalogue) {happening : Happening}
    (permits : world.PermitsClaim catalogue happening) :
    (world.step catalogue happening).Earning catalogue := by
  cases happening with
  | evaluateEvent event matching => exact earning.spawns fun _ => rfl
  | claimMyTaskReward taskId => exact earning.spawns fun _ => rfl
  | claimMyMissionReward missionId => exact earning.spawns fun _ => rfl
  | selfClaimReward taskId => exact earning.spawns fun _ => rfl
  | goOn position choice =>
      rw [step]
      split
      · exact earning
      · rename_i call found
        exact earning_goOn earning found (permits call found)
  | turn clock => exact { earning with }

theorem earning_of_unused (unused : world.Unused) : world.Earning catalogue := by
  obtain ⟨⟨noProgress, noMissions, noRewards⟩, noCalls, ⟨-, -, noRefusals⟩, noPeriods, -⟩ := unused
  constructor
  · rw [noProgress]
    exact List.forall_mem_nil _
  · rw [noMissions]
    exact List.forall_mem_nil _
  · intro taskId
    rw [noRewards, noCalls, noPeriods]
    exact Int.le_refl 0
  · intro missionId
    rw [noRewards]
    exact ⟨Nat.zero_le 1, fun isDispatched => absurd isDispatched (Nat.lt_irrefl 0)⟩
  · rw [noRefusals]
    exact List.forall_mem_nil _

theorem earned_of_earning (earning : world.Earning catalogue) : world.Earned where
  tasks := by
    intro taskId
    have paid := earning.paid taskId
    have owed : 0 ≤ underWay (Call.owes catalogue taskId) world.calls :=
      underWay_nonneg (owes_nonneg taskId) world.calls
    omega
  missions := earning.single
  claimable := earning.claimable

end World

theorem tenTimes : 0 < 10 := by decide

/-- Every task is the mission's one task. -/
def daily : Catalogue where
  tasks := fun _ =>
    { requiredProgress := 10
      missionId := some 0
      required_pos := tenTimes }
  missions := fun _ => { tasks := [0] }

def completing (autoClaim : Bool) : Happening :=
  .evaluateEvent { autoClaim := autoClaim } [{ taskId := 0, incrementBy := 10 }]

/-- A reward is claimed, the next day's is claimed by itself, and the mission's once. -/
def claimed : List Happening :=
  completing false :: goes 0 5 ++ .selfClaimReward 0 :: goes 1 3 ++ .claimMyMissionReward 0 ::
    goes 2 1 ++ .turn (noon 2) :: completing true :: goes 3 6 ++ .turn (noon 3) ::
    completing false :: goes 4 5 ++ .claimMyTaskReward 0 :: goes 5 1

/-- What is claimed was never completed. -/
def unearned : List Happening :=
  .claimMyTaskReward 0 :: goes 0 1 ++ .claimMyMissionReward 0 :: goes 1 1

/-- The reward of one day is claimed, and then the reward of the next. -/
def nextDay : List Happening :=
  completing false :: goes 0 5 ++ .selfClaimReward 0 :: goes 1 3 ++ .turn (noon 2) ::
    completing false :: goes 2 5 ++ .selfClaimReward 0 :: goes 3 2

/-- Two events complete the task side by side. -/
def twice : List Happening :=
  completing true :: completing true :: goes 0 1 ++ goes 1 6 ++ goes 0 5

end Soulzaa.Tasks
