/-
What is counted towards a task while several events are evaluated.

The progress that is written is what was read and the event's own.  No event is lost where nobody
else has written the row in between.
-/

import Mathlib.Algebra.Order.Group.Int
import Soulzaa.Lib.Interleaving
import Soulzaa.Lib.Runs
import Soulzaa.Tasks.Progress

namespace Soulzaa.Tasks

open Interleaving KeyedRows Runs

variable {catalogue : Catalogue} {progress : List TaskProgress} {counted : List Counted}
  {published : List Key} {calls : List Call}

def progressOf (progress : List TaskProgress) (key : Key) : Nat :=
  ((find TaskProgress.key key progress).map (·.currentProgress)).getD 0

/-- No login was counted. -/
def LoginFree (counted : List Counted) (key : Key) : Prop :=
  ∀ event ∈ counted, event.key = key → event.loggedIn = false

instance (counted : List Counted) (key : Key) : Decidable (LoginFree counted key) :=
  inferInstanceAs (Decidable (∀ event ∈ counted, _))

namespace World

/-- Once nothing is under way, the progress is what the events of the period come to, and
`task.completed` was published once if that is enough. -/
def Tallied (catalogue : Catalogue) (world : World) : Prop :=
  (∀ call ∈ world.calls, call = .finished) → ∀ key, LoginFree world.counted key →
    progressOf world.progress key =
        min (catalogue.tasks key.1).requiredProgress
          (total Counted.key Counted.incrementBy key world.counted) ∧
      world.published.count key =
        if (catalogue.tasks key.1).requiredProgress ≤
            total Counted.key Counted.incrementBy key world.counted then 1
        else 0

/-- The row is still what it was when it was read. -/
def Unchanged (world : World) : Call → Prop
  | .writing _ next periodKey existing _ =>
      find TaskProgress.key (next.taskId, periodKey) world.progress = existing
  | _ => True

def PermitsWrite (world : World) : Happening → Prop
  | .goOn position _ => ∀ call ∈ world.calls[position]?, world.Unchanged call
  | _ => True

instance (world : World) (call : Call) : Decidable (world.Unchanged call) :=
  match call with
  | .writing _ _ _ _ _ => inferInstanceAs (Decidable (_ = _))
  | .reading _ _ | .counting _ _ _ _ | .recording _ _ _ _ _ | .rewarding _ _ _ | .claimingTask _
  | .claimingMission _ | .selfReading _ | .selfChecking _ | .selfClaiming _ | .finished =>
      inferInstanceAs (Decidable True)

instance (world : World) (happening : Happening) : Decidable (world.PermitsWrite happening) :=
  match happening with
  | .goOn _ _ => inferInstanceAs (Decidable (∀ call ∈ (_ : Option Call), _))
  | .evaluateEvent _ _ | .claimMyTaskReward _ | .claimMyMissionReward _ | .selfClaimReward _
  | .turn _ => inferInstanceAs (Decidable True)

end World

/-! ### Calls side by side -/

/-- What the call will write. -/
def Call.adds (key : Key) : Call → Int
  | .writing _ next periodKey _ _ =>
      if (next.taskId, periodKey) = key then next.incrementBy else 0
  | _ => 0

theorem Call.adds_nonneg (key : Key) (call : Call) : 0 ≤ call.adds key := by
  cases call with
  | writing event next periodKey existing rest =>
      rw [Call.adds]
      split
      · exact Int.natCast_nonneg _
      · exact Int.le_refl 0
  | _ => exact Int.le_refl 0

/-- A row that is to be written was not completed. -/
def Call.Open : Call → Prop
  | .writing _ _ _ existing _ => ∀ row ∈ existing, row.isCompleted = false
  | _ => True

/-- The call has nothing to write. -/
def Call.Idle (call : Call) : Prop := call.Open ∧ ∀ key, call.adds key = 0

theorem idle_rewardNext (event : Event) (taskId : TaskId) (rest : List Match) :
    (World.rewardNext catalogue event taskId rest).Idle := by
  rw [World.rewardNext]
  split
  · exact ⟨trivial, fun _ => rfl⟩
  · exact ⟨trivial, fun _ => rfl⟩

theorem idle_completedNext (event : Event) (taskId : TaskId) (rest : List Match) :
    (World.completedNext catalogue event taskId rest).Idle := by
  rw [World.completedNext]
  split
  · exact ⟨trivial, fun _ => rfl⟩
  · exact idle_rewardNext event taskId rest

structure TaskProgress.Regular (row : TaskProgress) (requiredProgress : Nat) : Prop where
  most : row.currentProgress ≤ requiredProgress
  completed : row.isCompleted = true ↔ requiredProgress ≤ row.currentProgress

structure Tally (catalogue : Catalogue) (progress : List TaskProgress) (counted : List Counted)
    (published : List Key) (calls : List Call) : Prop where
  regular : ∀ key row, find TaskProgress.key key progress = some row →
    row.Regular (catalogue.tasks key.1).requiredProgress
  opened : ∀ call ∈ calls, call.Open
  level : ∀ key, LoginFree counted key →
    min ((catalogue.tasks key.1).requiredProgress : Int)
        (progressOf progress key + underWay (Call.adds key) calls) =
      min ((catalogue.tasks key.1).requiredProgress : Int)
        (total Counted.key Counted.incrementBy key counted : Nat)
  once : ∀ key, published.count key =
    if (catalogue.tasks key.1).requiredProgress ≤ progressOf progress key then 1 else 0

namespace Tally

variable {position : Nat} {call next : Call}

/-- Nothing changes but one call, which neither had anything to write nor has. -/
theorem puts (tally : Tally catalogue progress counted published calls)
    (found : calls[position]? = some call) (wasIdle : ∀ key, call.adds key = 0)
    (idle : next.Idle) : Tally catalogue progress counted published (calls.set position next) := by
  refine { tally with opened := ?_, level := ?_ }
  · intro other member
    rcases List.mem_or_eq_of_mem_set member with older | rfl
    · exact tally.opened other older
    · exact idle.1
  · intro key free
    have moved := underWay_set (Call.adds key) found next
    rw [wasIdle key, idle.2 key, add_zero, add_zero] at moved
    rw [moved]
    exact tally.level key free

theorem spawns (tally : Tally catalogue progress counted published calls) (idle : next.Idle) :
    Tally catalogue progress counted published (calls ++ [next]) := by
  refine { tally with opened := ?_, level := ?_ }
  · intro other member
    rcases List.mem_append.mp member with older | isNew
    · exact tally.opened other older
    · rw [List.mem_singleton.mp isNew]
      exact idle.1
  · intro key free
    rw [underWay_spawn, idle.2 key, add_zero]
    exact tally.level key free

/-- An event is counted, for which there is nothing to write or something will be written. -/
theorem counts (tally : Tally catalogue progress counted published calls)
    (found : calls[position]? = some call) (isOpen : next.Open) {event : Counted}
    (fresh : ∀ key, call.adds key = 0)
    (enough : event.loggedIn = false →
      (catalogue.tasks event.key.1).requiredProgress ≤ progressOf progress event.key ∨
        next.adds event.key = event.incrementBy)
    (others : ∀ key, event.key ≠ key → next.adds key = 0) :
    Tally catalogue progress (event :: counted) published (calls.set position next) := by
  refine { tally with opened := ?_, level := ?_ }
  · intro other member
    rcases List.mem_or_eq_of_mem_set member with older | rfl
    · exact tally.opened other older
    · exact isOpen
  · intro key free
    have before := tally.level key fun other member => free other (List.mem_cons_of_mem _ member)
    have moved := underWay_set (Call.adds key) found next
    rw [fresh key, add_zero] at moved
    rw [moved, total_cons]
    by_cases same : event.key = key
    · rw [if_pos same]
      have isEnough := enough (free event List.mem_cons_self same)
      rw [same] at isEnough
      have more := Call.adds_nonneg key next
      have waiting := underWay_nonneg (Call.adds_nonneg key) calls
      push_cast
      rcases isEnough with full | adds
      · omega
      · omega
    · rw [if_neg same, others key same, zero_add, add_zero]
      exact before

/-- The row is written that the call has read. -/
theorem writes (tally : Tally catalogue progress counted published calls) {event : Event}
    {current : Match} {periodKey : PeriodKey} {existing : Option TaskProgress} {rest : List Match}
    (found : calls[position]? = some (.writing event current periodKey existing rest))
    (unchanged : find TaskProgress.key (current.taskId, periodKey) progress = existing)
    (idle : next.Idle) :
    Tally catalogue
      (upsert TaskProgress.key
        (progressRow (catalogue.tasks current.taskId) current periodKey existing) progress)
      counted
      (if JustCompleted (catalogue.tasks current.taskId) current existing then
        (current.taskId, periodKey) :: published
      else published)
      (calls.set position next) := by
  have isOpened := tally.opened _ (List.mem_of_getElem? found)
  generalize isRow : progressRow (catalogue.tasks current.taskId) current periodKey existing = row
  have isKey : row.key = (current.taskId, periodKey) := by
    rw [← isRow]
    rfl
  have before : progressOf progress (current.taskId, periodKey) <
      (catalogue.tasks current.taskId).requiredProgress := by
    unfold progressOf
    rw [unchanged]
    cases existing with
    | none => exact (catalogue.tasks current.taskId).required_pos
    | some was =>
        have regular := tally.regular _ _ unchanged
        exact Nat.lt_of_not_le fun full =>
          absurd (regular.completed.mpr full) (ne_true_of_eq_false (isOpened was rfl))
  have after : row.currentProgress = min (catalogue.tasks current.taskId).requiredProgress
      (progressOf progress (current.taskId, periodKey) + current.incrementBy) := by
    rw [← isRow]
    unfold progressOf
    rw [unchanged]
    rfl
  have just : JustCompleted (catalogue.tasks current.taskId) current existing ↔
      (catalogue.tasks current.taskId).requiredProgress ≤ row.currentProgress := by
    rw [after]
    unfold progressOf at before ⊢
    rw [unchanged] at before ⊢
    exact and_iff_right before
  have written : ∀ key, progressOf (upsert TaskProgress.key row progress) key =
      if key = (current.taskId, periodKey) then row.currentProgress else progressOf progress key := by
    intro key
    unfold progressOf
    rw [find_upsert, isKey]
    split
    · rfl
    · rfl
  constructor
  · intro key other isOther
    rw [find_upsert, isKey] at isOther
    split at isOther
    · rename_i same
      cases isOther
      rw [same]
      constructor
      · rw [after]
        exact Nat.min_le_left _ _
      · rw [← isRow]
        exact decide_eq_true_iff
    · exact tally.regular key other isOther
  · intro other member
    rcases List.mem_or_eq_of_mem_set member with older | rfl
    · exact tally.opened other older
    · exact idle.1
  · intro key free
    have level := tally.level key free
    have moved := underWay_set (Call.adds key) found next
    rw [idle.2 key, add_zero] at moved
    rw [written key]
    by_cases same : key = (current.taskId, periodKey)
    · rw [if_pos same]
      have adds : Call.adds key (.writing event current periodKey existing rest) =
          current.incrementBy := if_pos same.symm
      rw [adds] at moved
      have waiting := underWay_nonneg (Call.adds_nonneg key) (calls.set position next)
      subst same
      dsimp only at level ⊢
      by_cases full : (catalogue.tasks current.taskId).requiredProgress ≤
          progressOf progress (current.taskId, periodKey) + current.incrementBy
      · rw [Nat.min_eq_left full] at after
        omega
      · rw [Nat.min_eq_right (Nat.le_of_not_le full)] at after
        omega
    · have adds : Call.adds key (.writing event current periodKey existing rest) = 0 :=
        if_neg fun isSame => same isSame.symm
      rw [adds, add_zero] at moved
      rw [if_neg same, moved]
      exact level
  · intro key
    have once := tally.once key
    rw [written key]
    by_cases same : key = (current.taskId, periodKey)
    · subst same
      rw [if_neg (Nat.not_le_of_lt before)] at once
      rw [if_pos rfl]
      by_cases full : (catalogue.tasks current.taskId).requiredProgress ≤ row.currentProgress
      · rw [if_pos full, if_pos (just.mpr full), List.count_cons_self, once]
      · rw [if_neg full, if_neg (mt just.mp full), once]
    · rw [if_neg same, ← once]
      split
      · exact List.count_cons_of_ne fun isSame => same isSame.symm
      · rfl

end Tally

/-! ### Steps -/

namespace World

variable {world : World} {position choice : Nat}

def Tallying (catalogue : Catalogue) (world : World) : Prop :=
  Tally catalogue world.progress world.counted world.published world.calls

theorem tallying_read (tallying : world.Tallying catalogue) {event : Event} {next : Match}
    {rest : List Match} (found : world.calls[position]? = some (.reading event (next :: rest))) :
    (world.read catalogue position event next rest).Tallying catalogue := by
  dsimp only [read]
  split
  · rename_i full
    refine tallying.counts found ?_ (fun _ => rfl) ?_ fun _ _ => rfl
    · exact trivial
    · intro plain
      dsimp only at plain
      rcases full with completed | ⟨loggedIn, _⟩
      · obtain ⟨row, isRow, isCompleted⟩ := (Option.any_eq_true _ _).mp completed
        have isFull := (tallying.regular _ row isRow).completed.mp isCompleted
        refine Or.inl ?_
        unfold progressOf
        rw [current] at isRow
        rw [isRow]
        exact isFull
      · rw [plain] at loggedIn
        cases loggedIn
  · rename_i notFull
    refine tallying.counts found ?_ (fun _ => rfl) (fun _ => Or.inr (if_pos rfl))
      fun key different => if_neg different
    intro row isRow
    refine eq_false_of_ne_true fun isCompleted => notFull (Or.inl ?_)
    exact (Option.any_eq_true _ _).mpr ⟨row, isRow, isCompleted⟩

theorem tallying_goOn (tallying : world.Tallying catalogue) {call : Call}
    (found : world.calls[position]? = some call)
    (permits : world.Unchanged call) :
    (world.goOn catalogue position choice call).Tallying catalogue := by
  cases call with
  | reading event matching =>
      cases matching with
      | nil => exact tallying.puts found (fun _ => rfl) ⟨trivial, fun _ => rfl⟩
      | cons next rest => exact tallying_read tallying found
  | writing event next periodKey existing rest =>
      refine Tally.writes tallying found permits ?_
      split
      · exact idle_completedNext event next.taskId rest
      · exact ⟨trivial, fun _ => rfl⟩
  | counting event taskId missionId rest =>
      rw [goOn]
      split
      · exact tallying.puts found (fun _ => rfl) (idle_rewardNext event taskId rest)
      · exact tallying.puts found (fun _ => rfl) ⟨trivial, fun _ => rfl⟩
  | recording event taskId missionId count rest =>
      exact tallying.puts found (fun _ => rfl) (idle_rewardNext event taskId rest)
  | rewarding event taskId rest =>
      exact tallying.puts found (fun _ => rfl) ⟨trivial, fun _ => rfl⟩
  | claimingTask taskId => exact tallying.puts found (fun _ => rfl) ⟨trivial, fun _ => rfl⟩
  | claimingMission missionId => exact tallying.puts found (fun _ => rfl) ⟨trivial, fun _ => rfl⟩
  | selfReading taskId =>
      dsimp only [goOn]
      split
      · split
        · exact tallying.puts found (fun _ => rfl) ⟨trivial, fun _ => rfl⟩
        · exact tallying.puts found (fun _ => rfl) ⟨trivial, fun _ => rfl⟩
      · exact tallying.puts found (fun _ => rfl) ⟨trivial, fun _ => rfl⟩
  | selfChecking taskId =>
      rw [goOn]
      split
      · exact tallying.puts found (fun _ => rfl) ⟨trivial, fun _ => rfl⟩
      · exact tallying.puts found (fun _ => rfl) ⟨trivial, fun _ => rfl⟩
  | selfClaiming taskId => exact tallying.puts found (fun _ => rfl) ⟨trivial, fun _ => rfl⟩
  | finished => exact tallying

theorem tallying_step (tallying : world.Tallying catalogue) {happening : Happening}
    (permits : world.PermitsWrite happening) :
    (world.step catalogue happening).Tallying catalogue := by
  cases happening with
  | evaluateEvent event matching => exact tallying.spawns ⟨trivial, fun _ => rfl⟩
  | claimMyTaskReward taskId => exact tallying.spawns ⟨trivial, fun _ => rfl⟩
  | claimMyMissionReward missionId => exact tallying.spawns ⟨trivial, fun _ => rfl⟩
  | selfClaimReward taskId => exact tallying.spawns ⟨trivial, fun _ => rfl⟩
  | goOn position choice =>
      rw [step]
      split
      · exact tallying
      · rename_i call found
        exact tallying_goOn tallying found (permits call found)
  | turn clock => exact tallying

theorem tallying_of_unused (unused : world.Unused) : world.Tallying catalogue := by
  obtain ⟨⟨noProgress, -, -⟩, noCalls, ⟨noCounted, noPublished, -⟩, -⟩ := unused
  unfold Tallying
  rw [noProgress, noCalls, noCounted, noPublished]
  constructor
  · intro key row isRow
    cases isRow
  · exact List.forall_mem_nil _
  · intro key _
    rfl
  · intro key
    exact (if_neg (Nat.not_le_of_lt (catalogue.tasks key.1).required_pos)).symm

theorem tallied_of_tallying (tallying : world.Tallying catalogue) : world.Tallied catalogue := by
  intro quiet key free
  have level := tallying.level key free
  have most : progressOf world.progress key ≤ (catalogue.tasks key.1).requiredProgress := by
    unfold progressOf
    cases isFound : find TaskProgress.key key world.progress with
    | none => exact Nat.zero_le _
    | some row => exact (tallying.regular key row isFound).most
  have idle : underWay (Call.adds key) world.calls = 0 := by
    refine underWay_eq_zero fun call member => ?_
    rw [quiet call member]
    rfl
  rw [idle, add_zero] at level
  have same : progressOf world.progress key =
      min (catalogue.tasks key.1).requiredProgress
        (total Counted.key Counted.incrementBy key world.counted) := by
    omega
  refine ⟨same, ?_⟩
  rw [tallying.once key, same]
  refine if_congr ?_ rfl rfl
  exact ⟨fun full => full.trans (Nat.min_le_right _ _), fun full => Nat.le_min.mpr ⟨Nat.le_refl _, full⟩⟩

theorem tallied_always (catalogue : Catalogue) (world : World) (unused : world.Unused)
    (happenings : List Happening)
    (permitted : Each (World.step catalogue) World.PermitsWrite world happenings) :
    Always (World.step catalogue) (World.Tallied catalogue) world happenings := by
  have kept : ∀ (state : World) (happening : Happening), state.Tallying catalogue →
      state.PermitsWrite happening → (state.step catalogue happening).Tallying catalogue :=
    fun _ _ tallying permits => tallying_step tallying permits
  have always := always_of_each kept world (tallying_of_unused unused) happenings permitted
  exact always.imp fun _ => tallied_of_tallying

end World

/-- Every task asks for ten, each day. -/
def ten : Catalogue where
  tasks := fun _ =>
    { requiredProgress := 10
      required_pos := by decide }
  missions := fun _ => { tasks := [] }

def noon (day : Nat) : Clock := ⟨⟨2026, 5, day⟩, ⟨2026, 5, day⟩⟩

def fresh : World where
  clock := noon 1

def event (amount : Nat) : Happening :=
  .evaluateEvent { autoClaim := false } [{ taskId := 0, incrementBy := amount }]

def goes (position steps : Nat) : List Happening := List.replicate steps (.goOn position 0)

/-- Four and seven on one day, while a third event is late, and two on the next. -/
def twoDays : List Happening :=
  event 4 :: event 7 :: goes 0 3 ++ goes 1 3 ++ event 5 :: goes 2 2 ++ .turn (noon 2) :: event 2 ::
    goes 3 3

theorem tallied_twoDays :
    Always (World.step ten) (World.Tallied ten) fresh twoDays ∧
      (run (World.step ten) fresh twoDays).progress.map (·.currentProgress) = [10, 2] ∧
        (run (World.step ten) fresh twoDays).published = [(0, .day 2026 5 1)] :=
  ⟨World.tallied_always ten fresh ⟨⟨rfl, rfl, rfl⟩, rfl, ⟨rfl, rfl, rfl⟩, ⟨rfl, rfl⟩⟩ twoDays
    (by decide +kernel), by decide +kernel, by decide +kernel⟩

/-- Both events read the row before either writes it. -/
def sideBySide (first second : Nat) : List Happening :=
  event first :: event second :: goes 0 1 ++ goes 1 1 ++ goes 0 2 ++ goes 1 2

theorem not_tallied_sideBySide :
    ¬(run (World.step ten) fresh (sideBySide 3 4)).Tallied ten ∧
      ¬(run (World.step ten) fresh (sideBySide 10 10)).Tallied ten := by
  constructor
  · intro tallied
    have counted := (tallied (by decide +kernel) (0, .day 2026 5 1) (by decide +kernel)).1
    revert counted
    decide +kernel
  · intro tallied
    have published := (tallied (by decide +kernel) (0, .day 2026 5 1) (by decide +kernel)).2
    revert published
    decide +kernel

end Soulzaa.Tasks
