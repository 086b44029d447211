/-
One call, and every operation on it at work side by side.

The conditional updates let one terminal transition through.  Its duration is counted from what the
winning operation has read, and a call that was connected since that read is taken for one that
never was.
-/

import Soulzaa.Calls.Lifecycle
import Soulzaa.Lib.Interleaving
import Soulzaa.Lib.Runs

namespace Soulzaa.Calls

open Runs

/-! ### The world -/

/-- What a sweep looks for. -/
inductive Sweep where
  | expiredRinging (now : Int)
  | stuckAccepted (before : Int)
  | overlongConnected (before : Int)
  deriving DecidableEq, Repr

namespace Sweep

def operation : Sweep → Operation
  | .expiredRinging _ => .expireRinging
  | .stuckAccepted _ => .expireConnecting
  | .overlongConnected _ => .expireConnected

def Finds (row : Call) : Sweep → Prop
  | .expiredRinging now => row.status = .ringing ∧ row.ringingExpiresAt ≤ now
  | .stuckAccepted before => row.status = .accepted ∧ ∃ since ∈ row.acceptedAt, since ≤ before
  | .overlongConnected before => row.status = .connected ∧ ∃ since ∈ row.connectedAt, since ≤ before

instance (row : Call) (sweep : Sweep) : Decidable (sweep.Finds row) :=
  match sweep with
  | .expiredRinging _ => inferInstanceAs (Decidable (_ ∧ _))
  | .stuckAccepted _ | .overlongConnected _ =>
      inferInstanceAs (Decidable (_ ∧ ∃ since ∈ (_ : Option Int), _))

end Sweep

/-- What is left of a sweep. -/
inductive Pending where
  | look (sweep : Sweep)
  | due (operation : Operation)
  deriving DecidableEq, Repr

structure Execution where
  startedAt : Int
  point : Point
  pending : List Pending := []
  deriving DecidableEq, Repr

/-- A terminal transition that took effect, and the row as it left it. -/
structure Took where
  startedAt : Int
  decidedAt : Int
  tookAt : Int
  left : Call
  deriving DecidableEq, Repr

structure World where
  row : Call
  now : Int
  connectTimeoutMs : Int := 30000
  maxDurationMs : Int := 14400000
  executions : List Execution := []
  published : List CallEvent := []
  took : List Took := []
  deriving DecidableEq, Repr

inductive Happening where
  | call (operation : Operation)
  | reap
  /-- One operation goes on; a sweep takes no more calls than its batch. -/
  | goOn (position : Nat) (batched : Bool)
  | pass (elapsed : Nat)
  deriving DecidableEq, Repr

def Execution.next (row : Call) (now : Int) (batched : Bool) (execution : Execution) : Execution :=
  match execution.pending with
  | [] => execution
  | .look sweep :: rest =>
      if sweep.Finds row ∧ batched then { execution with pending := .due sweep.operation :: rest }
      else { execution with pending := rest }
  | .due operation :: rest => { startedAt := now, point := operation.begin row, pending := rest }

/-- What an update that goes through leaves behind of itself. -/
def Execution.took (row : Call) (now : Int) (execution : Execution) : Option Took :=
  match execution.point with
  | .updating _ _ decidedAt source change =>
      match row.transition source change with
      | none => none
      | some after =>
          if isTerminal after.status then
            some
              { startedAt := execution.startedAt
                decidedAt := decidedAt
                tookAt := now
                left := after }
          else none
  | _ => none

namespace World

def spawn (world : World) (execution : Execution) : World :=
  { world with executions := world.executions ++ [execution] }

def step (world : World) : Happening → World
  | .call operation =>
      world.spawn { startedAt := world.now, point := operation.begin world.row }
  | .reap =>
      world.spawn
        { startedAt := world.now
          point := .finished
          pending :=
            [.look (.expiredRinging world.now),
              .look (.stuckAccepted (world.now - world.connectTimeoutMs)),
              .look (.overlongConnected (world.now - world.maxDurationMs))] }
  | .goOn position batched =>
      match world.executions[position]? with
      | none => world
      | some execution =>
          if execution.point = .finished then
            { world with
              executions := world.executions.set position
                (execution.next world.row world.now batched) }
          else
            let turn := execution.point.goOn world.row world.now
            { world with
              row := turn.row
              executions := world.executions.set position { execution with point := turn.point }
              published := turn.published.toList ++ world.published
              took := (execution.took world.row world.now).toList ++ world.took }
  | .pass elapsed => { world with now := world.now + elapsed }

/-! ### What is promised -/

def outcomes (world : World) : List CallStatus := world.published.filterMap CallEvent.outcome

def Quiet (world : World) : Prop :=
  ∀ execution ∈ world.executions, execution.point = .finished

structure Decided (world : World) : Prop where
  once : world.took.length ≤ 1
  /-- The row stays as the transition has left it. -/
  stays : ∀ took ∈ world.took, world.row = took.left
  terminal : isTerminal world.row.status = true → world.took ≠ []
  tells : ∀ status ∈ world.outcomes, world.row.status = status
  announced : world.outcomes.length ≤ world.took.length ∧
    (world.Quiet → world.outcomes.length = world.took.length)
  within : ∀ took ∈ world.took, took.startedAt ≤ took.decidedAt ∧ took.decidedAt ≤ took.tookAt
  duration : ∀ took ∈ world.took,
    took.left.durationSeconds = durationOf took.left.connectedAt took.decidedAt

/-- The update does not end a call that was connected since the operation has read it, half a
second or more after that. -/
def Timely (row : Call) : Point → Prop
  | .updating operation read decidedAt source _ =>
      operation.outcome.isSome → row.status ∈ source → read.connectedAt = none →
        ∀ since ∈ row.connectedAt, decidedAt - since < 500
  | _ => True

instance (row : Call) (point : Point) : Decidable (Timely row point) :=
  match point with
  | .updating operation read decidedAt source _ =>
      inferInstanceAs (Decidable (operation.outcome.isSome → row.status ∈ source →
        read.connectedAt = none → ∀ since ∈ row.connectedAt, decidedAt - since < 500))
  | .reading _ | .deciding _ _ | .settling _ | .publishing _ | .finished =>
      inferInstanceAs (Decidable True)

def Permits (world : World) : Happening → Prop
  | .goOn position _ =>
      ∀ execution ∈ world.executions[position]?, Timely world.row execution.point
  | _ => True

instance (world : World) (happening : Happening) : Decidable (world.Permits happening) :=
  match happening with
  | .goOn _ _ => inferInstanceAs (Decidable (∀ execution ∈ (_ : Option Execution), Timely _ _))
  | .call _ | .reap | .pass _ => inferInstanceAs (Decidable True)

/-- A call as it is placed, and nobody at work on it. -/
structure Placed (world : World) : Prop where
  ringing : world.row.status = .ringing
  unconnected : world.row.connectedAt = none
  idle : world.executions = [] ∧ world.published = [] ∧ world.took = []

end World

/-! ### One update -/

section Updates

variable {row after read : Call} {operation : Operation} {source : List CallStatus}
  {change : Change} {now decidedAt startedAt : Int} {point : Point}

/-- What has been read of the call's connection is so still. -/
def Call.Precedes (read row : Call) : Prop :=
  ∀ since, read.connectedAt = some since → row.connectedAt = some since

def Call.Unconnected (row : Call) : Prop :=
  row.status = .ringing ∨ row.status = .accepted → row.connectedAt = none

/-- What an update that goes through does to the row. -/
structure Moved (operation : Operation) (read row after : Call) (decidedAt : Int) : Prop where
  live : isTerminal row.status = false
  keeps : row.Precedes after
  unconnected : after.Unconnected
  outcome : operation.outcome = if isTerminal after.status then some after.status else none
  connection : isTerminal after.status = true → after.connectedAt = row.connectedAt
  duration : isTerminal after.status = true →
    after.durationSeconds = durationOf read.connectedAt decidedAt ∨
      row.connectedAt = none ∧ after.durationSeconds = 0

theorem moved_of_transition (attempts : operation.Attempts read decidedAt source change)
    (unconnected : row.Unconnected) (isAfter : row.transition source change = some after) :
    Moved operation read row after decidedAt ∧ row.status ∈ source := by
  unfold Call.transition at isAfter
  split_ifs at isAfter with legal
  obtain rfl := Option.some.inj isAfter
  refine ⟨?_, legal⟩
  cases change with
  | accepted acceptedAt =>
      obtain ⟨isOutcome, rfl⟩ := attempts
      have isRinging := List.mem_singleton.mp legal
      exact ⟨by rw [isRinging]; rfl, fun _ => id, fun _ => unconnected (.inl isRinging), isOutcome,
        nofun, nofun⟩
  | connected connectedAt =>
      obtain ⟨isOutcome, rfl⟩ := attempts
      have isAccepted := List.mem_singleton.mp legal
      have none_yet := unconnected (.inr isAccepted)
      refine ⟨by rw [isAccepted]; rfl, ?_, ?_, isOutcome, nofun, nofun⟩
      · intro since isSince
        exact nomatch none_yet.symm.trans isSince
      · rintro (isStatus | isStatus)
        · cases isStatus
        · cases isStatus
  | terminated input endedAt =>
      obtain ⟨isOutcome, live, counted⟩ := attempts
      have terminal := isTerminal_of_outcome isOutcome
      refine ⟨live row.status legal, fun _ => id, ?_, ?_, fun _ => rfl, fun _ => ?_⟩
      · rintro (isStatus | isStatus)
        · rw [show input.status = .ringing from isStatus] at terminal
          cases terminal
        · rw [show input.status = .accepted from isStatus] at terminal
          cases terminal
      · rw [isOutcome]
        exact (if_pos terminal).symm
      · rcases counted with isDuration | ⟨notConnected, isZero⟩
        · exact .inl isDuration
        · refine .inr ⟨?_, isZero⟩
          have isLive := live row.status legal
          refine unconnected ?_
          cases status : row.status with
          | ringing => exact .inl rfl
          | accepted => exact .inr rfl
          | connected => exact absurd (status ▸ legal) notConnected
          | _ =>
              rw [status] at isLive
              cases isLive

def Point.Sound (row : Call) (startedAt now : Int) : Point → Prop
  | .deciding _ call => call.Precedes row
  | .updating operation read decidedAt source change =>
      read.Precedes row ∧ startedAt ≤ decidedAt ∧ decidedAt ≤ now ∧
        operation.Attempts read decidedAt source change
  | .settling operation => ∀ status ∈ operation.outcome, row.status = status
  | .publishing event => ∀ status ∈ event.outcome, row.status = status
  | .reading _ | .finished => True

def debt (outcome : Option CallStatus) : Int := if outcome.isSome then 1 else 0

/-- The terminal event that is still to be published. -/
def Point.owes : Point → Int
  | .settling operation => debt operation.outcome
  | .publishing event => debt event.outcome
  | _ => 0

theorem debt_nonneg (outcome : Option CallStatus) : 0 ≤ debt outcome := by
  unfold debt
  split
  · exact Int.one_nonneg
  · exact le_refl 0

theorem Point.owes_nonneg (point : Point) : 0 ≤ point.owes := by
  cases point with
  | settling operation => exact debt_nonneg operation.outcome
  | publishing event => exact debt_nonneg event.outcome
  | _ => exact le_refl 0

theorem Point.Sound.later {later : Int} (sound : point.Sound row startedAt now)
    (since : now ≤ later) : point.Sound row startedAt later := by
  cases point with
  | updating operation read decidedAt source change =>
      obtain ⟨precedes, after, before, attempts⟩ := sound
      exact ⟨precedes, after, before.trans since, attempts⟩
  | _ => exact sound

/-- What another operation has moved. -/
theorem Point.Sound.moved {other : Operation} {otherRead : Call}
    (sound : point.Sound row startedAt now) (moved : Moved other otherRead row after decidedAt) :
    point.Sound after startedAt now := by
  have live : ∀ status, isTerminal status = true → row.status ≠ status := by
    intro status terminal same
    rw [← same, moved.live] at terminal
    cases terminal
  cases point with
  | deciding operation call => exact fun since isSince => moved.keeps since (sound since isSince)
  | updating operation read decidedAt source change =>
      obtain ⟨precedes, owed⟩ := sound
      exact ⟨fun since isSince => moved.keeps since (precedes since isSince), owed⟩
  | settling operation =>
      intro status isOutcome
      exact absurd (sound status isOutcome) (live status (isTerminal_of_outcome isOutcome))
  | publishing event =>
      intro status isOutcome
      refine absurd (sound status isOutcome) (live status ?_)
      cases event with
      | accepted acceptedBy => cases isOutcome
      | connected => cases isOutcome
      | _ =>
          obtain rfl := Option.some.inj isOutcome
          rfl
  | reading operation => exact trivial
  | finished => exact trivial

theorem sound_begin (operation : Operation) :
    (operation.begin row).Sound row startedAt now ∧ (operation.begin row).owes = 0 := by
  unfold Operation.begin
  split
  · exact ⟨trivial, rfl⟩
  · exact ⟨fun _ => id, rfl⟩

end Updates

/-! ### Every operation -/

namespace World

def owes (execution : Execution) : Int := execution.point.owes

structure Orderly (world : World) : Prop where
  unconnected : world.row.Unconnected
  sound : ∀ execution ∈ world.executions, execution.startedAt ≤ world.now ∧
    execution.point.Sound world.row execution.startedAt world.now
  took : (world.took = [] ∧ isTerminal world.row.status = false) ∨
    ∃ took, world.took = [took] ∧ isTerminal world.row.status = true ∧ world.row = took.left ∧
      took.startedAt ≤ took.decidedAt ∧ took.decidedAt ≤ took.tookAt
  balance : (world.outcomes.length : Int) + Interleaving.underWay owes world.executions =
    world.took.length
  tells : ∀ status ∈ world.outcomes, world.row.status = status

variable {world : World}

theorem Orderly.decided (orderly : world.Orderly) (duration : ∀ took ∈ world.took,
    took.left.durationSeconds = durationOf took.left.connectedAt took.decidedAt) :
    world.Decided := by
  have nonneg : 0 ≤ Interleaving.underWay owes world.executions :=
    Interleaving.underWay_nonneg (fun execution => execution.point.owes_nonneg) world.executions
  have balance := orderly.balance
  have announced : world.outcomes.length ≤ world.took.length ∧
      (world.Quiet → world.outcomes.length = world.took.length) := by
    constructor
    · omega
    · intro quiet
      have nothing : Interleaving.underWay owes world.executions = 0 := by
        refine Interleaving.underWay_eq_zero fun execution member => ?_
        unfold owes
        rw [quiet execution member]
        rfl
      omega
  rcases orderly.took with ⟨none_took, live⟩ | ⟨took, isTook, terminal, isLeft, within⟩
  · refine ⟨?_, ?_, ?_, orderly.tells, announced, ?_, duration⟩
    · rw [none_took]
      exact Nat.zero_le 1
    · rw [none_took]
      exact List.forall_mem_nil _
    · intro isTerminal
      exact nomatch live.symm.trans isTerminal
    · rw [none_took]
      exact List.forall_mem_nil _
  · refine ⟨?_, ?_, ?_, orderly.tells, announced, ?_, duration⟩
    · rw [isTook]
      exact le_refl 1
    · rw [isTook]
      exact List.forall_mem_singleton.mpr isLeft
    · rw [isTook]
      exact fun _ => nofun
    · rw [isTook]
      exact List.forall_mem_singleton.mpr within

theorem Orderly.spawn (orderly : world.Orderly) {execution : Execution}
    (started : execution.startedAt ≤ world.now)
    (sound : execution.point.Sound world.row execution.startedAt world.now)
    (free : execution.point.owes = 0) : (world.spawn execution).Orderly where
  unconnected := orderly.unconnected
  sound := by
    intro other member
    rcases List.mem_append.mp member with older | isNew
    · exact orderly.sound other older
    · rw [List.mem_singleton.mp isNew]
      exact ⟨started, sound⟩
  took := orderly.took
  balance := by
    show _ + Interleaving.underWay owes (world.executions ++ [execution]) = _
    rw [Interleaving.underWay_spawn]
    show _ + (_ + execution.point.owes) = _
    rw [free, add_zero]
    exact orderly.balance
  tells := orderly.tells

/-- An operation goes on without touching the row. -/
theorem Orderly.goes (orderly : world.Orderly) {position : Nat} {execution next : Execution}
    (found : world.executions[position]? = some execution) (published : Option CallEvent)
    (started : next.startedAt ≤ world.now)
    (sound : next.point.Sound world.row next.startedAt world.now)
    (tells : ∀ event ∈ published, ∀ status ∈ event.outcome, world.row.status = status)
    (owes : ((published.toList.filterMap CallEvent.outcome).length : Int) + next.point.owes =
      execution.point.owes) :
    Orderly { world with
      executions := world.executions.set position next
      published := published.toList ++ world.published } where
  unconnected := orderly.unconnected
  sound := by
    intro other member
    rcases List.mem_or_eq_of_mem_set member with older | rfl
    · exact orderly.sound other older
    · exact ⟨started, sound⟩
  took := orderly.took
  balance := by
    have moved := Interleaving.underWay_set World.owes found next
    have balance := orderly.balance
    have outcomes : ((published.toList ++ world.published).filterMap CallEvent.outcome).length =
        (published.toList.filterMap CallEvent.outcome).length + world.outcomes.length := by
      rw [List.filterMap_append, List.length_append]
      rfl
    show (((published.toList ++ world.published).filterMap CallEvent.outcome).length : Int) + _ = _
    rw [outcomes]
    unfold World.owes at moved balance ⊢
    push_cast
    omega
  tells := by
    intro status member
    replace member : status ∈
      (published.toList ++ world.published).filterMap CallEvent.outcome := member
    rw [List.filterMap_append] at member
    rcases List.mem_append.mp member with isNew | older
    · obtain ⟨event, isEvent, isOutcome⟩ := List.mem_filterMap.mp isNew
      exact tells event (Option.mem_toList.mp isEvent) status isOutcome
    · exact orderly.tells status older

/-- Before the call is over nothing has been told of its outcome. -/
theorem Orderly.untold (orderly : world.Orderly) (live : isTerminal world.row.status = false) :
    world.took = [] ∧ world.outcomes = [] := by
  have nonneg : 0 ≤ Interleaving.underWay owes world.executions :=
    Interleaving.underWay_nonneg (fun execution => execution.point.owes_nonneg) world.executions
  have balance := orderly.balance
  rcases orderly.took with ⟨noneTook, -⟩ | ⟨took, -, terminal, -⟩
  · refine ⟨noneTook, List.eq_nil_of_length_eq_zero ?_⟩
    rw [noneTook, List.length_nil] at balance
    omega
  · exact nomatch live.symm.trans terminal

theorem took_updating {execution : Execution} {operation : Operation} {read after : Call}
    {decidedAt now : Int} {row : Call} {source : List CallStatus} {change : Change}
    (isPoint : execution.point = .updating operation read decidedAt source change)
    (isAfter : row.transition source change = some after) :
    execution.took row now =
      if isTerminal after.status then
        some
          { startedAt := execution.startedAt
            decidedAt := decidedAt
            tookAt := now
            left := after }
      else none := by
  unfold Execution.took
  rw [isPoint]
  dsimp only
  rw [isAfter]

/-- An update goes through. -/
theorem Orderly.moves (orderly : world.Orderly) {position : Nat} {execution : Execution}
    {operation : Operation} {read after : Call} {decidedAt : Int} {source : List CallStatus}
    {change : Change} (found : world.executions[position]? = some execution)
    (isPoint : execution.point = .updating operation read decidedAt source change)
    (isAfter : world.row.transition source change = some after) :
    Orderly { world with
      row := after
      executions := world.executions.set position { execution with point := .settling operation }
      took := (execution.took world.row world.now).toList ++ world.took } := by
  obtain ⟨started, sound⟩ := orderly.sound execution (List.mem_of_getElem? found)
  rw [isPoint] at sound
  obtain ⟨-, decided, before, attempts⟩ := sound
  obtain ⟨moved, -⟩ := moved_of_transition attempts orderly.unconnected isAfter
  obtain ⟨noneTook, noneTold⟩ := orderly.untold moved.live
  have under := Interleaving.underWay_set owes found { execution with point := .settling operation }
  have balance := orderly.balance
  rw [noneTook, noneTold] at balance
  have owed : owes execution = 0 := by
    unfold owes
    rw [isPoint]
    rfl
  have owing : owes { execution with point := .settling operation } = debt operation.outcome := rfl
  rw [owed, owing] at under
  refine ⟨moved.unconnected, ?_, ?_, ?_, ?_⟩
  · intro other member
    rcases List.mem_or_eq_of_mem_set member with older | rfl
    · exact ⟨(orderly.sound other older).1, (orderly.sound other older).2.moved moved⟩
    · refine ⟨started, ?_⟩
      intro status isOutcome
      have isAfterStatus := moved.outcome
      split at isAfterStatus
      · exact Option.some.inj (isAfterStatus.symm.trans isOutcome)
      · exact nomatch isAfterStatus.symm.trans isOutcome
  · rw [noneTook, took_updating isPoint isAfter]
    cases terminal : isTerminal after.status with
    | true => exact .inr ⟨_, rfl, rfl, rfl, decided, before⟩
    | false => exact .inl ⟨rfl, rfl⟩
  · have outcome := moved.outcome
    show (world.outcomes.length : Int) + Interleaving.underWay owes
      (world.executions.set position { execution with point := .settling operation }) = _
    rw [noneTold, noneTook, took_updating isPoint isAfter]
    cases terminal : isTerminal after.status with
    | true =>
        rw [terminal, if_pos rfl] at outcome
        rw [outcome] at under
        have one : debt (some after.status) = 1 := rfl
        rw [one] at under
        show (0 : Int) + _ = 1
        omega
    | false =>
        rw [terminal, if_neg nofun] at outcome
        rw [outcome] at under
        have zero : debt none = 0 := rfl
        rw [zero] at under
        show (0 : Int) + _ = 0
        omega
  · intro status member
    replace member : status ∈ world.outcomes := member
    rw [noneTold] at member
    cases member

theorem Orderly.rests (orderly : world.Orderly) {position : Nat} {execution : Execution}
    (found : world.executions[position]? = some execution) (batched : Bool)
    (finished : execution.point = .finished) :
    Orderly { world with
      executions := world.executions.set position
        (execution.next world.row world.now batched) } := by
  obtain ⟨started, -⟩ := orderly.sound execution (List.mem_of_getElem? found)
  have idle : ∀ pending, Execution.point { execution with pending := pending } = .finished :=
    fun _ => finished
  have sound : Point.Sound world.row execution.startedAt world.now execution.point := by
    rw [finished]
    exact trivial
  unfold Execution.next
  split
  · exact orderly.goes found none started sound nofun (zero_add _)
  · split
    · exact orderly.goes found none started sound nofun (zero_add _)
    · exact orderly.goes found none started sound nofun (zero_add _)
  · rename_i operation rest _
    obtain ⟨begins, free⟩ := @sound_begin world.row world.now world.now operation
    refine orderly.goes found none (le_refl _) begins nofun ?_
    rw [finished]
    exact (zero_add _).trans free

/-- An operation that is under way takes its next step. -/
theorem Orderly.advances (orderly : world.Orderly) {position : Nat} {execution : Execution}
    (found : world.executions[position]? = some execution) :
    Orderly { world with
      row := (execution.point.goOn world.row world.now).row
      executions := world.executions.set position
        { execution with point := (execution.point.goOn world.row world.now).point }
      published := (execution.point.goOn world.row world.now).published.toList ++ world.published
      took := (execution.took world.row world.now).toList ++ world.took } := by
  obtain ⟨started, sound⟩ := orderly.sound execution (List.mem_of_getElem? found)
  cases isPoint : execution.point with
  | reading operation =>
      have untaken : execution.took world.row world.now = none := by rw [Execution.took, isPoint]
      rw [untaken]
      refine orderly.goes found none started (fun _ => id) nofun ?_
      rw [isPoint]
      rfl
  | deciding operation call =>
      have untaken : execution.took world.row world.now = none := by rw [Execution.took, isPoint]
      rw [isPoint] at sound
      rw [untaken, Point.goOn]
      split
      · refine orderly.goes found none started trivial nofun ?_
        rw [isPoint]
        rfl
      · refine orderly.goes found none started trivial nofun ?_
        rw [isPoint]
        rfl
      · rename_i source change isUpdate
        refine orderly.goes found none started
          ⟨sound, started, le_refl _, attempts_of_decide isUpdate⟩ nofun ?_
        rw [isPoint]
        rfl
  | updating operation read decidedAt source change =>
      rw [Point.goOn]
      split
      · rename_i refused
        have untaken : execution.took world.row world.now = none := by
          rw [Execution.took, isPoint]
          dsimp only
          rw [refused]
        rw [untaken]
        refine orderly.goes found none started trivial nofun ?_
        rw [isPoint]
        rfl
      · rename_i after isAfter
        exact orderly.moves found isPoint isAfter
  | settling operation =>
      have untaken : execution.took world.row world.now = none := by rw [Execution.took, isPoint]
      rw [isPoint] at sound
      rw [untaken]
      refine orderly.goes found none started ?_ nofun ?_
      · intro status isOutcome
        exact sound status (outcome_event.symm.trans isOutcome)
      · rw [isPoint]
        show 0 + debt (operation.event world.row).outcome = debt operation.outcome
        rw [outcome_event, zero_add]
  | publishing event =>
      have untaken : execution.took world.row world.now = none := by rw [Execution.took, isPoint]
      rw [isPoint] at sound
      rw [untaken]
      refine orderly.goes found (some event) started trivial ?_ ?_
      · intro other isEvent
        rw [← Option.some.inj isEvent]
        exact sound
      · rw [isPoint]
        show (([event].filterMap CallEvent.outcome).length : Int) + 0 = debt event.outcome
        rw [List.filterMap_cons]
        cases event.outcome with
        | none => rfl
        | some status => rfl
  | finished =>
      have untaken : execution.took world.row world.now = none := by rw [Execution.took, isPoint]
      rw [untaken]
      refine orderly.goes found none started trivial nofun ?_
      rw [isPoint]
      rfl

theorem orderly_step (happening : Happening) (orderly : world.Orderly) :
    (world.step happening).Orderly := by
  cases happening with
  | call operation =>
      obtain ⟨begins, free⟩ := @sound_begin world.row world.now world.now operation
      exact orderly.spawn (le_refl _) begins free
  | reap => exact orderly.spawn (le_refl _) trivial rfl
  | pass elapsed =>
      have later : world.now ≤ world.now + elapsed := by omega
      refine ⟨orderly.unconnected, ?_, orderly.took, orderly.balance, orderly.tells⟩
      intro execution member
      obtain ⟨started, sound⟩ := orderly.sound execution member
      exact ⟨started.trans later, sound.later later⟩
  | goOn position batched =>
      rw [step]
      split
      · exact orderly
      · rename_i execution found
        split
        · rename_i finished
          exact orderly.rests found batched finished
        · exact orderly.advances found

theorem Placed.orderly (placed : world.Placed) : world.Orderly := by
  obtain ⟨noExecution, nothingSaid, noneTook⟩ := placed.idle
  have noneTold : world.outcomes = [] := by
    unfold outcomes
    rw [nothingSaid]
    rfl
  refine ⟨fun _ => placed.unconnected, ?_, .inl ⟨noneTook, ?_⟩, ?_, ?_⟩
  · rw [noExecution]
    exact List.forall_mem_nil _
  · rw [placed.ringing]
    rfl
  · rw [noneTold, noExecution, noneTook]
    rfl
  · rw [noneTold]
    exact List.forall_mem_nil _

/-- An operation on a call that was connected behind its back counts no time at all. -/
theorem timely_iff {row after : Call} {operation : Operation} {read : Call} {decidedAt : Int}
    {source : List CallStatus} {change : Change} (precedes : read.Precedes row)
    (attempts : operation.Attempts read decidedAt source change) (unconnected : row.Unconnected)
    (isAfter : row.transition source change = some after)
    (terminal : isTerminal after.status = true) :
    Timely row (.updating operation read decidedAt source change) ↔
      after.durationSeconds = durationOf after.connectedAt decidedAt := by
  obtain ⟨moved, legal⟩ := moved_of_transition attempts unconnected isAfter
  have isOutcome := moved.outcome
  rw [if_pos terminal] at isOutcome
  rw [moved.connection terminal, Timely, isOutcome]
  rcases moved.duration terminal with isDuration | ⟨never, isZero⟩
  · rw [isDuration]
    cases wasConnected : read.connectedAt with
    | some since =>
        rw [precedes since wasConnected]
        exact iff_of_true nofun rfl
    | none =>
        cases row.connectedAt with
        | none => exact iff_of_true nofun rfl
        | some since =>
            show _ ↔ 0 = max 0 ((decidedAt - since + 500) / 1000)
            constructor
            · intro timely
              have short := timely rfl legal rfl since rfl
              omega
            · intro isZero _ _ _ other isSince
              obtain rfl := Option.some.inj isSince
              omega
  · rw [never, isZero]
    refine iff_of_true ?_ rfl
    intro _ _ _ since isSince
    cases isSince

theorem permits_goOn {position : Nat} {batched : Bool} {execution : Execution}
    (found : world.executions[position]? = some execution) :
    world.Permits (.goOn position batched) ↔ Timely world.row execution.point := by
  rw [Permits, found]
  constructor
  · exact fun permitted => permitted execution rfl
  · intro timely other isOther
    rw [← Option.some.inj isOther]
    exact timely

/-- The next step of an operation, where it ends no call and where it does. -/
theorem timely_or_took (orderly : world.Orderly) {position : Nat} {execution : Execution}
    (found : world.executions[position]? = some execution) :
    (Timely world.row execution.point ∧ execution.took world.row world.now = none) ∨
      ∃ took, execution.took world.row world.now = some took ∧ (Timely world.row execution.point ↔
        took.left.durationSeconds = durationOf took.left.connectedAt took.decidedAt) := by
  obtain ⟨-, sound⟩ := orderly.sound execution (List.mem_of_getElem? found)
  cases isPoint : execution.point with
  | updating operation read decidedAt source change =>
      rw [isPoint] at sound
      obtain ⟨precedes, -, -, attempts⟩ := sound
      cases isAfter : world.row.transition source change with
      | none =>
          refine .inl ⟨?_, ?_⟩
          · intro _ legal
            unfold Call.transition at isAfter
            rw [if_pos legal] at isAfter
            cases isAfter
          · rw [Execution.took, isPoint]
            dsimp only
            rw [isAfter]
      | some after =>
          rw [took_updating isPoint isAfter]
          cases terminal : isTerminal after.status with
          | true =>
              exact .inr ⟨_, rfl,
                timely_iff precedes attempts orderly.unconnected isAfter terminal⟩
          | false =>
              have outcome := (moved_of_transition attempts orderly.unconnected isAfter).1.outcome
              rw [terminal, if_neg nofun] at outcome
              refine .inl ⟨?_, rfl⟩
              rw [Timely, outcome]
              exact nofun
  | _ => exact .inl ⟨trivial, by rw [Execution.took, isPoint]⟩

theorem decided_iff_permits (happening : Happening) (orderly : world.Orderly)
    (decided : world.Decided) : (world.step happening).Decided ↔ world.Permits happening := by
  have next := orderly_step happening orderly
  cases happening with
  | call operation => exact iff_of_true (next.decided decided.duration) trivial
  | reap => exact iff_of_true (next.decided decided.duration) trivial
  | pass elapsed => exact iff_of_true (next.decided decided.duration) trivial
  | goOn position batched =>
      rcases Option.eq_none_or_eq_some world.executions[position]? with missing | ⟨execution, found⟩
      · rw [step, Permits, missing]
        exact iff_of_true decided fun _ isNone => nomatch isNone
      rw [permits_goOn found]
      rw [step, found] at next ⊢
      dsimp only at next ⊢
      by_cases finished : execution.point = .finished
      · rw [if_pos finished] at next ⊢
        rw [finished]
        exact iff_of_true (next.decided decided.duration) trivial
      · rw [if_neg finished] at next ⊢
        rcases timely_or_took orderly found with ⟨timely, untaken⟩ | ⟨took, isTook, exactly⟩
        · refine iff_of_true (next.decided ?_) timely
          rw [untaken]
          exact decided.duration
        · rw [exactly]
          constructor
          · intro decidedNext
            refine decidedNext.duration took ?_
            rw [isTook]
            exact List.mem_cons_self
          · intro isDuration
            refine next.decided ?_
            rw [isTook]
            exact List.forall_mem_cons.mpr ⟨isDuration, decided.duration⟩

/-- A call has one outcome, that is told once and has the duration counted to the moment of the
decision, throughout a run exactly when no update of the run that ends the call rests on a read
from before the call was connected, half a second or more after that. -/
theorem decided_iff (world : World) (placed : world.Placed) (happenings : List Happening) :
    Always step Decided world happenings ↔ Each step Permits world happenings := by
  refine always_iff_each Orderly ?_ ?_ world placed.orderly (placed.orderly.decided ?_) happenings
  · exact fun _ happening orderly _ _ => orderly_step happening orderly
  · exact fun _ happening orderly decided => decided_iff_permits happening orderly decided
  · rw [placed.idle.2.2]
    exact List.forall_mem_nil _

end World

/-- Anna calls Bert. -/
def annaCallsBert : World where
  row :=
    { id := 0
      callerId := "anna"
      calleeId := "bert"
      clientId := "first"
      ringingExpiresAt := 45000 }
  now := 0

theorem placed_annaCallsBert : annaCallsBert.Placed where
  ringing := rfl
  unconnected := rfl
  idle := ⟨rfl, rfl, rfl⟩

def goes (position steps : Nat) : List Happening := List.replicate steps (.goOn position true)

/-- Bert answers as the ring window closes, both hang up at once, and a sweep goes by. -/
def bothHangUp : List Happening :=
  [.pass 44000, .call (.accept "bert"), .call .expireRinging] ++ goes 0 2 ++ [.pass 2000] ++
    goes 1 1 ++ goes 0 3 ++ goes 1 1 ++ [.call (.markConnected "anna")] ++ goes 2 5 ++
    [.pass 61400, .call (.endCall "anna"), .call (.endCall "bert"), .reap] ++ goes 3 1 ++ goes 4 2 ++
    [.pass 200] ++ goes 3 4 ++ goes 4 1 ++ goes 5 4

theorem decided_bothHangUp :
    Always World.step World.Decided annaCallsBert bothHangUp ∧
      (run World.step annaCallsBert bothHangUp).row.durationSeconds = 62 ∧
        (run World.step annaCallsBert bothHangUp).outcomes = [.ended] :=
  ⟨(World.decided_iff annaCallsBert placed_annaCallsBert bothHangUp).mpr (by decide +kernel),
    by decide +kernel, by decide +kernel⟩

/-- Anna hangs up on what she reads as a call that is not connected, and it is by then. -/
def connectedBehindHerBack : List Happening :=
  .call (.accept "bert") :: goes 0 5 ++ .call (.endCall "anna") :: goes 1 1 ++
    .call (.markConnected "bert") :: goes 2 3 ++ .pass 600 :: goes 1 4 ++ goes 2 2

/-- She has talked for 0.6 seconds, and the row says 0 and not 1. -/
theorem not_decided_connectedBehindHerBack :
    ¬(run World.step annaCallsBert connectedBehindHerBack).Decided := by
  intro decided
  have duration := decided.duration
  revert duration
  decide +kernel

end Soulzaa.Calls
