/-
Calls as they are placed, by any caller to any callee.

Whether a user is free is read once for each of the two, and the row is written after that.  What
a retried request meets depends on how far the first one has come.
-/

import Soulzaa.Calls.Lifecycle
import Soulzaa.Lib.Interleaving
import Soulzaa.Lib.KeyedRows
import Soulzaa.Lib.Runs

namespace Soulzaa.Calls.Placing

open Runs

structure InitiateCall where
  callerId : UserId
  calleeId : UserId
  clientId : String
  deriving DecidableEq, Repr

inductive PlacedEvent where
  | busy (callId : CallId)
  | initiated (callId : CallId)
  deriving DecidableEq, Repr

def PlacedEvent.callId : PlacedEvent → CallId
  | .busy callId | .initiated callId => callId

inductive Stage where
  | finding
  /-- The rate limit, and the callee's privacy. -/
  | gating
  | askingCaller
  | askingCallee
  | creatingBusy (now : Int)
  | creating (ringingExpiresAt : Int)
  | refinding
  | announcing (event : PlacedEvent)
  | answered
  deriving DecidableEq, Repr

structure Attempt where
  request : InitiateCall
  stage : Stage
  deriving DecidableEq, Repr

/-- The call that a request was answered with, and the one that there was for its key then. -/
structure Answer where
  request : InitiateCall
  returned : Option CallId
  existing : Option CallId
  deriving DecidableEq, Repr

structure World where
  rtcConfigured : Bool := true
  ringTimeoutMs : Int := 45000
  now : Int
  rows : List Call := []
  attempts : List Attempt := []
  operations : List (CallId × Point) := []
  published : List PlacedEvent := []
  answers : List Answer := []
  deriving DecidableEq, Repr

inductive Happening where
  | initiate (request : InitiateCall)
  /-- An operation on a call, also one that a sweep has found due. -/
  | call (callId : CallId) (operation : Operation)
  | goOn (position : Nat) (refused : Bool)
  | operate (position : Nat)
  | pass (elapsed : Nat)
  deriving DecidableEq, Repr

/-! ### Rows -/

def pair (call : Call) : UserId × String := (call.callerId, call.clientId)

def Engages (userId : UserId) (call : Call) : Prop :=
  isTerminal call.status = false ∧ call.involves userId

instance (userId : UserId) (call : Call) : Decidable (Engages userId call) :=
  inferInstanceAs (Decidable (_ ∧ _))

def findByClientId (rows : List Call) (request : InitiateCall) : Option Call :=
  KeyedRows.find pair (request.callerId, request.clientId) rows

/-- The latest of the user's live calls. -/
def findLiveForUser (rows : List Call) (userId : UserId) : Option Call :=
  rows.reverse.find? fun call => Engages userId call

def createBusy (rows : List Call) (request : InitiateCall) (now : Int) : Call where
  id := rows.length
  callerId := request.callerId
  calleeId := request.calleeId
  clientId := request.clientId
  status := .busy
  endReason := some .busy
  ringingExpiresAt := now
  endedAt := some now

def create (rows : List Call) (request : InitiateCall) (ringingExpiresAt : Int) : Call where
  id := rows.length
  callerId := request.callerId
  calleeId := request.calleeId
  clientId := request.clientId
  ringingExpiresAt := ringingExpiresAt

/-! ### One step -/

namespace World

def existing (world : World) (request : InitiateCall) : Option CallId :=
  (findByClientId world.rows request).map Call.id

def answer (world : World) (request : InitiateCall) (returned : Option CallId) : World :=
  { world with
    answers :=
      { request := request, returned := returned, existing := world.existing request } ::
        world.answers }

def put (world : World) (position : Nat) (request : InitiateCall) (stage : Stage) : World :=
  { world with
    attempts := world.attempts.set position { request := request, stage := stage } }

/-- The request is answered, and is done. -/
def close (world : World) (position : Nat) (request : InitiateCall) (returned : Option CallId) :
    World :=
  (world.put position request .answered).answer request returned

def initiate (world : World) (refused : Bool) (position : Nat) (attempt : Attempt) : World :=
  let request := attempt.request
  match attempt.stage with
  | .finding =>
      match findByClientId world.rows request with
      | some row => world.close position request (some row.id)
      | none => world.put position request .gating
  | .gating =>
      if refused then world.close position request none
      else world.put position request .askingCaller
  | .askingCaller =>
      if (findLiveForUser world.rows request.callerId).isSome then world.close position request none
      else world.put position request .askingCallee
  | .askingCallee =>
      if (findLiveForUser world.rows request.calleeId).isSome then
        world.put position request (.creatingBusy world.now)
      else world.put position request (.creating (world.now + world.ringTimeoutMs))
  | .creatingBusy now =>
      if (findByClientId world.rows request).isSome then world.close position request none
      else
        let row := createBusy world.rows request now
        { world.put position request (.announcing (.busy row.id)) with
          rows := world.rows ++ [row] }
  | .creating ringingExpiresAt =>
      if (findByClientId world.rows request).isSome then world.put position request .refinding
      else
        let row := create world.rows request ringingExpiresAt
        { world.put position request (.announcing (.initiated row.id)) with
          rows := world.rows ++ [row] }
  | .refinding =>
      match findByClientId world.rows request with
      | some row => world.put position request (.announcing (.initiated row.id))
      | none => world.close position request none
  | .announcing event =>
      { world.close position request (some event.callId) with
        published := event :: world.published }
  | .answered => world

def step (world : World) : Happening → World
  | .initiate request =>
      if request.callerId = request.calleeId ∨ !world.rtcConfigured then world.answer request none
      else { world with attempts := world.attempts ++ [{ request := request, stage := .finding }] }
  | .call callId operation =>
      match KeyedRows.find Call.id callId world.rows with
      | none => world
      | some row => { world with operations := world.operations ++ [(callId, operation.begin row)] }
  | .goOn position refused =>
      match world.attempts[position]? with
      | none => world
      | some attempt => world.initiate refused position attempt
  | .operate position =>
      match world.operations[position]? with
      | none => world
      | some (callId, point) =>
          match KeyedRows.find Call.id callId world.rows with
          | none => world
          | some row =>
              { world with
                rows := KeyedRows.update Call.id callId
                  (fun row => (point.goOn row world.now).row) world.rows
                operations := world.operations.set position
                  (callId, (point.goOn row world.now).point) }
  | .pass elapsed => { world with now := world.now + elapsed }

/-! ### What is promised -/

structure Single (world : World) : Prop where
  alone : ∀ userId, (world.rows.countP fun call => Engages userId call) ≤ 1
  once : (world.rows.map pair).Nodup
  answered : ∀ answer ∈ world.answers, answer.returned = answer.existing
  initiated : ∀ callId, world.published.count (.initiated callId) ≤ 1

def Unknown (world : World) (request : InitiateCall) : Prop :=
  findByClientId world.rows request = none

instance (world : World) (request : InitiateCall) : Decidable (world.Unknown request) :=
  inferInstanceAs (Decidable (_ = _))

/-- A request that is refused, or writes its row, has no row of its key yet, and a call that begins
to ring finds both users free still. -/
def PermitsStage (world : World) (refused : Bool) (request : InitiateCall) : Stage → Prop
  | .gating => refused = true → world.Unknown request
  | .askingCaller =>
      (findLiveForUser world.rows request.callerId).isSome → world.Unknown request
  | .creatingBusy _ => world.Unknown request
  | .creating _ =>
      world.Unknown request ∧ findLiveForUser world.rows request.callerId = none ∧
        findLiveForUser world.rows request.calleeId = none
  | _ => True

instance (world : World) (refused : Bool) (request : InitiateCall) (stage : Stage) :
    Decidable (world.PermitsStage refused request stage) :=
  match stage with
  | .gating => inferInstanceAs (Decidable (refused = true → world.Unknown request))
  | .askingCaller => inferInstanceAs (Decidable (Option.isSome _ = true → world.Unknown request))
  | .creatingBusy _ => inferInstanceAs (Decidable (world.Unknown request))
  | .creating _ => inferInstanceAs (Decidable (_ ∧ _ = _ ∧ _ = _))
  | .finding | .askingCallee | .refinding | .announcing _ | .answered =>
      inferInstanceAs (Decidable True)

def Permits (world : World) : Happening → Prop
  | .initiate request =>
      request.callerId = request.calleeId ∨ !world.rtcConfigured → world.Unknown request
  | .goOn position refused =>
      ∀ attempt ∈ world.attempts[position]?,
        world.PermitsStage refused attempt.request attempt.stage
  | _ => True

instance (world : World) (happening : Happening) : Decidable (world.Permits happening) :=
  match happening with
  | .initiate request =>
      inferInstanceAs (Decidable (request.callerId = request.calleeId ∨ !world.rtcConfigured →
        world.Unknown request))
  | .goOn _ _ => inferInstanceAs (Decidable (∀ attempt ∈ (_ : Option Attempt), _))
  | .call _ _ | .operate _ | .pass _ => inferInstanceAs (Decidable True)

/-- Nobody has called yet. -/
structure Unused (world : World) : Prop where
  rows : world.rows = []
  idle : world.attempts = [] ∧ world.operations = []
  silent : world.published = [] ∧ world.answers = []

end World

/-! ### Rows and operations -/

section Rows

variable {row : Call} {point : Point} {now : Int} {userId : UserId}

def Careful : Point → Prop
  | .updating operation read decidedAt source change =>
      operation.Attempts read decidedAt source change
  | _ => True

theorem careful_begin (operation : Operation) : Careful (operation.begin row) := by
  unfold Operation.begin
  split
  · exact trivial
  · exact trivial

theorem careful_goOn (careful : Careful point) : Careful (point.goOn row now).point := by
  cases point with
  | deciding operation call =>
      rw [Point.goOn]
      split
      · exact trivial
      · exact trivial
      · rename_i isUpdate
        exact attempts_of_decide isUpdate
  | updating operation read decidedAt source change =>
      rw [Point.goOn]
      split
      · exact trivial
      · exact trivial
  | _ => exact trivial

/-- Of an operation's steps only an update that goes through changes the row. -/
theorem goOn_row (row : Call) (now : Int) (point : Point) :
    (point.goOn row now).row = row ∨ ∃ operation read decidedAt source change,
      point = .updating operation read decidedAt source change ∧ row.status ∈ source ∧
        (point.goOn row now).row = change.apply row := by
  cases point with
  | deciding operation call =>
      rw [Point.goOn]
      split
      · exact .inl rfl
      · exact .inl rfl
      · exact .inl rfl
  | updating operation read decidedAt source change =>
      rw [Point.goOn, Call.transition]
      split_ifs with legal
      · exact .inr ⟨operation, read, decidedAt, source, change, rfl, legal, rfl⟩
      · exact .inl rfl
  | _ => exact .inl rfl

theorem apply_keeps (change : Change) : (change.apply row).id = row.id ∧
    pair (change.apply row) = pair row ∧
      ∀ userId, (change.apply row).involves userId ↔ row.involves userId := by
  cases change with
  | _ => exact ⟨rfl, rfl, fun _ => Iff.rfl⟩

theorem goOn_keeps : (point.goOn row now).row.id = row.id ∧
    pair (point.goOn row now).row = pair row ∧
      ∀ userId, (point.goOn row now).row.involves userId ↔ row.involves userId := by
  rcases goOn_row row now point with same | ⟨_, _, _, _, change, -, -, isAfter⟩
  · rw [same]
    exact ⟨rfl, rfl, fun _ => Iff.rfl⟩
  · rw [isAfter]
    exact apply_keeps change

/-- A call that is over engages nobody again. -/
theorem engages_of_goOn (careful : Careful point)
    (engages : Engages userId (point.goOn row now).row) : Engages userId row := by
  refine ⟨?_, (goOn_keeps.2.2 userId).mp engages.2⟩
  rcases goOn_row row now point with same | ⟨operation, read, decidedAt, source, change, rfl, legal, -⟩
  · rw [← same]
    exact engages.1
  · exact Operation.Attempts.live careful row.status legal

theorem findLiveForUser_eq_none {rows : List Call} :
    findLiveForUser rows userId = none ↔ (rows.countP fun call => Engages userId call) = 0 := by
  unfold findLiveForUser
  rw [List.find?_eq_none, List.countP_eq_zero]
  simp only [List.mem_reverse]

end Rows

/-! ### Requests side by side -/

/-- The ringing calls that are still to be announced. -/
def owes (callId : CallId) (attempt : Attempt) : Int :=
  if attempt.stage = .announcing (.initiated callId) then 1 else 0

theorem owes_nonneg (callId : CallId) (attempt : Attempt) : 0 ≤ owes callId attempt := by
  unfold owes
  split
  · exact Int.one_nonneg
  · exact le_refl 0

namespace World

structure Tidy (world : World) : Prop where
  alone : ∀ userId, (world.rows.countP fun call => Engages userId call) ≤ 1
  once : (world.rows.map pair).Nodup
  ids : world.rows.map Call.id = List.range world.rows.length
  answered : ∀ answer ∈ world.answers, answer.returned = answer.existing
  careful : ∀ operation ∈ world.operations, Careful operation.2
  distinct : ∀ attempt ∈ world.attempts, attempt.request.callerId ≠ attempt.request.calleeId
  regular : ∀ attempt ∈ world.attempts, attempt.stage ≠ .refinding
  known : ∀ attempt ∈ world.attempts, ∀ event, attempt.stage = .announcing event →
    world.existing attempt.request = some event.callId
  published : ∀ event ∈ world.published, event.callId < world.rows.length
  owed : ∀ callId, (world.published.count (.initiated callId) : Int) +
    Interleaving.underWay (owes callId) world.attempts ≤ 1

variable {world : World} {position : Nat} {attempt : Attempt} {stage : Stage}

theorem Tidy.single (tidy : world.Tidy) : world.Single where
  alone := tidy.alone
  once := tidy.once
  answered := tidy.answered
  initiated := by
    intro callId
    have nonneg := Interleaving.underWay_nonneg (owes_nonneg callId) world.attempts
    have owed := tidy.owed callId
    omega

theorem Tidy.lt_of_existing (tidy : world.Tidy) {request : InitiateCall} {callId : CallId}
    (existing : world.existing request = some callId) : callId < world.rows.length := by
  obtain ⟨row, found, rfl⟩ := Option.map_eq_some_iff.mp existing
  rw [← List.mem_range, ← tidy.ids]
  exact List.mem_map_of_mem (KeyedRows.mem_of_find found)

/-- A request goes on, and nothing else changes. -/
theorem Tidy.puts (tidy : world.Tidy) (found : world.attempts[position]? = some attempt)
    (regular : stage ≠ .refinding) (plain : ∀ event, stage ≠ .announcing event) :
    (world.put position attempt.request stage).Tidy where
  alone := tidy.alone
  once := tidy.once
  ids := tidy.ids
  answered := tidy.answered
  careful := tidy.careful
  distinct := by
    intro other member
    rcases List.mem_or_eq_of_mem_set member with older | rfl
    · exact tidy.distinct other older
    · exact tidy.distinct attempt (List.mem_of_getElem? found)
  regular := by
    intro other member
    rcases List.mem_or_eq_of_mem_set member with older | rfl
    · exact tidy.regular other older
    · exact regular
  known := by
    intro other member event isEvent
    rcases List.mem_or_eq_of_mem_set member with older | rfl
    · exact tidy.known other older event isEvent
    · exact absurd isEvent (plain event)
  published := tidy.published
  owed := by
    intro callId
    have moved := Interleaving.underWay_set (owes callId) found
      { request := attempt.request, stage := stage }
    have free : owes callId { request := attempt.request, stage := stage } = 0 :=
      if_neg (plain (.initiated callId))
    have nonneg := owes_nonneg callId attempt
    have owed := tidy.owed callId
    show (world.published.count (.initiated callId) : Int) + Interleaving.underWay (owes callId)
      (world.attempts.set position { request := attempt.request, stage := stage }) ≤ 1
    omega

/-- A request is answered with the call that there is. -/
theorem Tidy.closes (tidy : world.Tidy) (found : world.attempts[position]? = some attempt)
    {returned : Option CallId} (isExisting : returned = world.existing attempt.request) :
    (world.close position attempt.request returned).Tidy :=
  have put : (world.put position attempt.request .answered).Tidy := tidy.puts found nofun nofun
  { put with answered := List.forall_mem_cons.mpr ⟨isExisting, put.answered⟩ }

/-- A row is written for a request that had none. -/
theorem Tidy.inserts (tidy : world.Tidy) (found : world.attempts[position]? = some attempt)
    {row : Call} {event : PlacedEvent} (isId : row.id = world.rows.length)
    (isPair : pair row = (attempt.request.callerId, attempt.request.clientId))
    (isEvent : event.callId = row.id) (unknown : world.Unknown attempt.request)
    (free : ∀ userId, Engages userId row → findLiveForUser world.rows userId = none) :
    Tidy { world.put position attempt.request (.announcing event) with
      rows := world.rows ++ [row] } where
  alone := by
    intro userId
    rw [List.countP_append, List.countP_singleton]
    split
    · rename_i engages
      rw [findLiveForUser_eq_none.mp (free userId (of_decide_eq_true engages))]
    · exact tidy.alone userId
  once := by
    rw [List.map_append, List.map_singleton, List.nodup_append]
    refine ⟨tidy.once, List.nodup_singleton _, ?_⟩
    intro key member other isOther same
    obtain ⟨before, inside, rfl⟩ := List.mem_map.mp member
    rw [List.mem_singleton.mp isOther, isPair] at same
    have absent := List.find?_eq_none.mp unknown before inside
    exact absent (decide_eq_true same)
  ids := by
    rw [List.map_append, List.map_singleton, List.length_append, List.length_singleton,
      List.range_succ, tidy.ids, isId]
  answered := tidy.answered
  careful := tidy.careful
  distinct := by
    intro other member
    rcases List.mem_or_eq_of_mem_set member with older | rfl
    · exact tidy.distinct other older
    · exact tidy.distinct attempt (List.mem_of_getElem? found)
  regular := by
    intro other member
    rcases List.mem_or_eq_of_mem_set member with older | rfl
    · exact tidy.regular other older
    · exact nofun
  known := by
    intro other member announced isAnnounced
    show (KeyedRows.find pair (other.request.callerId, other.request.clientId)
      (world.rows ++ [row])).map Call.id = _
    rw [KeyedRows.find_concat]
    rcases List.mem_or_eq_of_mem_set member with older | rfl
    · obtain ⟨before, isBefore, isCall⟩ :=
        Option.map_eq_some_iff.mp (tidy.known other older announced isAnnounced)
      rw [show KeyedRows.find pair _ world.rows = some before from isBefore, Option.some_or, ← isCall]
      rfl
    · rw [show KeyedRows.find pair _ world.rows = none from unknown, Option.none_or, if_pos isPair,
        ← Stage.announcing.inj isAnnounced, isEvent]
      rfl
  published := by
    intro other member
    rw [List.length_append]
    exact Nat.lt_add_right 1 (tidy.published other member)
  owed := by
    intro callId
    have moved := Interleaving.underWay_set (owes callId) found
      { request := attempt.request, stage := .announcing event }
    have nonneg := owes_nonneg callId attempt
    have owed := tidy.owed callId
    show (world.published.count (.initiated callId) : Int) + Interleaving.underWay (owes callId)
      (world.attempts.set position { request := attempt.request, stage := .announcing event }) ≤ 1
    by_cases own : event = .initiated callId
    · obtain rfl : callId = world.rows.length := by rw [← isId, ← isEvent, own]; rfl
      have nothing : Interleaving.underWay (owes world.rows.length) world.attempts = 0 := by
        refine Interleaving.underWay_eq_zero fun other member => if_neg fun isAnnounced => ?_
        have below := tidy.lt_of_existing (tidy.known other member _ isAnnounced)
        exact lt_irrefl _ below
      have unsaid : world.published.count (.initiated world.rows.length) = 0 := by
        refine List.count_eq_zero.mpr fun member => ?_
        exact lt_irrefl _ (tidy.published _ member)
      have one : owes world.rows.length
          { request := attempt.request, stage := .announcing event } = 1 := if_pos (by rw [own])
      omega
    · have zero : owes callId { request := attempt.request, stage := .announcing event } = 0 :=
        if_neg fun same => own (Stage.announcing.inj same)
      omega

/-- The call is announced, and the request answered with it. -/
theorem Tidy.announces (tidy : world.Tidy) (found : world.attempts[position]? = some attempt)
    {event : PlacedEvent} (isStage : attempt.stage = .announcing event) :
    Tidy { world.close position attempt.request (some event.callId) with
      published := event :: world.published } := by
  have known := tidy.known attempt (List.mem_of_getElem? found) event isStage
  have closed := tidy.closes found known.symm
  refine { closed with published := ?_, owed := ?_ }
  · exact List.forall_mem_cons.mpr ⟨tidy.lt_of_existing known, tidy.published⟩
  · intro callId
    have moved := Interleaving.underWay_set (owes callId) found
      { request := attempt.request, stage := .answered }
    have zero : owes callId { request := attempt.request, stage := .answered } = 0 := if_neg nofun
    have owed := tidy.owed callId
    show ((event :: world.published).count (.initiated callId) : Int) +
      Interleaving.underWay (owes callId)
        (world.attempts.set position { request := attempt.request, stage := .answered }) ≤ 1
    rw [List.count_cons]
    by_cases own : event = .initiated callId
    · have one : owes callId attempt = 1 := if_pos (by rw [isStage, own])
      rw [if_pos (beq_iff_eq.mpr own)]
      push_cast
      omega
    · have nonneg := owes_nonneg callId attempt
      rw [if_neg fun same => own (beq_iff_eq.mp same)]
      push_cast
      omega

theorem Tidy.operates (tidy : world.Tidy) {callId : CallId} {point : Point} {row : Call}
    (found : world.operations[position]? = some (callId, point)) :
    Tidy { world with
      rows := KeyedRows.update Call.id callId
        (fun row => (point.goOn row world.now).row) world.rows
      operations := world.operations.set position (callId, (point.goOn row world.now).point) } := by
  have careful : Careful point := tidy.careful _ (List.mem_of_getElem? found)
  have keepsId : KeyedRows.KeepsKey Call.id fun row => (point.goOn row world.now).row :=
    fun _ => goOn_keeps.1
  have keepsPair : ∀ row : Call,
      pair (if row.id = callId then (point.goOn row world.now).row else row) = pair row := by
    intro row
    split
    · exact goOn_keeps.2.1
    · rfl
  have length : (KeyedRows.update Call.id callId
      (fun row => (point.goOn row world.now).row) world.rows).length = world.rows.length :=
    List.length_map _
  refine { tidy with
    alone := ?_, once := ?_, ids := ?_, careful := ?_, known := ?_, published := ?_ }
  · intro userId
    refine (KeyedRows.countP_update_le fun row engages => ?_).trans (tidy.alone userId)
    exact decide_eq_true (engages_of_goOn careful (of_decide_eq_true engages))
  · have same : (KeyedRows.update Call.id callId
        (fun row => (point.goOn row world.now).row) world.rows).map pair = world.rows.map pair :=
      KeyedRows.map_update fun _ => goOn_keeps.2.1
    exact same ▸ tidy.once
  · rw [length]
    exact (KeyedRows.keys_update keepsId).trans tidy.ids
  · intro other member
    rcases List.mem_or_eq_of_mem_set member with older | rfl
    · exact tidy.careful other older
    · exact careful_goOn careful
  · intro other member event isEvent
    obtain ⟨before, isBefore, isCall⟩ :=
      Option.map_eq_some_iff.mp (tidy.known other member event isEvent)
    show (KeyedRows.find pair _ (world.rows.map _)).map Call.id = _
    rw [KeyedRows.find_map keepsPair, Option.map_map,
      show KeyedRows.find pair _ world.rows = some before from isBefore, ← isCall]
    exact congrArg some (keepsId.written before)
  · intro event member
    rw [length]
    exact tidy.published event member

theorem tidy_initiate (tidy : world.Tidy) (refused : Bool)
    (found : world.attempts[position]? = some attempt)
    (permitted : world.PermitsStage refused attempt.request attempt.stage) :
    (world.initiate refused position attempt).Tidy := by
  have distinct := tidy.distinct attempt (List.mem_of_getElem? found)
  have regular := tidy.regular attempt (List.mem_of_getElem? found)
  have none_there : world.Unknown attempt.request → none = world.existing attempt.request := by
    intro unknown
    rw [existing, show findByClientId world.rows attempt.request = none from unknown]
    rfl
  cases isStage : attempt.stage with
  | finding =>
      rw [initiate, isStage]
      dsimp only
      split
      · rename_i row isRow
        refine tidy.closes found ?_
        rw [existing, isRow]
        rfl
      · exact tidy.puts found nofun nofun
  | gating =>
      rw [isStage] at permitted
      rw [initiate, isStage]
      dsimp only
      split
      · rename_i isRefused
        exact tidy.closes found (none_there (permitted isRefused))
      · exact tidy.puts found nofun nofun
  | askingCaller =>
      rw [isStage] at permitted
      rw [initiate, isStage]
      dsimp only
      split
      · rename_i engaged
        exact tidy.closes found (none_there (permitted engaged))
      · exact tidy.puts found nofun nofun
  | askingCallee =>
      rw [initiate, isStage]
      dsimp only
      split
      · exact tidy.puts found nofun nofun
      · exact tidy.puts found nofun nofun
  | creatingBusy now =>
      rw [isStage] at permitted
      have unknown : (findByClientId world.rows attempt.request).isSome = false :=
        Option.isSome_eq_false_iff.mpr (Option.isNone_iff_eq_none.mpr permitted)
      rw [initiate, isStage]
      dsimp only
      rw [unknown, if_neg nofun]
      refine tidy.inserts found rfl rfl rfl permitted ?_
      rintro userId ⟨isLive, -⟩
      cases isLive
  | creating ringingExpiresAt =>
      rw [isStage] at permitted
      obtain ⟨isUnknown, callerFree, calleeFree⟩ := permitted
      have unknown : (findByClientId world.rows attempt.request).isSome = false :=
        Option.isSome_eq_false_iff.mpr (Option.isNone_iff_eq_none.mpr isUnknown)
      rw [initiate, isStage]
      dsimp only
      rw [unknown, if_neg nofun]
      refine tidy.inserts found rfl rfl rfl isUnknown ?_
      rintro userId ⟨-, isCaller | isCallee⟩
      · rw [← isCaller]
        exact callerFree
      · rw [← isCallee]
        exact calleeFree
  | refinding => exact absurd isStage regular
  | announcing event =>
      rw [initiate, isStage]
      exact tidy.announces found isStage
  | answered =>
      rw [initiate, isStage]
      exact tidy

theorem tidy_step (happening : Happening) (tidy : world.Tidy)
    (permitted : world.Permits happening) : (world.step happening).Tidy := by
  cases happening with
  | initiate request =>
      rw [step]
      split
      · rename_i isRefused
        refine { tidy with answered := List.forall_mem_cons.mpr ⟨?_, tidy.answered⟩ }
        show none = (findByClientId world.rows request).map Call.id
        rw [show findByClientId world.rows request = none from permitted isRefused]
        rfl
      · rename_i accepted
        refine { tidy with distinct := ?_, regular := ?_, known := ?_, owed := ?_ }
        · intro other member
          rcases List.mem_append.mp member with older | isNew
          · exact tidy.distinct other older
          · rw [List.mem_singleton.mp isNew]
            exact fun same => accepted (.inl same)
        · intro other member
          rcases List.mem_append.mp member with older | isNew
          · exact tidy.regular other older
          · rw [List.mem_singleton.mp isNew]
            exact nofun
        · intro other member event isEvent
          rcases List.mem_append.mp member with older | isNew
          · exact tidy.known other older event isEvent
          · rw [List.mem_singleton.mp isNew] at isEvent
            cases isEvent
        · intro callId
          rw [Interleaving.underWay_spawn]
          have zero : owes callId { request := request, stage := .finding } = 0 := if_neg nofun
          rw [zero, add_zero]
          exact tidy.owed callId
  | call callId operation =>
      rw [step]
      split
      · exact tidy
      · refine { tidy with careful := ?_ }
        intro other member
        rcases List.mem_append.mp member with older | isNew
        · exact tidy.careful other older
        · rw [List.mem_singleton.mp isNew]
          exact careful_begin operation
  | goOn position refused =>
      rw [step]
      split
      · exact tidy
      · rename_i attempt found
        exact tidy_initiate tidy refused found (permitted attempt found)
  | operate position =>
      rw [step]
      split
      · exact tidy
      · rename_i callId point found
        split
        · exact tidy
        · exact tidy.operates found
  | pass elapsed => exact { tidy with }

theorem Unused.tidy (unused : world.Unused) : world.Tidy := by
  obtain ⟨noAttempt, noOperation⟩ := unused.idle
  obtain ⟨unpublished, unanswered⟩ := unused.silent
  constructor
  · intro userId
    rw [unused.rows]
    exact Nat.zero_le 1
  · rw [unused.rows]
    exact List.nodup_nil
  · rw [unused.rows]
    rfl
  · rw [unanswered]
    exact List.forall_mem_nil _
  · rw [noOperation]
    exact List.forall_mem_nil _
  · rw [noAttempt]
    exact List.forall_mem_nil _
  · rw [noAttempt]
    exact List.forall_mem_nil _
  · rw [noAttempt]
    exact List.forall_mem_nil _
  · rw [unpublished]
    exact List.forall_mem_nil _
  · intro callId
    rw [unpublished, noAttempt]
    exact Int.one_nonneg

/-- Nobody is in two calls, and a key has one call that each request for it is answered with and
that is announced once, throughout a run in which each request that is refused or writes its row
finds that its key has none, and finds both users free before the phone rings. -/
theorem single_always (world : World) (unused : world.Unused) (happenings : List Happening)
    (permitted : Each step Permits world happenings) : Always step Single world happenings := by
  have kept : ∀ (state : World) (happening : Happening), state.Tidy →
      state.Permits happening → (state.step happening).Tidy :=
    fun _ happening tidy permits => tidy_step happening tidy permits
  exact (always_of_each kept world unused.tidy happenings permitted).imp fun _ tidy => tidy.single

end World

def goes (position steps : Nat) : List Happening := List.replicate steps (.goOn position false)

/-- Anna reaches Bert, Carl finds him busy and retries, and Anna's retry finds her call. -/
def busyLine : List Happening :=
  .initiate ⟨"anna", "bert", "a"⟩ :: goes 0 6 ++ .initiate ⟨"carl", "bert", "c"⟩ :: goes 1 6 ++
    .initiate ⟨"carl", "bert", "c"⟩ :: goes 2 1 ++ .initiate ⟨"anna", "bert", "a"⟩ :: goes 3 1 ++
    .initiate ⟨"bert", "carl", "b"⟩ :: goes 4 3 ++ .call 0 (.endCall "anna") ::
    List.replicate 6 (.operate 0) ++ .initiate ⟨"bert", "carl", "d"⟩ :: goes 5 6

theorem single_busyLine :
    Always World.step World.Single { now := 0 } busyLine ∧
      (run World.step { now := 0 } busyLine).rows.map Call.status = [.cancelled, .busy, .ringing] ∧
        (run World.step { now := 0 } busyLine).answers.map Answer.returned =
          [some 2, none, some 0, some 1, some 1, some 0] :=
  ⟨World.single_always { now := 0 } ⟨rfl, ⟨rfl, rfl⟩, ⟨rfl, rfl⟩⟩ busyLine (by decide +kernel),
    by decide +kernel, by decide +kernel⟩

/-- Anna and Bert call each other at once. -/
def crossing : List Happening :=
  .initiate ⟨"anna", "bert", "a"⟩ :: .initiate ⟨"bert", "anna", "b"⟩ ::
    goes 0 4 ++ goes 1 4 ++ goes 0 1 ++ goes 1 1

/-- A double tap, of which both requests have found no row. -/
def doubleTap : List Happening :=
  .initiate ⟨"anna", "bert", "a"⟩ :: .initiate ⟨"anna", "bert", "a"⟩ ::
    goes 0 4 ++ goes 1 4 ++ goes 0 2 ++ goes 1 3

/-- A double tap for a user who is in a call. -/
def doubleTapBusy : List Happening :=
  .initiate ⟨"bert", "carl", "b"⟩ :: goes 0 6 ++ .initiate ⟨"anna", "bert", "a"⟩ ::
    .initiate ⟨"anna", "bert", "a"⟩ :: goes 1 4 ++ goes 2 4 ++ goes 1 2 ++ goes 2 1

theorem not_single_crossing :
    ¬(run World.step { now := 0 } crossing).Single ∧
      ¬(run World.step { now := 0 } doubleTap).Single ∧
        ¬(run World.step { now := 0 } doubleTapBusy).Single := by
  refine ⟨?_, ?_, ?_⟩
  · intro single
    have alone := single.alone "anna"
    revert alone
    decide +kernel
  · intro single
    have initiated := single.initiated 0
    revert initiated
    decide +kernel
  · intro single
    have answered := single.answered
    revert answered
    decide +kernel

end Soulzaa.Calls.Placing
