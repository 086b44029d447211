/-
The lifecycle of a call between two users.

Every transition is one conditional update of the call's row.  What it writes is computed from
an earlier read, and each read, each computation and each update is a step of its own.
-/

import Mathlib.Algebra.Order.Ring.Int
import Mathlib.Data.List.Basic
import Mathlib.Tactic.SplitIfs

namespace Soulzaa.Calls

abbrev UserId := String
abbrev CallId := Nat

inductive CallStatus where
  | ringing
  | accepted
  | connected
  | ended
  | rejected
  | cancelled
  | missed
  | busy
  | failed
  deriving DecidableEq, Repr

inductive CallEndReason where
  | hangup
  | declined
  | cancelled
  | timeout
  | busy
  | network
  | failed
  deriving DecidableEq, Repr

/-- Times are in milliseconds. -/
structure Call where
  id : CallId
  callerId : UserId
  calleeId : UserId
  status : CallStatus := .ringing
  clientId : String
  ringingExpiresAt : Int
  acceptedAt : Option Int := none
  connectedAt : Option Int := none
  endedAt : Option Int := none
  endedBy : Option UserId := none
  endReason : Option CallEndReason := none
  durationSeconds : Int := 0
  deriving DecidableEq, Repr

def isTerminal (status : CallStatus) : Bool :=
  status ≠ .ringing ∧ status ≠ .accepted ∧ status ≠ .connected

/-- Seconds, rounded to the nearest, and up from the middle. -/
def durationOf (connectedAt : Option Int) (now : Int) : Int :=
  match connectedAt with
  | none => 0
  | some since => max 0 ((now - since + 500) / 1000)

/-! ### Conditional updates -/

structure TerminateInput where
  status : CallStatus
  endReason : CallEndReason
  endedBy : Option UserId := none
  durationSeconds : Int := 0
  deriving DecidableEq, Repr

inductive Change where
  | accepted (acceptedAt : Int)
  | connected (connectedAt : Int)
  | terminated (input : TerminateInput) (endedAt : Int)
  deriving DecidableEq, Repr

def Change.apply (call : Call) : Change → Call
  | .accepted acceptedAt => { call with status := .accepted, acceptedAt := some acceptedAt }
  | .connected connectedAt => { call with status := .connected, connectedAt := some connectedAt }
  | .terminated input endedAt =>
      { call with
        status := input.status
        endReason := some input.endReason
        endedBy := input.endedBy
        endedAt := some endedAt
        durationSeconds := input.durationSeconds }

/-- None where the row is in no status that the update is legal from. -/
def Call.transition (call : Call) (source : List CallStatus) (change : Change) : Option Call :=
  if call.status ∈ source then some (change.apply call) else none

/-! ### Operations -/

inductive Operation where
  | accept (userId : UserId)
  | reject (userId : UserId)
  | cancel (userId : UserId)
  | markConnected (userId : UserId)
  | endCall (userId : UserId)
  | fail (userId : UserId) (reason : CallEndReason)
  | expireRinging
  | expireConnecting
  | expireConnected
  deriving DecidableEq, Repr

inductive CallEvent where
  | accepted (acceptedBy : UserId)
  | connected
  | rejected (rejectedBy : UserId)
  | cancelled (cancelledBy : UserId)
  | ended (endedBy : Option UserId) (durationSeconds : Int)
  | failed
  | missed
  deriving DecidableEq, Repr

/-- The status that the event tells of, where it is one of a call that is over. -/
def CallEvent.outcome : CallEvent → Option CallStatus
  | .accepted _ | .connected => none
  | .rejected _ => some .rejected
  | .cancelled _ => some .cancelled
  | .ended _ _ => some .ended
  | .failed => some .failed
  | .missed => some .missed

inductive Decision where
  /-- Refused, or nothing is left to do. -/
  | leave
  | route (operation : Operation)
  | update (source : List CallStatus) (change : Change)
  deriving DecidableEq, Repr

def Call.involves (call : Call) (userId : UserId) : Prop :=
  call.callerId = userId ∨ call.calleeId = userId

instance (call : Call) (userId : UserId) : Decidable (call.involves userId) :=
  inferInstanceAs (Decidable (_ ∨ _))

def endFrom : List CallStatus := [.accepted, .connected]

namespace Operation

/-- What an operation does with the row that it has read. -/
def decide (now : Int) (call : Call) : Operation → Decision
  | .accept userId =>
      if ¬call.involves userId then .leave
      else if call.calleeId ≠ userId then .leave
      else if call.status = .accepted ∨ call.status = .connected then .leave
      else if call.status ≠ .ringing then .leave
      else .update [.ringing] (.accepted now)
  | .reject userId =>
      if ¬call.involves userId ∨ call.calleeId ≠ userId ∨ call.status ≠ .ringing then .leave
      else
        .update [.ringing] (.terminated
          { status := .rejected, endReason := .declined, endedBy := some userId } now)
  | .cancel userId =>
      if ¬call.involves userId ∨ call.callerId ≠ userId ∨ call.status ≠ .ringing then .leave
      else
        .update [.ringing] (.terminated
          { status := .cancelled, endReason := .cancelled, endedBy := some userId } now)
  | .markConnected userId =>
      if ¬call.involves userId then .leave
      else if call.status = .connected then .leave
      else if call.status ≠ .accepted then .leave
      else .update [.accepted] (.connected now)
  | .endCall userId =>
      if ¬call.involves userId then .leave
      else if isTerminal call.status then .leave
      else if call.status = .ringing then
        .route (if call.callerId = userId then .cancel userId else .reject userId)
      else
        .update endFrom (.terminated
          { status := .ended
            endReason := .hangup
            endedBy := some userId
            durationSeconds := durationOf call.connectedAt now } now)
  | .fail userId reason =>
      if ¬call.involves userId then .leave
      else if isTerminal call.status then .leave
      else
        .update (.ringing :: endFrom) (.terminated
          { status := .failed
            endReason := reason
            endedBy := some userId
            durationSeconds := durationOf call.connectedAt now } now)
  | .expireRinging =>
      .update [.ringing] (.terminated { status := .missed, endReason := .timeout } now)
  | .expireConnecting =>
      .update [.accepted] (.terminated { status := .failed, endReason := .network } now)
  | .expireConnected =>
      if call.status ≠ .connected then .leave
      else
        .update [.connected] (.terminated
          { status := .ended
            endReason := .hangup
            durationSeconds := durationOf call.connectedAt now } now)

/-- The operation reads the row before it decides. -/
def reads : Operation → Bool
  | .expireRinging | .expireConnecting => false
  | _ => true

/-- What is published of the row as it was left. -/
def event (call : Call) : Operation → CallEvent
  | .accept userId => .accepted userId
  | .reject userId => .rejected userId
  | .cancel userId => .cancelled userId
  | .markConnected _ => .connected
  | .endCall userId => .ended (some userId) call.durationSeconds
  | .fail _ _ => .failed
  | .expireRinging => .missed
  | .expireConnecting => .failed
  | .expireConnected => .ended none call.durationSeconds

def outcome : Operation → Option CallStatus
  | .accept _ | .markConnected _ => none
  | .reject _ => some .rejected
  | .cancel _ => some .cancelled
  | .endCall _ | .expireConnected => some .ended
  | .fail _ _ | .expireConnecting => some .failed
  | .expireRinging => some .missed

end Operation

/-! ### One step of an operation -/

/-- Where an operation stands.  What is read for an answer alone is left out. -/
inductive Point where
  | reading (operation : Operation)
  | deciding (operation : Operation) (call : Call)
  | updating (operation : Operation) (call : Call) (decidedAt : Int) (source : List CallStatus)
      (change : Change)
  | settling (operation : Operation)
  | publishing (event : CallEvent)
  | finished
  deriving DecidableEq, Repr

def Operation.begin (row : Call) (operation : Operation) : Point :=
  if operation.reads then .reading operation else .deciding operation row

structure Turn where
  row : Call
  point : Point
  published : Option CallEvent := none

namespace Point

def goOn (row : Call) (now : Int) : Point → Turn
  | .reading operation => { row := row, point := .deciding operation row }
  | .deciding operation call =>
      match operation.decide now call with
      | .leave => { row := row, point := .finished }
      | .route other => { row := row, point := .reading other }
      | .update source change =>
          { row := row, point := .updating operation call now source change }
  | .updating operation _ _ source change =>
      match row.transition source change with
      | none => { row := row, point := .finished }
      | some after => { row := after, point := .settling operation }
  | .settling operation => { row := row, point := .publishing (operation.event row) }
  | .publishing event => { row := row, point := .finished, published := some event }
  | .finished => { row := row, point := .finished }

end Point

/-! ### What an operation asks for -/

section Attempts

variable {row read : Call} {operation : Operation} {source : List CallStatus} {change : Change}
  {now : Int}

/-- What an operation asks for after a read. -/
def Operation.Attempts (operation : Operation) (read : Call) (decidedAt : Int)
    (source : List CallStatus) : Change → Prop
  | .accepted _ => operation.outcome = none ∧ source = [.ringing]
  | .connected _ => operation.outcome = none ∧ source = [.accepted]
  | .terminated input _ =>
      operation.outcome = some input.status ∧ (∀ status ∈ source, isTerminal status = false) ∧
        (input.durationSeconds = durationOf read.connectedAt decidedAt ∨
          .connected ∉ source ∧ input.durationSeconds = 0)

theorem isTerminal_of_outcome {status : CallStatus} (isOutcome : operation.outcome = some status) :
    isTerminal status = true := by
  unfold Operation.outcome at isOutcome
  split at isOutcome
  · cases isOutcome
  · cases isOutcome
  all_goals
    obtain rfl := Option.some.inj isOutcome
    rfl

theorem outcome_event : (operation.event row).outcome = operation.outcome := by
  cases operation <;> rfl

theorem attempts_of_decide (isUpdate : operation.decide now read = .update source change) :
    operation.Attempts read now source change := by
  unfold Operation.decide at isUpdate
  cases operation with
  | accept userId =>
      dsimp only at isUpdate
      split_ifs at isUpdate
      obtain ⟨rfl, rfl⟩ := Decision.update.inj isUpdate
      exact ⟨rfl, rfl⟩
  | markConnected userId =>
      dsimp only at isUpdate
      split_ifs at isUpdate
      obtain ⟨rfl, rfl⟩ := Decision.update.inj isUpdate
      exact ⟨rfl, rfl⟩
  | reject userId =>
      dsimp only at isUpdate
      split_ifs at isUpdate
      obtain ⟨rfl, rfl⟩ := Decision.update.inj isUpdate
      exact ⟨rfl, by decide, .inr ⟨by decide, rfl⟩⟩
  | cancel userId =>
      dsimp only at isUpdate
      split_ifs at isUpdate
      obtain ⟨rfl, rfl⟩ := Decision.update.inj isUpdate
      exact ⟨rfl, by decide, .inr ⟨by decide, rfl⟩⟩
  | endCall userId =>
      dsimp only at isUpdate
      split_ifs at isUpdate
      obtain ⟨rfl, rfl⟩ := Decision.update.inj isUpdate
      exact ⟨rfl, by decide, .inl rfl⟩
  | fail userId reason =>
      dsimp only at isUpdate
      split_ifs at isUpdate
      obtain ⟨rfl, rfl⟩ := Decision.update.inj isUpdate
      exact ⟨rfl, by decide, .inl rfl⟩
  | expireRinging =>
      obtain ⟨rfl, rfl⟩ := Decision.update.inj isUpdate
      exact ⟨rfl, by decide, .inr ⟨by decide, rfl⟩⟩
  | expireConnecting =>
      obtain ⟨rfl, rfl⟩ := Decision.update.inj isUpdate
      exact ⟨rfl, by decide, .inr ⟨by decide, rfl⟩⟩
  | expireConnected =>
      dsimp only at isUpdate
      split_ifs at isUpdate
      obtain ⟨rfl, rfl⟩ := Decision.update.inj isUpdate
      exact ⟨rfl, by decide, .inl rfl⟩

theorem Operation.Attempts.live {decidedAt : Int}
    (attempts : operation.Attempts read decidedAt source change) :
    ∀ status ∈ source, isTerminal status = false := by
  cases change with
  | accepted acceptedAt =>
      obtain ⟨-, rfl⟩ := attempts
      decide
  | connected connectedAt =>
      obtain ⟨-, rfl⟩ := attempts
      decide
  | terminated input endedAt => exact attempts.2.1

end Attempts

end Soulzaa.Calls
