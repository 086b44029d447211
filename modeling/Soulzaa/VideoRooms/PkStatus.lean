/-
The status of a video PK battle: the declared table of transitions, and the conditional
update that makes one.
-/

import Mathlib.Data.List.Basic

namespace Soulzaa.VideoRooms

abbrev UserId := String

inductive VideoRoomPkStatus where
  | created
  | invited
  | pending
  | accepted
  | countdown
  | live
  | paused
  | recovering
  | completed
  | cancelled
  | failed
  deriving DecidableEq, Repr

def videoRoomPkTransitions : VideoRoomPkStatus → List VideoRoomPkStatus
  | .created => [.invited, .cancelled, .failed]
  | .invited => [.pending, .accepted, .cancelled, .failed]
  | .pending => [.accepted, .cancelled, .failed]
  | .accepted => [.countdown, .cancelled, .failed]
  | .countdown => [.live, .cancelled, .failed]
  | .live => [.paused, .recovering, .completed, .cancelled, .failed]
  | .paused => [.live, .completed, .cancelled, .failed]
  | .recovering => [.live, .completed, .cancelled, .failed]
  | .completed => []
  | .cancelled => []
  | .failed => []

def isPkTerminal (status : VideoRoomPkStatus) : Bool :=
  status = .completed || status = .cancelled || status = .failed

theorem terminal_iff_no_transition {status : VideoRoomPkStatus} :
    isPkTerminal status = true ↔ videoRoomPkTransitions status = [] := by
  cases status <;> decide

inductive VideoRoomPkSide where
  | red
  | blue
  deriving DecidableEq, Repr

inductive PkError where
  | notFound
  | forbidden
  | finished
  | cannotMove
  | raced
  | cannotStart
  deriving DecidableEq, Repr

def assertTransition (source target : VideoRoomPkStatus) : Option PkError :=
  if target ∈ videoRoomPkTransitions source then none
  else if isPkTerminal source then some .finished
  else some .cannotMove

end Soulzaa.VideoRooms
