/-
VideoRoomPkInvitationService and the commands of VideoRoomPkService that answer, cancel and
start a challenge, on one battle and its invitations.

What a command wrote before it throws stays written.
-/

import Soulzaa.VideoRooms.PkStatus
import Mathlib.Data.List.Sort

namespace Soulzaa.VideoRooms

inductive VideoRoomPkInvitationStatus where
  | sent
  | delivered
  | accepted
  | rejected
  | cancelled
  | expired
  deriving DecidableEq, Repr

def isActionable (status : VideoRoomPkInvitationStatus) : Bool :=
  status = .sent || status = .delivered

structure VideoRoomPkInvitation where
  id : String
  inviteeUserId : UserId
  side : VideoRoomPkSide
  status : VideoRoomPkInvitationStatus := .sent
  attempt : Nat := 1
  expiresAt : Nat
  deliveredAt : Option Nat := none
  respondedAt : Option Nat := none
  deriving DecidableEq, Repr

/-- One battle, as its invitations see it. -/
structure Challenge where
  status : VideoRoomPkStatus
  invitations : List VideoRoomPkInvitation
  cancelledAt : Option Nat := none
  failureReason : Option String := none
  deriving DecidableEq, Repr

/-- An invitee, and the row that is sent out. -/
structure Invitee where
  id : String
  userId : UserId
  deriving DecidableEq, Repr

def send (invitees : List Invitee) (side : VideoRoomPkSide) (expiresAt : Nat) :
    List VideoRoomPkInvitation :=
  invitees.map fun invitee =>
    { id := invitee.id
      inviteeUserId := invitee.userId
      side := side
      expiresAt := expiresAt }

/-- Every invitee has a row before the battle is INVITED. -/
def invite (red blue : List Invitee) (expiresAt : Nat) : Challenge where
  status := .invited
  invitations := send red .red expiresAt ++ send blue .blue expiresAt

namespace Challenge

/-! ### Rows -/

/-- The latest attempt that is still to be answered. -/
def findActionable (battle : Challenge) (inviteeUserId : UserId) : Option VideoRoomPkInvitation :=
  ((battle.invitations.filter fun row =>
    row.inviteeUserId = inviteeUserId && isActionable row.status).insertionSort
      fun one two => two.attempt ≤ one.attempt).head?

/-- None where no row is in that status any more. -/
def updateStatus (battle : Challenge) (id : String) (source : VideoRoomPkInvitationStatus)
    (patch : VideoRoomPkInvitation → VideoRoomPkInvitation) : Option Challenge :=
  if battle.invitations.any fun row => row.id = id && row.status = source then
    some
      { battle with
        invitations := battle.invitations.map fun row =>
          if row.id = id ∧ row.status = source then patch row else row }
  else none

def respond (target : VideoRoomPkInvitationStatus) (now : Nat) (row : VideoRoomPkInvitation) :
    VideoRoomPkInvitation :=
  { row with
    status := target
    respondedAt := some now }

def outstanding (battle : Challenge) : Bool :=
  battle.invitations.any fun row => isActionable row.status

/-- An update of the battle's row that expects the status read before. -/
def transition (battle : Challenge) (source target : VideoRoomPkStatus)
    (patch : Challenge → Challenge) : Challenge × Option PkError :=
  match assertTransition source target with
  | some error => (battle, some error)
  | none =>
      if battle.status = source then ({ patch battle with status := target }, none)
      else (battle, some .raced)

/-! ### Answers -/

def markDelivered (battle : Challenge) (userId : UserId) (now : Nat) : Challenge × Option PkError :=
  let delivered :=
    match battle.findActionable userId with
    | none => battle
    | some invitation =>
        if invitation.status = .sent then
          (battle.updateStatus invitation.id .sent fun row =>
            { row with
              status := .delivered
              deliveredAt := some now }).getD battle
        else battle
  if battle.status = .invited then delivered.transition .invited .pending id
  else (delivered, none)

/-- A battle named by its id is found in every status, the room's current one before its end. -/
def resolveBattle (battle : Challenge) (byId : Bool) : Option Challenge :=
  if byId || !isPkTerminal battle.status then some battle else none

/-- The answer of an invitee, and where nothing is outstanding the status that follows. -/
def answer (battle : Challenge) (actorId : UserId) (byId : Bool) (now : Nat)
    (target : VideoRoomPkInvitationStatus) (last : VideoRoomPkStatus)
    (patch : Challenge → Challenge) : Challenge × Option PkError :=
  match battle.resolveBattle byId with
  | none => (battle, some .notFound)
  | some found =>
      match found.findActionable actorId with
      | none => (battle, some .forbidden)
      | some invitation =>
          match found.updateStatus invitation.id invitation.status (respond target now) with
          | none => (battle, none)
          | some updated =>
              if updated.outstanding then (updated, none)
              else updated.transition battle.status last patch

def accept (battle : Challenge) (actorId : UserId) (byId : Bool) (now : Nat) :
    Challenge × Option PkError :=
  battle.answer actorId byId now .accepted .accepted id

def reject (battle : Challenge) (actorId : UserId) (byId : Bool) (now : Nat) :
    Challenge × Option PkError :=
  battle.answer actorId byId now .rejected .cancelled fun battle =>
    { battle with
      cancelledAt := some now
      failureReason := some "A PK invitation was rejected and no invitee remains outstanding." }

/-! ### Cancelling, expiry, start -/

/-- Row by row, and whether any row was still as it was read. -/
def updateEach (target : VideoRoomPkInvitationStatus) (now : Nat) :
    List VideoRoomPkInvitation → Challenge → Challenge × Bool
  | [], battle => (battle, false)
  | row :: rest, battle =>
      match battle.updateStatus row.id row.status (respond target now) with
      | none => updateEach target now rest battle
      | some updated => ((updateEach target now rest updated).1, true)

def cancelAll (battle : Challenge) (now : Nat) : Challenge :=
  (updateEach .cancelled now (battle.invitations.filter fun row => isActionable row.status)
    battle).1

def cancel (battle : Challenge) (reason : String) (now : Nat) : Challenge × Option PkError :=
  match battle.resolveBattle false with
  | none => (battle, some .notFound)
  | some found =>
      (found.cancelAll now).transition found.status .cancelled fun battle =>
        { battle with
          cancelledAt := some now
          failureReason := some reason }

/-- The rows of this battle that are overdue and on the page the sweep has read. -/
def findExpired (battle : Challenge) (now : Nat) (page : List String) :
    List VideoRoomPkInvitation :=
  battle.invitations.filter fun row =>
    isActionable row.status && row.expiresAt ≤ now && row.id ∈ page

def expireDue (battle : Challenge) (now : Nat) (page : List String) : Challenge :=
  let expired := updateEach .expired now (battle.findExpired now page) battle
  let patch := fun battle : Challenge =>
    { battle with
      cancelledAt := some now
      failureReason := some "All outstanding PK invitations expired." }
  if expired.2 = false || expired.1.outstanding then expired.1
  else
    match expired.1.transition .invited .cancelled patch with
    | (cancelled, none) => cancelled
    | (stays, some _) => (stays.transition .pending .cancelled patch).1

def start (battle : Challenge) : Challenge × Option PkError :=
  match battle.resolveBattle false with
  | none => (battle, some .notFound)
  | some found =>
      if found.status ≠ .accepted then (battle, some .cannotStart)
      else found.transition .accepted .countdown id

end Challenge

inductive Call where
  | markDelivered (userId : UserId) (now : Nat)
  | accept (actorId : UserId) (byId : Bool) (now : Nat)
  | reject (actorId : UserId) (byId : Bool) (now : Nat)
  | cancel (reason : String) (now : Nat)
  | expireDue (now : Nat) (page : List String)
  | start
  deriving DecidableEq, Repr

def Challenge.step (battle : Challenge) : Call → Challenge
  | .markDelivered userId now => (battle.markDelivered userId now).1
  | .accept actorId byId now => (battle.accept actorId byId now).1
  | .reject actorId byId now => (battle.reject actorId byId now).1
  | .cancel reason now => (battle.cancel reason now).1
  | .expireDue now page => battle.expireDue now page
  | .start => battle.start.1

end Soulzaa.VideoRooms
