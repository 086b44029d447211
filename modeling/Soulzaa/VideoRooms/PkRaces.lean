/-
Gifts, refunds and settlements of one battle, side by side.

Each statement of a transaction is a step.  A statement sees what is committed and what its own
transaction has written, and an update waits for the transaction that has written its row.
-/

import Soulzaa.Lib.Interleaving
import Soulzaa.VideoRooms.PkScoring
import Soulzaa.VideoRooms.PkSettlement

namespace Soulzaa.VideoRooms.PkRaces

/-- What is committed. -/
structure Store where
  status : VideoRoomPkStatus
  winningTeamId : Option TeamId := none
  isDraw : Bool := false
  teams : List VideoRoomPkTeam
  participants : List VideoRoomPkParticipant
  contributions : List VideoRoomPkContribution := []
  settlements : Nat := 0
  deriving DecidableEq, Repr

/-- What a transaction has written and not committed. -/
structure Writes where
  teams : List VideoRoomPkTeam := []
  participants : List VideoRoomPkParticipant := []
  rows : List VideoRoomPkContribution := []
  deriving DecidableEq, Repr

/-- Where in a leg a transaction stands, with the attempts it has lost. -/
inductive Point where
  | readTeam (lost : Nat)
  | casTeam (lost : Nat) (seen : Int)
  | readParticipant (lost : Nat)
  | casParticipant (lost : Nat) (seen : Int)
  | insert
  deriving DecidableEq, Repr

inductive Call where
  | findingLive (input : PkScoringInput) (multiplierBps : ParticipantId → Int)
  | findingCurrent (giftTxnId : String)
  | scoring (refund : Bool) (legs : List VideoRoomPkContribution) (point : Point) (writes : Writes)
  | gettingBattle
  | transitioning (seen : VideoRoomPkStatus)
  | listingTeams
  | paying (teams : List VideoRoomPkTeam)
  | ended

structure World where
  store : Store
  calls : List Call := []

inductive Event where
  | send (input : PkScoringInput) (multiplierBps : ParticipantId → Int)
  | refund (giftTxnId : String)
  | settle
  | resume (position : Nat)
  | commit (position : Nat)
  | rollBack (position : Nat)
  /-- Something is thrown in a gift or a refund, and swallowed there. -/
  | swallow (position : Nat)

/-! ### Rows and locks -/

def Store.board (store : Store) : PkBoard where
  status := store.status
  teams := store.teams
  participants := store.participants
  contributions := store.contributions

def Store.team (store : Store) (writes : Writes) (id : TeamId) : Option VideoRoomPkTeam :=
  (KeyedRows.find VideoRoomPkTeam.id id writes.teams).or
    (KeyedRows.find VideoRoomPkTeam.id id store.teams)

def Store.participant (store : Store) (writes : Writes) (id : ParticipantId) :
    Option VideoRoomPkParticipant :=
  (KeyedRows.find VideoRoomPkParticipant.id id writes.participants).or
    (KeyedRows.find VideoRoomPkParticipant.id id store.participants)

/-- The last version of a row, first. -/
def Writes.setTeam (writes : Writes) (team : VideoRoomPkTeam) : Writes :=
  { writes with teams := team :: writes.teams }

def Writes.setParticipant (writes : Writes) (participant : VideoRoomPkParticipant) : Writes :=
  { writes with participants := participant :: writes.participants }

namespace Call

def writesTeam (id : TeamId) : Call → Bool
  | .scoring _ _ _ writes => writes.teams.any fun team => team.id = id
  | _ => false

def writesParticipant (id : ParticipantId) : Call → Bool
  | .scoring _ _ _ writes => writes.participants.any fun participant => participant.id = id
  | _ => false

def writesRow (row : VideoRoomPkContribution) : Call → Bool
  | .scoring _ _ _ writes =>
      writes.rows.any fun other =>
        other.giftTxnId = row.giftTxnId && other.participantId = row.participantId
  | _ => false

/-- The battle's own row is written and not committed. -/
def holdsBattle : Call → Bool
  | .listingTeams => true
  | .paying _ => true
  | _ => false

end Call

/-! ### Statements -/

/-- The first leg's next statement.  A gift goes on where its participant's update is lost,
and a refund is rolled back. -/
def Store.leg (store : Store) (others : List Call) (refund : Bool) (row : VideoRoomPkContribution)
    (rest : List VideoRoomPkContribution) (point : Point) (writes : Writes) : Call :=
  match point with
  | .readTeam lost =>
      match store.team writes row.teamId with
      | none => .scoring refund rest (.readTeam 0) writes
      | some team => .scoring refund (row :: rest) (.casTeam lost team.score) writes
  | .casTeam lost seen =>
      if others.any (Call.writesTeam row.teamId) then .scoring refund (row :: rest) point writes
      else
        match (store.team writes row.teamId).filter fun team => team.score = seen with
        | some team =>
            .scoring refund (row :: rest) (.readParticipant 0)
              (writes.setTeam (addTeamScore row.scoredAmount team))
        | none =>
            if lost + 1 < maxCasRetries then
              .scoring refund (row :: rest) (.readTeam (lost + 1)) writes
            else .scoring refund rest (.readTeam 0) writes
  | .readParticipant lost =>
      match store.participant writes row.participantId with
      | none => if refund then .ended else .scoring refund (row :: rest) .insert writes
      | some participant =>
          .scoring refund (row :: rest) (.casParticipant lost participant.score) writes
  | .casParticipant lost seen =>
      if others.any (Call.writesParticipant row.participantId) then
        .scoring refund (row :: rest) point writes
      else
        match (store.participant writes row.participantId).filter fun participant =>
            participant.score = seen with
        | some participant =>
            .scoring refund (row :: rest) .insert
              (writes.setParticipant (addParticipantScore row.scoredAmount participant))
        | none =>
            if lost + 1 < maxCasRetries then
              .scoring refund (row :: rest) (.readParticipant (lost + 1)) writes
            else if refund then .ended
            else .scoring refund (row :: rest) .insert writes
  | .insert =>
      if others.any (Call.writesRow row) then .scoring refund (row :: rest) point writes
      else if (store.contributions ++ writes.rows).any fun other =>
          other.giftTxnId = row.giftTxnId && other.participantId = row.participantId then .ended
      else .scoring refund rest (.readTeam 0) { writes with rows := writes.rows ++ [row] }

def Store.next (store : Store) (others : List Call) : Call → Call
  | .findingLive input multiplierBps =>
      .scoring false
        ((store.board.legs input fun id => { multiplierBps := multiplierBps id }).map Prod.fst)
        (.readTeam 0) {}
  | .findingCurrent giftTxnId =>
      .scoring true ((store.board.reversalLegs giftTxnId fun _ => {}).map Prod.fst) (.readTeam 0) {}
  | .scoring refund (row :: rest) point writes => store.leg others refund row rest point writes
  | .gettingBattle => if isPkTerminal store.status then .ended else .transitioning store.status
  | .transitioning seen =>
      if (assertTransition seen .completed).isSome then .ended
      else if others.any Call.holdsBattle then .transitioning seen
      else if store.status = seen then .listingTeams
      else .ended
  | .listingTeams => if store.teams = [] then .ended else .paying store.teams
  | call => call

/-! ### Commits -/

def Store.write (store : Store) (writes : Writes) : Store :=
  { store with
    teams := store.teams.map fun team =>
      (KeyedRows.find VideoRoomPkTeam.id team.id writes.teams).getD team
    participants := store.participants.map fun participant =>
      (KeyedRows.find VideoRoomPkParticipant.id participant.id writes.participants).getD participant
    contributions := store.contributions ++ writes.rows }

/-- The result is that of the teams as they were read. -/
def Store.complete (store : Store) (teams : List VideoRoomPkTeam) : Store :=
  { store with
    status := .completed
    winningTeamId := (winningTeam teams).map VideoRoomPkTeam.id
    isDraw := VideoRooms.isDraw teams
    settlements := store.settlements + 1 }

/-- A transaction commits after its last statement. -/
def Store.commit (store : Store) : Call → Option Store
  | .scoring _ [] _ writes => some (store.write writes)
  | .paying teams => some (store.complete teams)
  | _ => none

namespace World

def goOn (world : World) (position : Nat) (next : Call) : World :=
  { world with calls := world.calls.set position next }

def step (world : World) : Event → World
  | .send input multiplierBps =>
      { world with calls := world.calls ++ [.findingLive input multiplierBps] }
  | .refund giftTxnId => { world with calls := world.calls ++ [.findingCurrent giftTxnId] }
  | .settle => { world with calls := world.calls ++ [.gettingBattle] }
  | .resume position =>
      match world.calls[position]? with
      | none => world
      | some call =>
          world.goOn position (world.store.next (world.calls.eraseIdx position) call)
  | .commit position =>
      match world.calls[position]? with
      | none => world
      | some call =>
          match world.store.commit call with
          | none => world
          | some store => { world.goOn position .ended with store := store }
  | .rollBack position => world.goOn position .ended
  | .swallow position =>
      match world.calls[position]? with
      | some (.scoring refund _ point writes) =>
          world.goOn position (.scoring refund [] point writes)
      | _ => world

end World

end Soulzaa.VideoRooms.PkRaces
