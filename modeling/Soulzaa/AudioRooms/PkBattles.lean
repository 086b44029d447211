/-
PkBattleService handleGift, complete, completeExpired and cancel, on one battle.

A gift and a completion hold the battle's lock from their check of the status to their
end.  The manager's cancellation holds none, and writes the row by its id.
-/

import Soulzaa.Lib.Interleaving
import Soulzaa.Lib.KeyedRows
import Soulzaa.Lib.Runs
import Soulzaa.Wallet.Movement

namespace Soulzaa.AudioRooms.PkBattles

open Interleaving

inductive PkStatus where
  | active
  | completed
  | cancelled
  deriving DecidableEq, Repr

inductive PkSide where
  | red
  | blue
  deriving DecidableEq, Repr

inductive PkResult where
  | red
  | blue
  | draw
  deriving DecidableEq, Repr

structure PkBattle where
  status : PkStatus := .active
  redScore : Int := 0
  blueScore : Int := 0
  result : Option PkResult := none
  endsAt : Nat
  deriving DecidableEq, Repr

structure PkParticipant where
  userId : UserId
  side : PkSide
  score : Int := 0
  deriving DecidableEq, Repr

structure PkContribution where
  participantId : UserId
  side : PkSide
  amount : Int
  giftTxnId : Option String
  deriving DecidableEq, Repr

structure PkReward where
  userId : UserId
  side : PkSide
  deriving DecidableEq, Repr

structure Store where
  battle : PkBattle
  participants : List PkParticipant
  contributions : List PkContribution := []
  /-- By the battle and the user, which is the key of the grant. -/
  badges : List UserId := []
  rewards : List PkReward := []
  /-- The users as they gain a point on the leaderboard of wins. -/
  wins : List UserId := []
  deriving DecidableEq, Repr

/-- What the listener hands on of a gift. -/
structure Gift where
  receiverId : UserId
  amount : Int
  giftTxnId : Option String
  deriving DecidableEq, Repr

def PkBattle.score (battle : PkBattle) : PkSide → Int
  | .red => battle.redScore
  | .blue => battle.blueScore

def PkBattle.addScore (battle : PkBattle) (side : PkSide) (amount : Int) : PkBattle :=
  match side with
  | .red => { battle with redScore := battle.redScore + amount }
  | .blue => { battle with blueScore := battle.blueScore + amount }

/-- The result as the scores have it. -/
def PkBattle.outcome (battle : PkBattle) : PkResult :=
  if battle.redScore > battle.blueScore then .red
  else if battle.blueScore > battle.redScore then .blue
  else .draw

def PkResult.winningSide : PkResult → Option PkSide
  | .red => some .red
  | .blue => some .blue
  | .draw => none

namespace Store

def findParticipant (store : Store) (userId : UserId) : Option PkParticipant :=
  KeyedRows.find PkParticipant.userId userId store.participants

def addToScore (amount : Int) (participant : PkParticipant) : PkParticipant :=
  { participant with score := participant.score + amount }

def applyContribution (store : Store) (gift : Gift) (side : PkSide) : Store :=
  { store with
    participants := KeyedRows.update PkParticipant.userId gift.receiverId (addToScore gift.amount)
      store.participants
    battle := store.battle.addScore side gift.amount
    contributions := store.contributions ++
      [{ participantId := gift.receiverId
         side := side
         amount := gift.amount
         giftTxnId := gift.giftTxnId }] }

/-- Whatever the status was. -/
def complete (store : Store) (result : PkResult) : Store :=
  { store with
    battle :=
      { store.battle with
        status := .completed
        result := some result } }

/-- Whatever the status was. -/
def cancel (store : Store) : Store :=
  { store with battle := { store.battle with status := .cancelled } }

/-- A key that was granted is not granted again. -/
def grantToUser (store : Store) (userId : UserId) : Store :=
  if userId ∈ store.badges then store else { store with badges := store.badges ++ [userId] }

def createReward (store : Store) (userId : UserId) (side : PkSide) : Store :=
  { store with
    rewards := store.rewards ++
      [{ userId := userId
         side := side }] }

def addScore (store : Store) (userId : UserId) : Store :=
  { store with wins := store.wins ++ [userId] }

def members (store : Store) (side : PkSide) : List UserId :=
  (store.participants.filter fun participant => participant.side = side).map PkParticipant.userId

end Store

/-! ### Calls -/

inductive LockKey where
  | pkBattle
  deriving DecidableEq, Repr

/-- What a call awaits. -/
inductive Call where
  -- `handleGift`
  | gettingActive (gift : Gift)
  | lockingGift (gift : Gift)
  | gettingBattle (gift : Gift)
  | findingParticipant (gift : Gift)
  | applying (gift : Gift) (side : PkSide)
  -- `completeExpired` and `complete`
  | findingExpired (now : Nat)
  | lockingBattle
  | gettingFresh
  | completing (result : PkResult)
  | listingParticipants (result : PkResult)
  | findingBadge (side : PkSide) (winners : List UserId)
  | granting (side : PkSide) (rest : List UserId)
  | rewarding (side : PkSide) (userId : UserId) (rest : List UserId)
  | scoring (side : PkSide) (userId : UserId) (rest : List UserId)
  -- of both, with the lock
  | publishing
  -- `cancel`
  | gettingActiveToCancel
  | cancelling
  | ended
  deriving DecidableEq, Repr

namespace Call

def locks : Call → List LockKey
  | .gettingBattle _ => [.pkBattle]
  | .findingParticipant _ => [.pkBattle]
  | .applying _ _ => [.pkBattle]
  | .gettingFresh => [.pkBattle]
  | .completing _ => [.pkBattle]
  | .listingParticipants _ => [.pkBattle]
  | .findingBadge _ _ => [.pkBattle]
  | .granting _ _ => [.pkBattle]
  | .rewarding _ _ _ => [.pkBattle]
  | .scoring _ _ _ => [.pkBattle]
  | .publishing => [.pkBattle]
  | _ => []

def awaits : Call → Option LockKey
  | .lockingGift _ => some .pkBattle
  | .lockingBattle => some .pkBattle
  | _ => none

/-- The loop over the winners, at its head. -/
def rewardingNext (side : PkSide) : List UserId → Call
  | [] => .publishing
  | userId :: rest => .granting side (userId :: rest)

/-- A call goes on once what it awaits has come back, or once it has its lock. -/
def advance (store : Store) : Call → Store × Call
  | .gettingActive gift =>
      (store, if store.battle.status = .active then .lockingGift gift else .ended)
  | .lockingGift gift => (store, .gettingBattle gift)
  | .gettingBattle gift =>
      (store, if store.battle.status ≠ .active then .ended else .findingParticipant gift)
  | .findingParticipant gift =>
      (store,
        match store.findParticipant gift.receiverId with
        | none => .ended
        | some participant => .applying gift participant.side)
  | .applying gift side => (store.applyContribution gift side, .publishing)
  | .findingExpired now =>
      (store,
        if store.battle.status = .active ∧ store.battle.endsAt ≤ now then .lockingBattle
        else .ended)
  | .lockingBattle => (store, .gettingFresh)
  | .gettingFresh =>
      (store,
        if store.battle.status ≠ .active then .ended else .completing store.battle.outcome)
  | .completing result => (store.complete result, .listingParticipants result)
  | .listingParticipants result =>
      (store,
        match result.winningSide with
        | none => .publishing
        | some side => .findingBadge side (store.members side))
  | .findingBadge side winners => (store, rewardingNext side winners)
  | .granting side rest =>
      match rest with
      | [] => (store, .publishing)
      | userId :: rest => (store.grantToUser userId, .rewarding side userId rest)
  | .rewarding side userId rest => (store.createReward userId side, .scoring side userId rest)
  | .scoring side userId rest => (store.addScore userId, rewardingNext side rest)
  | .publishing => (store, .ended)
  | .gettingActiveToCancel =>
      (store, if store.battle.status = .active then .cancelling else .ended)
  | .cancelling => (store.cancel, .ended)
  | .ended => (store, .ended)

end Call

/-! ### Runs -/

structure World where
  store : Store
  calls : List Call := []

inductive Event where
  | handleGift (gift : Gift)
  | complete
  | completeExpired (now : Nat)
  /-- Of a manager. -/
  | cancel
  | resume (position : Nat)
  /-- The await rejects, or the process ends. -/
  | fails (position : Nat)
  deriving DecidableEq, Repr

namespace World

def spawn (world : World) (call : Call) : World :=
  { world with calls := world.calls ++ [call] }

def Blocked (world : World) (call : Call) : Prop :=
  ∃ key ∈ call.awaits, ¬Free Call.locks world.calls key

instance (world : World) (call : Call) : Decidable (world.Blocked call) :=
  inferInstanceAs (Decidable (∃ key ∈ call.awaits, _))

def resume (world : World) (position : Nat) (call : Call) : World :=
  if world.Blocked call then world
  else
    { store := (call.advance world.store).1
      calls := world.calls.set position (call.advance world.store).2 }

def step (world : World) : Event → World
  | .handleGift gift => if gift.amount ≤ 0 then world else world.spawn (.gettingActive gift)
  | .complete => world.spawn .lockingBattle
  | .completeExpired now => world.spawn (.findingExpired now)
  | .cancel => world.spawn .gettingActiveToCancel
  | .resume position =>
      match world.calls[position]? with
      | none => world
      | some call => world.resume position call
  | .fails position => { world with calls := world.calls.set position .ended }

end World

end Soulzaa.AudioRooms.PkBattles
