/-
VideoRoomPkSettlementService.settle on one battle: the winner, the shares of the pool and the
payouts, in one transaction.

A unique key that is hit aborts the transaction, whatever the code does with the error.
-/

import Mathlib.Data.List.Sort
import Mathlib.Data.Rat.Defs
import Soulzaa.Lib.Binary64
import Soulzaa.Lib.Portions
import Soulzaa.VideoRooms.PkRows

namespace Soulzaa.VideoRooms

open Portions

/-! ### The reward snapshot -/

inductive JsonNumber where
  | finite (value : Rat)
  | infinite (negative : Bool)
  deriving DecidableEq, Repr

inductive Json where
  | null
  | bool (value : Bool)
  | number (value : JsonNumber)
  | string (value : String)
  | array (values : List Json)
  | object (fields : List (String × Json))

def bpsDenominator : Int := 10000

/-- Without a fraction, and between nothing and the whole. -/
def clampBps : JsonNumber → Int
  | .infinite _ => 0
  | .finite value => min bpsDenominator (max 0 (value.num.tdiv value.den))

/-- What is not a number counts as nothing. -/
def Json.bps (raw : Json) (field : String) : Int :=
  match raw with
  | .object fields =>
      match fields.lookup field with
      | some (.number value) => clampBps value
      | _ => 0
  | _ => 0

structure PkRewardSnapshot where
  poolBps : Int
  winnerBps : Int
  participationBps : Int
  bonusBps : Int
  deriving DecidableEq, Repr

def toSafeRewardSnapshot (raw : Json) : PkRewardSnapshot :=
  let winnerBps := raw.bps "winnerBps"
  let participationBps := raw.bps "participationBps"
  let bonusBps := raw.bps "bonusBps"
  let splitSum := winnerBps + participationBps + bonusBps
  if bpsDenominator < splitSum then
    { poolBps := raw.bps "poolBps"
      winnerBps := portion splitSum bpsDenominator winnerBps
      participationBps := portion splitSum bpsDenominator participationBps
      bonusBps := portion splitSum bpsDenominator bonusBps }
  else
    { poolBps := raw.bps "poolBps"
      winnerBps := winnerBps
      participationBps := participationBps
      bonusBps := bonusBps }

/-! ### Rows -/

inductive VideoRoomPkRewardKind where
  | winner
  | participation
  | bonus
  deriving DecidableEq, Repr

structure VideoRoomPkRewardPool where
  sourceAmount : Int
  poolAmount : Int
  winnerBps : Int
  participationBps : Int
  bonusBps : Int
  allocatedAmount : Int := 0
  deriving DecidableEq, Repr

structure VideoRoomPkReward where
  userId : UserId
  teamId : Option TeamId
  side : Option VideoRoomPkSide
  kind : VideoRoomPkRewardKind
  amount : Int
  deriving DecidableEq, Repr

/-- A movement of the wallet, under the key of the battle, the user and the kind. -/
structure GoldCredit where
  userId : UserId
  kind : VideoRoomPkRewardKind
  amount : Int
  deriving DecidableEq, Repr

structure PkStore where
  status : VideoRoomPkStatus
  winningTeamId : Option TeamId := none
  isDraw : Bool := false
  rewardSnapshot : Json
  teams : List VideoRoomPkTeam
  participants : List VideoRoomPkParticipant
  contributions : List VideoRoomPkContribution
  pool : Option VideoRoomPkRewardPool := none
  rewards : List VideoRoomPkReward := []
  credits : List GoldCredit := []

/-! ### Who wins, and what there is to share -/

/-- The highest score first. -/
def ranked (teams : List VideoRoomPkTeam) : List VideoRoomPkTeam :=
  teams.insertionSort fun one two => two.score ≤ one.score

def isDraw (teams : List VideoRoomPkTeam) : Bool :=
  match ranked teams with
  | first :: second :: _ => first.score = second.score
  | _ => false

def winningTeam (teams : List VideoRoomPkTeam) : Option VideoRoomPkTeam :=
  if isDraw teams then none else (ranked teams).head?

def sumBaseAmount (contributions : List VideoRoomPkContribution) : Int :=
  (contributions.map VideoRoomPkContribution.baseAmount).sum

def sentBy (contributions : List VideoRoomPkContribution) (senderId : UserId) : Int :=
  sumBaseAmount (contributions.filter fun row => row.senderId = senderId)

/-- The sender of the most, the first of those that sent it. -/
def topContributor (contributions : List VideoRoomPkContribution) : Option UserId :=
  ((contributions.map VideoRoomPkContribution.senderId).insertionSort fun one two =>
    sentBy contributions two ≤ sentBy contributions one).head?

namespace PkStore

variable (store : PkStore)

def winners : List VideoRoomPkParticipant :=
  match winningTeam store.teams with
  | some team => store.participants.filter fun participant => participant.teamId = team.id
  | none => []

def snapshot : PkRewardSnapshot := toSafeRewardSnapshot store.rewardSnapshot

def sourceAmount : Int := sumBaseAmount store.contributions

def poolAmount : Int := portion bpsDenominator store.sourceAmount store.snapshot.poolBps

/-- A draw mints no share for a winner. -/
def winnerShare : Int :=
  if VideoRooms.isDraw store.teams then 0
  else portion bpsDenominator store.poolAmount store.snapshot.winnerBps

def participationShare : Int :=
  portion bpsDenominator store.poolAmount store.snapshot.participationBps

def bonusShare : Int := portion bpsDenominator store.poolAmount store.snapshot.bonusBps

end PkStore

/-! ### Payouts -/

/-- An amount as a number of the wallet's interface. -/
def asNumber (amount : Int) : Int := Binary64.round amount

namespace PkStore

/-- A wallet key that is there is answered without another movement. -/
def credit (store : PkStore) (userId : UserId) (kind : VideoRoomPkRewardKind) (amount : Int) :
    PkStore :=
  if store.credits.any fun posted => posted.userId = userId && posted.kind = kind then store
  else
    { store with
      credits := store.credits ++
        [{ userId := userId
           kind := kind
           amount := amount }] }

/-- None where the user has a reward of the kind already. -/
def payOne (store : PkStore) (reward : VideoRoomPkReward) : Option PkStore :=
  if store.rewards.any fun row => row.userId = reward.userId && row.kind = reward.kind then none
  else
    some
      ({ store with rewards := store.rewards ++ [reward] }.credit reward.userId reward.kind
        (asNumber reward.amount))

/-- Reward after reward, and what they come to. -/
def payEach : List VideoRoomPkReward → PkStore × Int → Option (PkStore × Int)
  | [], paid => some paid
  | reward :: rest, (store, allocated) =>
      match store.payOne reward with
      | none => none
      | some next => payEach rest (next, allocated + reward.amount)

end PkStore

/-- Equal rewards of one kind, where there is somebody and something to share. -/
def shareOut (recipients : List VideoRoomPkReward) (share : Int) : List VideoRoomPkReward :=
  if recipients.length > 0 ∧ share > 0 then
    let each := share.tdiv recipients.length
    if each > 0 then recipients.map fun recipient => { recipient with amount := each } else []
  else []

def rewardOf (kind : VideoRoomPkRewardKind) (participant : VideoRoomPkParticipant) :
    VideoRoomPkReward where
  userId := participant.userId
  teamId := some participant.teamId
  side := some participant.side
  kind := kind
  amount := 0

def bonusOf (userId : UserId) : VideoRoomPkReward where
  userId := userId
  teamId := none
  side := none
  kind := .bonus
  amount := 0

namespace PkStore

def winnerRewards (store : PkStore) : List VideoRoomPkReward :=
  shareOut (store.winners.map (rewardOf .winner)) store.winnerShare

def participationRewards (store : PkStore) : List VideoRoomPkReward :=
  shareOut (store.participants.map (rewardOf .participation)) store.participationShare

def bonusRewards (store : PkStore) : List VideoRoomPkReward :=
  shareOut ((topContributor store.contributions).toList.map bonusOf) store.bonusShare

def createPool (store : PkStore) : Option PkStore :=
  if store.pool.isSome then none
  else
    some
      { store with
        pool :=
          some
            { sourceAmount := store.sourceAmount
              poolAmount := store.poolAmount
              winnerBps := store.snapshot.winnerBps
              participationBps := store.snapshot.participationBps
              bonusBps := store.snapshot.bonusBps } }

def addAllocated (store : PkStore) (amount : Int) : PkStore :=
  { store with
    pool := store.pool.map fun pool =>
      { pool with allocatedAmount := pool.allocatedAmount + amount } }

/-- None where it throws, and the store as it was where another call has moved the battle. -/
def settleTx (store : PkStore) (seen : VideoRoomPkStatus) : Option PkStore :=
  if (assertTransition seen .completed).isSome then none
  else if store.status ≠ seen then some store
  else if store.teams = [] then none
  else
    match { store with status := .completed }.createPool with
    | none => none
    | some created =>
        let decided :=
          { created with
            winningTeamId := (winningTeam store.teams).map VideoRoomPkTeam.id
            isDraw := VideoRooms.isDraw store.teams }
        if (winningTeam store.teams).isSome ∧ store.winnerShare > 0 ∧ store.winners = [] then none
        else
          match payEach store.winnerRewards (decided, 0) with
          | none => none
          | some won =>
              match payEach store.participationRewards won with
              | none => none
              | some joined =>
                  match payEach store.bonusRewards joined with
                  | none => none
                  | some (paid, allocated) =>
                      if allocated > 0 then some (paid.addAllocated allocated) else some paid

/-- With the status it read before, and whether it stops before its transaction commits. -/
def settle (store : PkStore) (seen : VideoRoomPkStatus) (stops : Bool) : PkStore :=
  if isPkTerminal seen then store
  else if stops then store
  else (store.settleTx seen).getD store

end PkStore

/-- Settlements, and the other moves of the battle between them. -/
inductive PkStep where
  | settle (seen : VideoRoomPkStatus) (stops : Bool)
  | move (source target : VideoRoomPkStatus)
  deriving DecidableEq, Repr

def PkStore.step (store : PkStore) : PkStep → PkStore
  | .settle seen stops => store.settle seen stops
  | .move source target =>
      if store.status = source ∧ target ∈ videoRoomPkTransitions source ∧ target ≠ .completed then
        { store with status := target }
      else store

end Soulzaa.VideoRooms
