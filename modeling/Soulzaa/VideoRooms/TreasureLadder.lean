/-
The treasure ladder of a video room: its rows and the statements on them.

A ladder has one session and one box a level, so that a box goes by its level.  Progress is a
counter, and what an opened box pays is minted by the platform.
-/

import Soulzaa.Lib.KeyedRows
import Soulzaa.Lib.Portions
import Soulzaa.Treasure.Boxes
import Soulzaa.VideoRooms.PkSettlement

namespace Soulzaa.VideoRooms.Ladders

open Treasure (TreasureBoxStatus TreasureSessionStatus)
open Portions (portion)

structure TreasureBox where
  level : Nat
  threshold : Int
  progress : Int := 0
  status : TreasureBoxStatus := .pending
  deriving DecidableEq, Repr

inductive TreasurePoolStrategy where
  | percentage
  | fixed
  | adminOverride
  deriving DecidableEq, Repr

inductive TreasureWinnerAlgorithm where
  | random
  | weightedRandom
  | activityBased
  | contributionBased
  | vipPriority
  deriving DecidableEq, Repr

/-- The frozen rules of a level.  A strategy or an algorithm that is none of the known is none. -/
structure TreasureLevelRules where
  level : Nat
  threshold : Int
  poolStrategy : Option TreasurePoolStrategy := some .percentage
  poolPercentBps : Int := 1000
  poolFixedAmount : Option Int := none
  winnerAlgorithm : Option TreasureWinnerAlgorithm := some .random
  winnerCount : Int := 3
  deriving DecidableEq, Repr

structure TreasureRewardPool where
  level : Nat
  sourceAmount : Int
  poolAmount : Int
  allocatedAmount : Int := 0
  winnerCount : Nat
  selectionSeed : Nat × String
  deriving DecidableEq, Repr

structure TreasureWinner where
  level : Nat
  userId : UserId
  shareBps : Nat
  amount : Int
  deriving DecidableEq, Repr

inductive TreasureRewardStatus where
  | pending
  | distributed
  | failed
  deriving DecidableEq, Repr

structure TreasureReward where
  level : Nat
  userId : UserId
  rank : Nat
  coins : Int
  status : TreasureRewardStatus := .pending
  deriving DecidableEq, Repr

/-- A wallet's movement; its key is the box with the rank. -/
structure GoldCredit where
  level : Nat
  rank : Nat
  userId : UserId
  amount : Int
  deriving DecidableEq, Repr

structure Store where
  session : TreasureSessionStatus := .draft
  currentLevel : Nat := 1
  boxes : List TreasureBox
  rules : List TreasureLevelRules
  pools : List TreasureRewardPool := []
  winners : List TreasureWinner := []
  rewards : List TreasureReward := []
  credits : List GoldCredit := []
  deriving DecidableEq, Repr

/-! ### The pool -/

structure ComputedPool where
  sourceAmount : Int
  poolAmount : Int
  deriving DecidableEq, Repr

/-- None where the rules are refused. -/
def compute (rules : TreasureLevelRules) : Option ComputedPool :=
  match rules.poolStrategy with
  | some .percentage =>
      if 0 ≤ rules.poolPercentBps ∧ rules.poolPercentBps ≤ 10000 then
        some { sourceAmount := rules.threshold
               poolAmount := portion 10000 rules.threshold rules.poolPercentBps }
      else none
  | some .fixed | some .adminOverride =>
      match rules.poolFixedAmount with
      | none => none
      | some fixed =>
          if fixed < 0 then none
          else some { sourceAmount := rules.threshold, poolAmount := fixed }
  | none => none

structure PoolAllocation where
  userId : UserId
  amount : Int
  shareBps : Nat
  deriving DecidableEq, Repr

def allocate (poolAmount : Int) (winnerIds : List UserId) : List PoolAllocation :=
  if winnerIds = [] then []
  else
    winnerIds.map fun userId =>
      { userId := userId
        amount := poolAmount.tdiv winnerIds.length
        shareBps := 10000 / winnerIds.length }

/-! ### The draw -/

/-- Who is eligible, nobody twice, and whom the seed and the weights pick from among those that
are left. -/
structure Draw where
  eligible : List UserId
  distinct : eligible.Nodup
  picks : List Nat

def Draw.nobody : Draw := ⟨[], List.nodup_nil, []⟩

/-- One after another is picked and taken out. -/
def takeOut : Nat → List Nat → List UserId → List UserId
  | 0, _, _ => []
  | count + 1, picks, pool =>
      let index := min (picks.headD 0) (pool.length - 1)
      match pool[index]? with
      | none => []
      | some winner => winner :: takeOut count picks.tail (pool.eraseIdx index)

/-- The top of a ranking is cut off by `slice`, which counts a negative number from the end. -/
def TreasureWinnerAlgorithm.take (algorithm : TreasureWinnerAlgorithm) (want : Int)
    (eligible : Nat) : Nat :=
  match algorithm with
  | .contributionBased =>
      if want < 0 then (eligible + want).toNat else min want.toNat eligible
  | _ => (min want eligible).toNat

def select (algorithm : Option TreasureWinnerAlgorithm) (want : Int) (draw : Draw) :
    Option (List UserId) :=
  match algorithm with
  | none => none
  | some algorithm =>
      if draw.eligible = [] then some []
      else
        some (takeOut (algorithm.take want draw.eligible.length) draw.picks draw.eligible)

/-! ### Boxes and the session -/

namespace Store

def getBox (store : Store) (level : Nat) : Option TreasureBox :=
  KeyedRows.find TreasureBox.level level store.boxes

def changeBox (store : Store) (level : Nat) (change : TreasureBox → TreasureBox) : Store :=
  { store with boxes := KeyedRows.update TreasureBox.level level change store.boxes }

def setStatus (store : Store) (level : Nat) (status : TreasureBoxStatus) : Store :=
  store.changeBox level fun box => { box with status := status }

/-- A conditional update of a box's status, and whether it has matched. -/
def casStatus (store : Store) (level : Nat) (source target : TreasureBoxStatus) : Store × Bool :=
  match (store.getBox level).filter fun box => box.status = source with
  | none => (store, false)
  | some _ => (store.setStatus level target, true)

def claimUnlock (store : Store) (level : Nat) : Store × Bool :=
  store.casStatus level .active .unlocking

def openBox (store : Store) (level : Nat) : Store := (store.casStatus level .unlocking .opened).1

def activateBox (store : Store) (level : Nat) : Store :=
  (store.casStatus level .pending .active).1

def addProgress (store : Store) (level : Nat) (observed delta : Int) : Option Store :=
  match (store.getBox level).filter fun box => box.progress = observed with
  | none => none
  | some _ => some (store.changeBox level fun box => { box with progress := observed + delta })

def setSessionLevel (store : Store) (level : Nat) : Store := { store with currentLevel := level }

def transitionSession (store : Store) (source : List TreasureSessionStatus)
    (target : TreasureSessionStatus) : Option Store :=
  if store.session ∈ source then some { store with session := target } else none

/-! ### Pools, winners and rewards -/

def getPool (store : Store) (level : Nat) : Option TreasureRewardPool :=
  KeyedRows.find TreasureRewardPool.level level store.pools

/-- None where the box has a pool. -/
def createPool (store : Store) (row : TreasureRewardPool) : Option Store :=
  match store.getPool row.level with
  | some _ => none
  | none => some { store with pools := store.pools ++ [row] }

/-- Rows whose keys are there are skipped. -/
def createWinners (store : Store) (rows : List TreasureWinner) : Store :=
  { store with
    winners := KeyedRows.insertEach (fun winner => (winner.level, winner.userId)) rows
      store.winners }

def createPendingRewards (store : Store) (rows : List TreasureReward) : Store :=
  { store with rewards := store.rewards ++ rows }

/-- Keys that are there are answered without another movement. -/
def creditEach (store : Store) (rows : List GoldCredit) : Store :=
  { store with
    credits := KeyedRows.insertEach (fun credit => (credit.level, credit.rank)) rows
      store.credits }

def setAllocated (store : Store) (level : Nat) (allocated : Int) : Store :=
  { store with
    pools := KeyedRows.update TreasureRewardPool.level level
      (fun pool => { pool with allocatedAmount := allocated }) store.pools }

end Store

/-- A pending reward of the box goes over to another status, where a predicate selects it. -/
def TreasureReward.mark (level : Nat) (selects : TreasureReward → Bool)
    (target : TreasureRewardStatus) (row : TreasureReward) : TreasureReward :=
  if row.level = level && selects row && row.status = .pending then
    { row with status := target }
  else row

namespace Store

def markDistributed (level : Nat) (rows : List TreasureReward) (userId : UserId) :
    List TreasureReward :=
  rows.map (TreasureReward.mark level (fun row => row.userId = userId) .distributed)

def markFailed (store : Store) (level : Nat) : Store :=
  { store with rewards := store.rewards.map (TreasureReward.mark level (fun _ => true) .failed) }

/-! ### The unlock's transaction -/

/-- The rewards that are credited; those of no coins are passed over. -/
def credited (rewards : List TreasureReward) : List TreasureReward :=
  rewards.filter fun reward => asNumber reward.coins > 0

def distribute (store : Store) (rewards : List TreasureReward) : Store :=
  store.creditEach ((credited rewards).map fun reward =>
    { level := reward.level
      rank := reward.rank
      userId := reward.userId
      amount := asNumber reward.coins })

def markEach (store : Store) (level : Nat) (rewards : List TreasureReward) : Store :=
  { store with
    rewards := ((credited rewards).map TreasureReward.userId).foldl (markDistributed level)
      store.rewards }

def rewardsOf (level : Nat) (allocations : List PoolAllocation) : List TreasureReward :=
  allocations.zipIdx.map fun (allocation, index) =>
    { level := level
      userId := allocation.userId
      rank := index + 1
      coins := allocation.amount }

def winnersOf (level : Nat) (allocations : List PoolAllocation) : List TreasureWinner :=
  allocations.map fun allocation =>
    { level := level
      userId := allocation.userId
      shareBps := allocation.shareBps
      amount := allocation.amount }

def unlockable : List TreasureSessionStatus := [.active, .paused]

/-- The next box is promoted, or the ladder is complete. -/
def advance (store : Store) (level : Nat) : Store :=
  match store.getBox (level + 1) with
  | none => (store.transitionSession unlockable .completed).getD store
  | some next => (store.setSessionLevel next.level).activateBox next.level

/-- None where the pool is there already. -/
def payOut (store : Store) (level : Nat) (correlationId : String) (computed : ComputedPool)
    (allocations : List PoolAllocation) : Option Store :=
  match store.createPool { level := level
                           sourceAmount := computed.sourceAmount
                           poolAmount := computed.poolAmount
                           winnerCount := allocations.length
                           selectionSeed := (level, correlationId) } with
  | none => none
  | some minted =>
      let rewards := rewardsOf level allocations
      let recorded := (minted.createWinners (winnersOf level allocations)).createPendingRewards
        rewards
      let paid := (recorded.distribute rewards).markEach level rewards
      let allocated := (allocations.map PoolAllocation.amount).sum
      some (((paid.setAllocated level allocated).openBox level).advance level)

end Store

/-! ### A gift's progress -/

def maxCasRetries : Nat := 3

/-- The box after the gift and what the gift has added, where the retries are enough. -/
def Store.applyToBox (store : Store) (remaining : Int) :
    Nat → TreasureBox → Option (Store × TreasureBox × Int)
  | 0, _ => none
  | attempts + 1, current =>
      let needed := current.threshold - current.progress
      if needed ≤ 0 then some (store, current, 0)
      else
        let delta := if remaining < needed then remaining else needed
        match store.addProgress current.level current.progress delta with
        | some updated =>
            some (updated, { current with progress := current.progress + delta }, delta)
        | none =>
            match store.getBox current.level with
            | none => none
            | some fresh => store.applyToBox remaining attempts fresh

/-- A gift on its way up the ladder, with the boxes as it has read them. -/
structure Pouring where
  store : Store
  boxes : List TreasureBox
  level : Nat
  remaining : Int
  claimed : Option Nat := none
  deriving DecidableEq, Repr

/-- A box that the gift has filled is claimed, and the next one promoted. -/
def Pouring.cross (gift : Pouring) (level : Nat) : Pouring :=
  let claim := gift.store.claimUnlock level
  let claimed := if claim.2 && gift.claimed.isNone then some level else gift.claimed
  match KeyedRows.find TreasureBox.level (level + 1) gift.boxes with
  | none => { gift with store := claim.1, level := level + 1, claimed := claimed }
  | some next =>
      { gift with
        store := (claim.1.setSessionLevel (level + 1)).activateBox next.level
        boxes := KeyedRows.update TreasureBox.level next.level
          (fun box => { box with status := .active }) gift.boxes
        level := level + 1
        claimed := claimed }

/-- The loop; each turn that goes on is one level further up.  A box at which other gifts keep
winning every retry ends it. -/
def Pouring.pour (contended : List Nat) : Nat → Pouring → Pouring
  | 0, gift => gift
  | turns + 1, gift =>
      if gift.remaining ≤ 0 then gift
      else
        match KeyedRows.find TreasureBox.level gift.level gift.boxes with
        | none => gift
        | some box =>
            if box.status = .opened ∨ box.status = .unlocking then
              pour contended turns { gift with level := gift.level + 1 }
            else if box.level ∈ contended then gift
            else
              match gift.store.applyToBox gift.remaining maxCasRetries box with
              | none => gift
              | some (store, updated, delta) =>
                  let poured := { gift with store := store, remaining := gift.remaining - delta }
                  if updated.progress < updated.threshold then poured
                  else pour contended turns (poured.cross box.level)

/-- There are at most as many turns as boxes, and the one that finds none. -/
def Store.apply (store : Store) (boxes : List TreasureBox) (level : Nat) (amount : Int)
    (contended : List Nat) : Pouring :=
  Pouring.pour contended (boxes.length + 1)
    { store := store
      boxes := boxes
      level := level
      remaining := amount }

end Soulzaa.VideoRooms.Ladders
