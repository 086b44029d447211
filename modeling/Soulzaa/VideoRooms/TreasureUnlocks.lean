/-
Gifts, the owner's commands and unlock jobs on one treasure ladder, side by side.

What is awaited is a step.  The statements of one transaction take effect together when it
commits: a row that one has changed is locked until then, and an insert waits for another of the
same key.  A delivery is not bound to the room's lock, which may run out under it.
-/

import Soulzaa.VideoRooms.TreasureLadder

namespace Soulzaa.VideoRooms.Ladders

open Treasure (TreasureBoxStatus TreasureSessionStatus)

structure UnlockJob where
  level : Nat
  correlationId : String
  deriving DecidableEq, Repr

inductive TreasureUnlockStage where
  | validate
  | pool
  | eligibility
  | winnerSelection
  | distribution
  | broadcast
  | chain
  deriving DecidableEq, Repr

/-- The stages that come after the transaction's commit. -/
def TreasureUnlockStage.committed : TreasureUnlockStage → Bool
  | .broadcast => true
  | .chain => true
  | _ => false

/-- A delivery of a job, and whether it has changed what is paid for its box. -/
structure Delivery where
  job : UnlockJob
  wrote : Bool := false
  deriving DecidableEq, Repr

structure Failure where
  level : Nat
  stage : TreasureUnlockStage
  wrote : Bool
  deriving DecidableEq, Repr

inductive Call where
  | reading (amount : Int) (correlationId : String)
  | listing (amount : Int) (correlationId : String) (level : Nat)
  | pouring (amount : Int) (correlationId : String) (level : Nat) (boxes : List TreasureBox)
  | enqueueing (job : UnlockJob)
  | starting
  | activating (level : Nat)
  | gettingBox (delivery : Delivery)
  | gettingSession (delivery : Delivery)
  | drawing (delivery : Delivery) (rules : TreasureLevelRules) (computed : ComputedPool)
  | distributing (delivery : Delivery) (computed : ComputedPool)
      (allocations : List PoolAllocation)
  | broadcasting (delivery : Delivery)
  | chaining (delivery : Delivery)
  | claiming (delivery : Delivery) (next : Nat)
  | enqueueingNext (delivery : Delivery) (job : UnlockJob)
  | failing (delivery : Delivery) (stage : TreasureUnlockStage)
  | ended

structure World where
  store : Store
  calls : List Call := []
  /-- The jobs that were ever put in the queue. -/
  enqueued : List UnlockJob := []
  /-- The boxes of the deliveries that have ended without an error. -/
  delivered : List Nat := []
  failures : List Failure := []

/-- What a step meets: the boxes that other gifts keep changing, and the draw. -/
structure Meets where
  contended : List Nat := []
  draw : Draw := .nobody

inductive Event where
  | gift (amount : Int) (correlationId : String)
  | start
  | pause
  | resume
  | close
  | deliver (job : UnlockJob)
  | goOn (position : Nat) (meets : Meets)
  /-- Something is thrown. -/
  | fail (position : Nat)
  /-- The process stops. -/
  | crash (position : Nat)

/-! ### What is paid for a box -/

structure Payment where
  pools : List TreasureRewardPool
  winners : List TreasureWinner
  rewards : List TreasureReward
  credits : List GoldCredit
  status : Option TreasureBoxStatus
  deriving DecidableEq, Repr

/-- The rewards are those that carry coins. -/
def Store.payment (store : Store) (level : Nat) : Payment where
  pools := store.pools.filter fun pool => pool.level = level
  winners := store.winners.filter fun winner => winner.level = level
  rewards := store.rewards.filter fun reward => reward.level = level && reward.coins > 0
  credits := store.credits.filter fun credit => credit.level = level
  status := (store.getBox level).map TreasureBox.status

def Delivery.saw (delivery : Delivery) (before after : Store) : Delivery :=
  { delivery with
    wrote := delivery.wrote ||
      before.payment delivery.job.level ≠ after.payment delivery.job.level }

def Delivery.failure (delivery : Delivery) (stage : TreasureUnlockStage) : Failure where
  level := delivery.job.level
  stage := stage
  wrote := delivery.wrote

/-! ### One step of a call -/

/-- What a call leaves behind when it has gone one step further. -/
structure Turn where
  store : Store
  call : Call
  enqueued : Option UnlockJob := none
  delivered : Option Nat := none
  failure : Option Failure := none

namespace Call

def throws (store : Store) : Call → Turn
  | .gettingBox delivery => { store := store, call := .failing delivery .validate }
  | .gettingSession delivery => { store := store, call := .failing delivery .validate }
  | .drawing delivery _ _ => { store := store, call := .failing delivery .eligibility }
  | .distributing delivery _ _ => { store := store, call := .failing delivery .distribution }
  | .broadcasting delivery => { store := store, call := .failing delivery .broadcast }
  | .chaining delivery => { store := store, call := .failing delivery .chain }
  | .claiming delivery _ => { store := store, call := .failing delivery .chain }
  | .enqueueingNext delivery _ => { store := store, call := .failing delivery .chain }
  | .failing delivery stage =>
      { store := store, call := .ended, failure := some (delivery.failure stage) }
  | _ => { store := store, call := .ended }

def goOn (store : Store) (meets : Meets) : Call → Turn
  | .reading amount correlationId =>
      if amount ≤ 0 ∨ store.session ≠ .active then { store := store, call := .ended }
      else { store := store, call := .listing amount correlationId store.currentLevel }
  | .listing amount correlationId level =>
      { store := store, call := .pouring amount correlationId level store.boxes }
  | .pouring amount correlationId level boxes =>
      let poured := store.apply boxes level amount meets.contended
      match poured.claimed with
      | none => { store := poured.store, call := .ended }
      | some claimed =>
          { store := poured.store
            call := .enqueueing { level := claimed, correlationId := correlationId } }
  | .enqueueing job => { store := store, call := .ended, enqueued := some job }
  | .starting =>
      match store.transitionSession [.draft] .active with
      | none => { store := store, call := .ended }
      | some started => { store := started, call := .activating started.currentLevel }
  | .activating level => { store := store.activateBox level, call := .ended }
  | .gettingBox delivery =>
      match store.getBox delivery.job.level with
      | none => { store := store, call := .failing delivery .validate }
      | some box =>
          if box.status = .opened then
            { store := store, call := .ended, delivered := some delivery.job.level }
          else if box.status ≠ .unlocking then
            { store := store, call := .failing delivery .validate }
          else { store := store, call := .gettingSession delivery }
  | .gettingSession delivery =>
      if store.session ∉ Store.unlockable then
        { store := store, call := .failing delivery .validate }
      else
        match KeyedRows.find TreasureLevelRules.level delivery.job.level store.rules with
        | none => { store := store, call := .failing delivery .validate }
        | some rules =>
            match compute rules with
            | none => { store := store, call := .failing delivery .pool }
            | some computed => { store := store, call := .drawing delivery rules computed }
  | .drawing delivery rules computed =>
      match select rules.winnerAlgorithm rules.winnerCount meets.draw with
      | none => { store := store, call := .failing delivery .winnerSelection }
      | some drawn =>
          { store := store
            call := .distributing delivery computed (allocate computed.poolAmount drawn) }
  | .distributing delivery computed allocations =>
      match store.payOut delivery.job.level delivery.job.correlationId computed allocations with
      | none => { store := store, call := .ended, delivered := some delivery.job.level }
      | some paid => { store := paid, call := .broadcasting (delivery.saw store paid) }
  | .broadcasting delivery => { store := store, call := .chaining delivery }
  | .chaining delivery =>
      match store.getBox (delivery.job.level + 1) with
      | none => { store := store, call := .ended, delivered := some delivery.job.level }
      | some next =>
          if next.progress < next.threshold then
            { store := store, call := .ended, delivered := some delivery.job.level }
          else { store := store, call := .claiming delivery next.level }
  | .claiming delivery next =>
      let claim := store.claimUnlock next
      if claim.2 then
        { store := claim.1
          call := .enqueueingNext (delivery.saw store claim.1)
            { level := next, correlationId := delivery.job.correlationId } }
      else { store := store, call := .ended, delivered := some delivery.job.level }
  | .enqueueingNext delivery job =>
      { store := store, call := .ended, enqueued := some job
        delivered := some delivery.job.level }
  | .failing delivery stage =>
      let marked := store.markFailed delivery.job.level
      { store := marked, call := .ended
        failure := some ((delivery.saw store marked).failure stage) }
  | .ended => { store := store, call := .ended }

end Call

/-! ### The ladder's room -/

namespace World

def spawn (world : World) (call : Call) : World := { world with calls := world.calls ++ [call] }

/-- The owner's command; it changes nothing where the session is in another status. -/
def command (world : World) (source : List TreasureSessionStatus)
    (target : TreasureSessionStatus) : World :=
  { world with store := (world.store.transitionSession source target).getD world.store }

def take (world : World) (position : Nat) (turn : Turn) : World where
  store := turn.store
  calls := world.calls.set position turn.call
  enqueued := turn.enqueued.toList ++ world.enqueued
  delivered := turn.delivered.toList ++ world.delivered
  failures := turn.failure.toList ++ world.failures

def step (world : World) : Event → World
  | .gift amount correlationId => world.spawn (.reading amount correlationId)
  | .start => world.spawn .starting
  | .pause => world.command [.active] .paused
  | .resume => world.command [.paused] .active
  | .close => world.command [.draft, .active, .paused] .closed
  | .deliver job => world.spawn (.gettingBox { job := job })
  | .goOn position meets =>
      match world.calls[position]? with
      | none => world
      | some call => world.take position (call.goOn world.store meets)
  | .fail position =>
      match world.calls[position]? with
      | none => world
      | some call => world.take position (call.throws world.store)
  | .crash position => { world with calls := world.calls.set position .ended }

end World

end Soulzaa.VideoRooms.Ladders
