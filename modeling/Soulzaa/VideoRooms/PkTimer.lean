/-
The clock of a video PK battle: its start, its pauses, the jobs that end it and the recovery
sweeps.

Time passes between operations only, and is counted while the battle is LIVE.  An end job stays
deliverable once it is due, and what settles a battle reads the row anew after its own guard has
passed, so that anything may happen between the two.
-/

import Soulzaa.VideoRooms.PkStatus

namespace Soulzaa.VideoRooms

/-- The columns of a battle that its clock reads.  Instants are in milliseconds. -/
structure VideoRoomPkBattle where
  status : VideoRoomPkStatus
  countdownSeconds : Nat
  durationSeconds : Nat
  startedAt : Option Int
  endsAt : Option Int
  pausedAt : Option Int
  totalPausedMs : Int
  resumeSeq : Nat
  deriving DecidableEq, Repr

structure VideoRoomPkConfig where
  orphanTimeoutSeconds : Nat
  recoveryGraceSeconds : Nat
  deriving DecidableEq, Repr

inductive PkSettlementTrigger where
  | timer
  | manual
  | recovery
  deriving DecidableEq, Repr

/-- An end job in the queue, and the instant from which it may be delivered. -/
structure PkTimerJob where
  resumeSeq : Nat
  dueAt : Int
  deriving DecidableEq, Repr

/-- How a battle came to be settled: what settled it, the status it was found in, how long it
had been LIVE, and for how long its clock had stood still. -/
structure Settled where
  trigger : PkSettlementTrigger
  found : VideoRoomPkStatus
  livedMs : Int
  frozenMs : Int
  deriving DecidableEq, Repr

structure PkClock where
  config : VideoRoomPkConfig
  battle : VideoRoomPkBattle
  participants : List UserId
  roomLive : Bool
  now : Int
  startJob : Option Int
  endJobs : List PkTimerJob
  /-- The settlements whose guards have passed. -/
  settling : List PkSettlementTrigger
  livedMs : Int
  liveAt : Int
  settled : Option Settled
  deriving DecidableEq, Repr

/-! ### The timer's arithmetic -/

namespace VideoRoomPkBattle

structure PkResumeComputation where
  endsAt : Int
  totalPausedMs : Int
  resumeSeq : Nat

def computeResume (battle : VideoRoomPkBattle) (now : Int) : PkResumeComputation :=
  let pausedFor := match battle.pausedAt with
    | some pausedAt => now - pausedAt
    | none => 0
  { endsAt := battle.endsAt.getD now + pausedFor
    totalPausedMs := battle.totalPausedMs + pausedFor
    resumeSeq := battle.resumeSeq + 1 }

def remainingMs (battle : VideoRoomPkBattle) (now : Int) : Int :=
  max 0 (battle.endsAt.getD now - now)

end VideoRoomPkBattle

namespace PkClock

def setStatus (clock : PkClock) (target : VideoRoomPkStatus) : PkClock :=
  { clock with battle := { clock.battle with status := target } }

def scheduleCountdown (clock : PkClock) : PkClock :=
  { clock with startJob := some (clock.now + clock.battle.countdownSeconds * 1000) }

def scheduleEnd (clock : PkClock) : PkClock :=
  { clock with
    endJobs := { resumeSeq := clock.battle.resumeSeq
                 dueAt := clock.now + clock.battle.remainingMs clock.now } :: clock.endJobs }

/-- The removal of the pending end job is best-effort. -/
def cancelEnd (clock : PkClock) (removed : Bool) : PkClock :=
  if removed then
    { clock with
      endJobs := clock.endJobs.filter fun job => job.resumeSeq ≠ clock.battle.resumeSeq }
  else clock

/-! ### The operations -/

def start (clock : PkClock) (countdownSeconds : Option Nat) : PkClock :=
  if clock.battle.status = .accepted then
    let countdown := countdownSeconds.getD clock.battle.countdownSeconds
    { clock with
      battle := { clock.battle with
        status := .countdown
        startedAt := some clock.now
        endsAt := some (clock.now + countdown * 1000 + clock.battle.durationSeconds * 1000)
        countdownSeconds := countdown } }.scheduleCountdown
  else clock

def goLive (clock : PkClock) : PkClock :=
  { clock.setStatus .live with liveAt := clock.now }.scheduleEnd

/-- The start job, delivered. -/
def handleStart (clock : PkClock) : PkClock :=
  match clock.startJob with
  | none => clock
  | some dueAt =>
      if dueAt ≤ clock.now && clock.battle.status = .countdown then clock.goLive else clock

/-- A pause and a host's drop stop the clock alike. -/
def freeze (clock : PkClock) (target : VideoRoomPkStatus) (removed : Bool) : PkClock :=
  let cancelled := clock.cancelEnd removed
  { cancelled with
    battle := { clock.battle with status := target, pausedAt := some clock.now } }

def resumeLive (clock : PkClock) : PkClock :=
  let computed := clock.battle.computeResume clock.now
  { clock with
    battle := { clock.battle with
      status := .live
      resumeSeq := computed.resumeSeq
      totalPausedMs := computed.totalPausedMs
      pausedAt := none
      endsAt := some computed.endsAt } }.scheduleEnd

def pause (clock : PkClock) (removed : Bool) : PkClock :=
  if clock.battle.status = .live then clock.freeze .paused removed else clock

def resume (clock : PkClock) : PkClock :=
  if clock.battle.status = .paused then clock.resumeLive else clock

def handleHostDrop (clock : PkClock) (userId : UserId) (removed : Bool) : PkClock :=
  if clock.battle.status = .live && clock.participants.contains userId then
    clock.freeze .recovering removed
  else clock

def handleHostReturn (clock : PkClock) (userId : UserId) : PkClock :=
  if clock.battle.status = .recovering && clock.participants.contains userId then
    match clock.battle.pausedAt with
    | none => clock
    | some pausedAt =>
        if clock.now - pausedAt > clock.config.recoveryGraceSeconds * 1000 then clock
        else clock.resumeLive
  else clock

def cancel (clock : PkClock) : PkClock :=
  match assertTransition clock.battle.status .cancelled with
  | some _ => clock
  | none => clock.setStatus .cancelled

/-! ### What settles -/

def settleWith (clock : PkClock) (trigger : PkSettlementTrigger) : PkClock :=
  { clock with settling := trigger :: clock.settling }

def endable (status : VideoRoomPkStatus) : Bool := status = .live || status = .paused

/-- The owner ends the battle. -/
def endBattle (clock : PkClock) : PkClock :=
  if endable clock.battle.status then clock.settleWith .manual else clock

/-- An end job, delivered. -/
def handleEnd (clock : PkClock) (job : PkTimerJob) : PkClock :=
  if clock.battle.resumeSeq ≠ job.resumeSeq then clock
  else if isPkTerminal clock.battle.status then clock
  else clock.settleWith .timer

def deliverEnd (clock : PkClock) (position : Nat) : PkClock :=
  match clock.endJobs[position]? with
  | none => clock
  | some job => if job.dueAt ≤ clock.now then clock.handleEnd job else clock

/-- The sweep's query leaves out what has ended and what stands still. -/
def staleSettles (status : VideoRoomPkStatus) : Bool :=
  !isPkTerminal status && status ≠ .paused && status ≠ .recovering

def sweepExpiredBattles (clock : PkClock) : PkClock :=
  match clock.battle.endsAt with
  | none => clock
  | some endsAt =>
      if staleSettles clock.battle.status && endsAt ≤ clock.now then clock.settleWith .recovery
      else clock

def sweepCountdowns (clock : PkClock) : PkClock :=
  if clock.battle.status = .countdown then
    match clock.battle.startedAt with
    | none => clock
    | some startedAt =>
        if startedAt + clock.battle.countdownSeconds * 1000 > clock.now then clock
        else clock.goLive
  else clock

def sweepOrphans (clock : PkClock) : PkClock :=
  if clock.battle.status = .recovering then
    match clock.battle.pausedAt with
    | none => clock
    | some pausedAt =>
        if clock.now - pausedAt < clock.config.orphanTimeoutSeconds * 1000 then clock
        else clock.settleWith .recovery
  else clock

def sweepDeadRooms (clock : PkClock) : PkClock :=
  if clock.battle.status = .live && !clock.roomLive then clock.settleWith .recovery else clock

def settle (clock : PkClock) (trigger : PkSettlementTrigger) : PkClock :=
  if isPkTerminal clock.battle.status then clock
  else match assertTransition clock.battle.status .completed with
    | some _ => clock
    | none =>
        { clock.setStatus .completed with
          settled := some {
            trigger := trigger
            found := clock.battle.status
            livedMs := clock.livedMs
            frozenMs := clock.now - clock.battle.pausedAt.getD clock.now } }

/-- A settlement goes on from its guard, or is given up. -/
def settleAt (clock : PkClock) (position : Nat) (givesUp : Bool) : PkClock :=
  match clock.settling[position]? with
  | none => clock
  | some trigger =>
      let taken := { clock with settling := clock.settling.eraseIdx position }
      if givesUp then taken else taken.settle trigger

def pass (clock : PkClock) (ms : Nat) : PkClock :=
  { clock with
    now := clock.now + ms
    livedMs := if clock.battle.status = .live then clock.livedMs + ms else clock.livedMs }

end PkClock

inductive PkClockEvent where
  | pass (ms : Nat)
  | room (live : Bool)
  | start (countdownSeconds : Option Nat)
  | handleStart
  | pause (removed : Bool)
  | resume
  | handleHostDrop (userId : UserId) (removed : Bool)
  | handleHostReturn (userId : UserId)
  | cancel
  | endBattle
  | handleEnd (position : Nat)
  | sweepExpiredBattles
  | sweepCountdowns
  | sweepOrphans
  | sweepDeadRooms
  | settle (position : Nat) (givesUp : Bool)
  deriving DecidableEq, Repr

def PkClock.step (clock : PkClock) : PkClockEvent → PkClock
  | .pass ms => clock.pass ms
  | .room live => { clock with roomLive := live }
  | .start countdownSeconds => clock.start countdownSeconds
  | .handleStart => clock.handleStart
  | .pause removed => clock.pause removed
  | .resume => clock.resume
  | .handleHostDrop userId removed => clock.handleHostDrop userId removed
  | .handleHostReturn userId => clock.handleHostReturn userId
  | .cancel => clock.cancel
  | .endBattle => clock.endBattle
  | .handleEnd position => clock.deliverEnd position
  | .sweepExpiredBattles => clock.sweepExpiredBattles
  | .sweepCountdowns => clock.sweepCountdowns
  | .sweepOrphans => clock.sweepOrphans
  | .sweepDeadRooms => clock.sweepDeadRooms
  | .settle position givesUp => clock.settleAt position givesUp

end Soulzaa.VideoRooms
