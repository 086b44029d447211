/-
When a video PK battle's time is up, in every run of its clock.

Until the battle is over its row tells how long it has been LIVE: the time since it went LIVE
less the time that it stood still.  So whether a settlement comes too soon can be read off the
row it finds.
-/

import Soulzaa.Lib.Runs
import Soulzaa.VideoRooms.PkTimer

namespace Soulzaa.VideoRooms

open Runs

/-! ### What is promised -/

/-- An end job settles no battle that stands still.  Nothing but the owner settles one that has
not been LIVE for its time, unless its host has stayed away past the orphan timeout. -/
def Settled.Due (settled : Settled) (durationSeconds orphanTimeoutSeconds : Nat) : Prop :=
  match settled.trigger with
  | .manual => True
  | .timer => settled.found ≠ .paused ∧ settled.found ≠ .recovering ∧
      (durationSeconds : Int) * 1000 ≤ settled.livedMs
  | .recovery => (durationSeconds : Int) * 1000 ≤ settled.livedMs ∨
      (settled.found = .recovering ∧ (orphanTimeoutSeconds : Int) * 1000 ≤ settled.frozenMs)

namespace PkClock

def Fair (clock : PkClock) : Prop :=
  ∀ settled ∈ clock.settled,
    settled.Due clock.battle.durationSeconds clock.config.orphanTimeoutSeconds

/-- A battle that everyone has accepted, before its start. -/
structure Accepted (clock : PkClock) : Prop where
  status : clock.battle.status = .accepted
  notPaused : clock.battle.pausedAt = none ∧ clock.battle.totalPausedMs = 0
  noJobs : clock.startJob = none ∧ clock.endJobs = [] ∧ clock.settling = []
  notLived : clock.livedMs = 0
  unsettled : clock.settled = none

instance (settled : Settled) (durationSeconds orphanTimeoutSeconds : Nat) :
    Decidable (settled.Due durationSeconds orphanTimeoutSeconds) :=
  match found : settled.trigger with
  | .manual => decidable_of_iff True (by simp only [Settled.Due, found])
  | .timer => decidable_of_iff (settled.found ≠ .paused ∧ settled.found ≠ .recovering ∧
      (durationSeconds : Int) * 1000 ≤ settled.livedMs) (by simp only [Settled.Due, found])
  | .recovery => decidable_of_iff ((durationSeconds : Int) * 1000 ≤ settled.livedMs ∨
      (settled.found = .recovering ∧ (orphanTimeoutSeconds : Int) * 1000 ≤ settled.frozenMs))
      (by simp only [Settled.Due, found])

instance (clock : PkClock) : Decidable clock.Fair :=
  inferInstanceAs (Decidable (∀ settled ∈ clock.settled, _))

/-! ### When it is kept -/

def running (status : VideoRoomPkStatus) : Bool :=
  status = .live || status = .paused || status = .recovering

/-- By how much the battle went LIVE after its countdown. -/
def late (clock : PkClock) : Int :=
  clock.liveAt - (clock.battle.startedAt.getD 0 + clock.battle.countdownSeconds * 1000)

/-- The deadline has passed, and as much time again as the battle went LIVE late.  A clock that
stands still shows the instant at which it stopped. -/
def TimeUp (clock : PkClock) : Prop :=
  clock.battle.endsAt.getD 0 + clock.late ≤ clock.battle.pausedAt.getD clock.now

def InTime (clock : PkClock) : PkSettlementTrigger → Prop
  | .manual => True
  | .timer => running clock.battle.status = true →
      clock.battle.status = .live ∧ clock.TimeUp
  | .recovery => running clock.battle.status = true →
      clock.TimeUp ∨ (clock.battle.status = .recovering ∧
        (clock.config.orphanTimeoutSeconds : Int) * 1000 ≤
          clock.now - clock.battle.pausedAt.getD clock.now)

/-- A settlement finds the battle's time up. -/
def Keeps (clock : PkClock) : PkClockEvent → Prop
  | .settle position false => ∀ trigger ∈ clock.settling[position]?, clock.InTime trigger
  | _ => True

instance (clock : PkClock) : Decidable clock.TimeUp := inferInstanceAs (Decidable (_ ≤ _))

instance (clock : PkClock) : (trigger : PkSettlementTrigger) → Decidable (clock.InTime trigger)
  | .manual => inferInstanceAs (Decidable True)
  | .timer => inferInstanceAs (Decidable (_ → _ ∧ _))
  | .recovery => inferInstanceAs (Decidable (_ → _ ∨ _ ∧ _))

instance (clock : PkClock) : (event : PkClockEvent) → Decidable (clock.Keeps event)
  | .settle position false =>
      inferInstanceAs (Decidable (∀ trigger ∈ clock.settling[position]?, _))
  | .settle _ true | .pass _ | .room _ | .start _ | .handleStart | .pause _ | .resume
  | .handleHostDrop _ _ | .handleHostReturn _ | .cancel | .endBattle | .handleEnd _
  | .sweepExpiredBattles | .sweepCountdowns | .sweepOrphans | .sweepDeadRooms =>
      inferInstanceAs (Decidable True)

/-! ### What the row tells -/

def early (status : VideoRoomPkStatus) : Bool := status = .accepted || status = .countdown

def frozen (status : VideoRoomPkStatus) : Bool := status = .paused || status = .recovering

/-- The deadline is put off by the time paused, and the time LIVE leaves it out.  An end job that
carries the battle's present sequence number is due no sooner than its deadline. -/
structure Timed (clock : PkClock) : Prop where
  unpaused : early clock.battle.status = true →
    clock.battle.pausedAt = none ∧ clock.battle.totalPausedMs = 0 ∧ clock.livedMs = 0
  deadline : clock.battle.status = .countdown ∨ running clock.battle.status = true →
    ∃ startedAt, clock.battle.startedAt = some startedAt ∧
      clock.battle.endsAt = some (startedAt + clock.battle.countdownSeconds * 1000 +
        clock.battle.durationSeconds * 1000 + clock.battle.totalPausedMs)
  live : clock.battle.status = .live → clock.battle.pausedAt = none ∧
    clock.livedMs = clock.now - clock.liveAt - clock.battle.totalPausedMs
  paused : frozen clock.battle.status = true → ∃ pausedAt,
    clock.battle.pausedAt = some pausedAt ∧
      clock.livedMs = pausedAt - clock.liveAt - clock.battle.totalPausedMs
  unarmed : early clock.battle.status = true → clock.endJobs = []
  armed : ∀ job ∈ clock.endJobs, job.resumeSeq ≤ clock.battle.resumeSeq ∧
    (job.resumeSeq = clock.battle.resumeSeq → clock.battle.endsAt.getD 0 ≤ job.dueAt)
  settled : clock.settled ≠ none → isPkTerminal clock.battle.status = true

theorem frozen_spec {status : VideoRoomPkStatus} (stopped : frozen status = true) :
    ¬early status = true ∧ running status = true ∧ isPkTerminal status = false := by
  cases status with
  | paused => decide
  | recovering => decide
  | _ => exact absurd stopped (by decide)

theorem live_or_frozen {status : VideoRoomPkStatus} (current : running status = true) :
    status = .live ∨ frozen status = true := by
  cases status with
  | live => exact .inl rfl
  | paused => exact .inr rfl
  | recovering => exact .inr rfl
  | _ => exact absurd current (by decide)

/-- What is true of an operation that settles nothing. -/
structure Goes (clock next : PkClock) : Prop where
  timed : Timed clock → Timed next
  settled : next.settled = clock.settled
  config : next.config = clock.config
  duration : next.battle.durationSeconds = clock.battle.durationSeconds

variable {clock next : PkClock} {trigger : PkSettlementTrigger} {status : VideoRoomPkStatus}

theorem Goes.refl (clock : PkClock) : Goes clock clock := ⟨id, rfl, rfl, rfl⟩

theorem Goes.fair_iff (goes : Goes clock next) : next.Fair ↔ clock.Fair := by
  unfold Fair
  rw [goes.settled, goes.config, goes.duration]

/-- A battle that is not over has not been settled. -/
theorem Timed.unsettled (timed : Timed clock) (current : isPkTerminal clock.battle.status = false) :
    clock.settled = none := by
  by_contra settled
  rw [timed.settled settled] at current
  cases current

/-- A change to the queue, or to the room, leaves the clock alone. -/
theorem goes_of_same (battle : next.battle = clock.battle) (now : next.now = clock.now)
    (lived : next.livedMs = clock.livedMs) (liveAt : next.liveAt = clock.liveAt)
    (settled : next.settled = clock.settled) (config : next.config = clock.config)
    (jobs : next.endJobs = clock.endJobs) : Goes clock next where
  timed := by
    intro timed
    exact
      { unpaused := by rw [battle, lived]; exact timed.unpaused
        deadline := by rw [battle]; exact timed.deadline
        live := by rw [battle, lived, now, liveAt]; exact timed.live
        paused := by rw [battle, lived, liveAt]; exact timed.paused
        unarmed := by rw [battle, jobs]; exact timed.unarmed
        armed := by rw [battle, jobs]; exact timed.armed
        settled := by rw [battle, settled]; exact timed.settled }
  settled := settled
  config := config
  duration := by rw [battle]

theorem goes_settleWith : Goes clock (clock.settleWith trigger) :=
  goes_of_same rfl rfl rfl rfl rfl rfl rfl

/-! ### The moves of the clock -/

theorem livedMs_pass (ms : Nat) : (clock.pass ms).livedMs =
    if clock.battle.status = .live then clock.livedMs + ms else clock.livedMs := rfl

theorem goes_pass (ms : Nat) : Goes clock (clock.pass ms) where
  timed := by
    intro timed
    have still : clock.battle.status ≠ .live → (clock.pass ms).livedMs = clock.livedMs := by
      intro other
      rw [livedMs_pass, if_neg other]
    refine ⟨?_, timed.deadline, ?_, ?_, timed.unarmed, timed.armed, timed.settled⟩
    · intro before
      have before : early clock.battle.status = true := before
      rw [still fun live => by rw [live] at before; exact nomatch before]
      exact timed.unpaused before
    · intro live
      have live : clock.battle.status = .live := live
      obtain ⟨unpaused, lived⟩ := timed.live live
      refine ⟨unpaused, ?_⟩
      rw [livedMs_pass, if_pos live, lived]
      show _ = clock.now + ms - clock.liveAt - clock.battle.totalPausedMs
      omega
    · intro stopped
      have stopped : frozen clock.battle.status = true := stopped
      rw [still fun live => by rw [live] at stopped; exact nomatch stopped]
      exact timed.paused stopped
  settled := rfl
  config := rfl
  duration := rfl

theorem goes_start (countdownSeconds : Option Nat) :
    Goes clock (clock.start countdownSeconds) := by
  unfold start
  split
  · rename_i accepted
    refine ⟨?_, rfl, rfl, rfl⟩
    intro timed
    have before := timed.unpaused (by rw [accepted]; rfl)
    have unarmed := timed.unarmed (by rw [accepted]; rfl)
    refine ⟨fun _ => before, ?_, nofun, nofun, fun _ => unarmed, ?_, ?_⟩
    · intro _
      refine ⟨clock.now, rfl, ?_⟩
      show some _ = some (_ + clock.battle.totalPausedMs)
      rw [before.2.1, Int.add_zero]
      rfl
    · intro job member
      rw [show clock.endJobs = [] from unarmed] at member
      cases member
    · intro settled
      exact absurd (timed.unsettled (by rw [accepted]; rfl)) settled
  · exact .refl clock

/-- The job that a schedule puts in the queue is due no sooner than the deadline. -/
theorem armed_scheduleEnd {battle : VideoRoomPkBattle} {now endsAt : Int}
    (ends : battle.endsAt = some endsAt) :
    battle.endsAt.getD 0 ≤ now + battle.remainingMs now := by
  unfold VideoRoomPkBattle.remainingMs
  rw [ends]
  show endsAt ≤ now + max 0 (endsAt - now)
  omega

theorem goes_goLive (counting : clock.battle.status = .countdown) : Goes clock clock.goLive := by
  refine ⟨?_, rfl, rfl, rfl⟩
  intro timed
  obtain ⟨unpaused, total, lived⟩ := timed.unpaused (by rw [counting]; rfl)
  obtain ⟨startedAt, started, ends⟩ := timed.deadline (.inl counting)
  refine ⟨nofun, fun _ => ⟨startedAt, started, ends⟩, ?_, nofun, nofun, ?_, ?_⟩
  · intro _
    refine ⟨unpaused, ?_⟩
    show clock.livedMs = clock.now - clock.now - clock.battle.totalPausedMs
    omega
  · intro job member
    rcases List.mem_cons.mp member with rfl | older
    · exact ⟨Nat.le_refl _, fun _ => armed_scheduleEnd ends⟩
    · exact timed.armed job older
  · intro settled
    exact absurd (timed.unsettled (by rw [counting]; rfl)) settled

theorem goes_freeze {target : VideoRoomPkStatus} (stops : frozen target = true) (removed : Bool)
    (isLive : clock.battle.status = .live) : Goes clock (clock.freeze target removed) := by
  have fewer : ∀ job ∈ (clock.freeze target removed).endJobs, job ∈ clock.endJobs := by
    intro job member
    cases removed with
    | false => exact member
    | true => exact List.mem_of_mem_filter member
  have rest : (clock.freeze target removed).livedMs = clock.livedMs ∧
      (clock.freeze target removed).liveAt = clock.liveAt ∧
      (clock.freeze target removed).settled = clock.settled ∧
      (clock.freeze target removed).config = clock.config := by
    cases removed with
    | false => exact ⟨rfl, rfl, rfl, rfl⟩
    | true => exact ⟨rfl, rfl, rfl, rfl⟩
  obtain ⟨sameLived, sameLiveAt, sameSettled, sameConfig⟩ := rest
  refine ⟨?_, sameSettled, sameConfig, rfl⟩
  intro timed
  obtain ⟨-, lived⟩ := timed.live isLive
  refine ⟨?_, fun _ => timed.deadline (.inr (by rw [isLive]; rfl)), ?_, ?_, ?_,
    fun job member => timed.armed job (fewer job member), ?_⟩
  · intro before
    exact absurd before (frozen_spec stops).1
  · rintro rfl
    cases stops
  · intro _
    exact ⟨clock.now, rfl, by rw [sameLived, sameLiveAt]; exact lived⟩
  · intro before
    exact absurd before (frozen_spec stops).1
  · intro settled
    rw [sameSettled] at settled
    exact absurd (timed.unsettled (by rw [isLive]; rfl)) settled

theorem goes_resumeLive (stopped : frozen clock.battle.status = true) :
    Goes clock clock.resumeLive := by
  refine ⟨?_, rfl, rfl, rfl⟩
  intro timed
  obtain ⟨pausedAt, paused, lived⟩ := timed.paused stopped
  obtain ⟨-, current, unfinished⟩ := frozen_spec stopped
  obtain ⟨startedAt, started, ends⟩ := timed.deadline (.inr current)
  refine ⟨nofun, ?_, ?_, nofun, nofun, ?_, ?_⟩
  · intro _
    refine ⟨startedAt, started, ?_⟩
    show some (clock.battle.computeResume clock.now).endsAt =
      some (_ + (clock.battle.computeResume clock.now).totalPausedMs)
    unfold VideoRoomPkBattle.computeResume
    rw [ends, paused]
    exact congrArg some (Int.add_assoc _ _ _)
  · intro _
    refine ⟨rfl, ?_⟩
    show clock.livedMs = clock.now - clock.liveAt -
      (clock.battle.computeResume clock.now).totalPausedMs
    unfold VideoRoomPkBattle.computeResume
    rw [paused, lived]
    show _ = clock.now - clock.liveAt - (clock.battle.totalPausedMs + (clock.now - pausedAt))
    omega
  · -- the jobs armed before the freeze carry an older number
    intro job member
    rcases List.mem_cons.mp member with rfl | older
    · exact ⟨Nat.le_refl _, fun _ => armed_scheduleEnd rfl⟩
    · have before := (timed.armed job older).1
      have present : clock.resumeLive.battle.resumeSeq = clock.battle.resumeSeq + 1 := rfl
      rw [present]
      exact ⟨by omega, fun same => by omega⟩
  · intro settled
    exact absurd (timed.unsettled unfinished) settled

theorem goes_cancel : Goes clock clock.cancel := by
  unfold cancel
  split
  · exact .refl clock
  · refine ⟨?_, rfl, rfl, rfl⟩
    intro timed
    exact ⟨nofun, nofun, nofun, nofun, nofun, timed.armed, fun _ => rfl⟩

/-! ### Each operation -/

theorem goes_handleStart : Goes clock clock.handleStart := by
  unfold handleStart
  split
  · exact .refl clock
  · split
    · rename_i delivered
      exact goes_goLive (of_decide_eq_true (Bool.and_eq_true_iff.mp delivered).2)
    · exact .refl clock

theorem goes_sweepCountdowns : Goes clock clock.sweepCountdowns := by
  unfold sweepCountdowns
  split
  · rename_i counting
    split
    · exact .refl clock
    · split
      · exact .refl clock
      · exact goes_goLive counting
  · exact .refl clock

theorem goes_pause (removed : Bool) : Goes clock (clock.pause removed) := by
  unfold pause
  split
  · rename_i isLive
    exact goes_freeze rfl removed isLive
  · exact .refl clock

theorem goes_handleHostDrop (userId : UserId) (removed : Bool) :
    Goes clock (clock.handleHostDrop userId removed) := by
  unfold handleHostDrop
  split
  · rename_i dropped
    exact goes_freeze rfl removed (of_decide_eq_true (Bool.and_eq_true_iff.mp dropped).1)
  · exact .refl clock

theorem goes_resume : Goes clock clock.resume := by
  unfold resume
  split
  · rename_i paused
    exact goes_resumeLive (by rw [paused]; rfl)
  · exact .refl clock

theorem goes_handleHostReturn (userId : UserId) :
    Goes clock (clock.handleHostReturn userId) := by
  unfold handleHostReturn
  split
  · rename_i returned
    have recovering : clock.battle.status = .recovering :=
      of_decide_eq_true (Bool.and_eq_true_iff.mp returned).1
    split
    · exact .refl clock
    · split
      · exact .refl clock
      · exact goes_resumeLive (by rw [recovering]; rfl)
  · exact .refl clock

theorem goes_endBattle : Goes clock clock.endBattle := by
  unfold endBattle
  split
  · exact goes_settleWith
  · exact .refl clock

theorem goes_deliverEnd (position : Nat) : Goes clock (clock.deliverEnd position) := by
  unfold deliverEnd
  split
  · exact .refl clock
  · split
    · unfold handleEnd
      split
      · exact .refl clock
      · split
        · exact .refl clock
        · exact goes_settleWith
    · exact .refl clock

theorem goes_sweepExpiredBattles : Goes clock clock.sweepExpiredBattles := by
  unfold sweepExpiredBattles
  split
  · exact .refl clock
  · split
    · exact goes_settleWith
    · exact .refl clock

theorem goes_sweepOrphans : Goes clock clock.sweepOrphans := by
  unfold sweepOrphans
  split
  · split
    · exact .refl clock
    · split
      · exact .refl clock
      · exact goes_settleWith
  · exact .refl clock

theorem goes_sweepDeadRooms : Goes clock clock.sweepDeadRooms := by
  unfold sweepDeadRooms
  split
  · exact goes_settleWith
  · exact .refl clock

/-! ### Settling -/

/-- A battle has been LIVE for its time exactly when its row says so. -/
theorem lived_iff_timeUp (timed : Timed clock) (current : running clock.battle.status = true) :
    (clock.battle.durationSeconds : Int) * 1000 ≤ clock.livedMs ↔ clock.TimeUp := by
  obtain ⟨startedAt, started, ends⟩ := timed.deadline (.inr current)
  have shown : clock.livedMs =
      clock.battle.pausedAt.getD clock.now - clock.liveAt - clock.battle.totalPausedMs := by
    rcases live_or_frozen current with isLive | stopped
    · obtain ⟨unpaused, lived⟩ := timed.live isLive
      rw [unpaused]
      exact lived
    · obtain ⟨pausedAt, paused, lived⟩ := timed.paused stopped
      rw [paused]
      exact lived
  unfold TimeUp late
  rw [ends, started, Option.getD_some, Option.getD_some, shown]
  omega

theorem completes_iff : assertTransition status .completed = none ↔ running status = true := by
  cases status <;> decide

theorem settle_idle (isOver : running clock.battle.status = false) :
    clock.settle trigger = clock := by
  unfold settle
  split
  · rfl
  · split
    · rfl
    · rename_i completes
      exact absurd (completes_iff.mp completes) (by rw [isOver]; decide)

/-- What a settlement leaves behind. -/
def settles (clock : PkClock) (trigger : PkSettlementTrigger) : PkClock :=
  { clock.setStatus .completed with
    settled := some {
      trigger := trigger
      found := clock.battle.status
      livedMs := clock.livedMs
      frozenMs := clock.now - clock.battle.pausedAt.getD clock.now } }

theorem settle_running (current : running clock.battle.status = true) :
    clock.settle trigger = clock.settles trigger := by
  have unfinished : isPkTerminal clock.battle.status = false := by
    rcases live_or_frozen current with isLive | stopped
    · rw [isLive]
      rfl
    · exact (frozen_spec stopped).2.2
  unfold settle
  rw [unfinished, completes_iff.mpr current]
  rfl

theorem timed_settle (timed : Timed clock) : Timed (clock.settle trigger) := by
  cases current : running clock.battle.status with
  | false =>
      rw [settle_idle current]
      exact timed
  | true =>
      rw [settle_running current]
      refine ⟨nofun, ?_, nofun, nofun, nofun, timed.armed, fun _ => rfl⟩
      rintro (impossible | impossible)
      · cases impossible
      · cases impossible

theorem fair_settles : (clock.settles trigger).Fair ↔
    Settled.Due { trigger := trigger
                  found := clock.battle.status
                  livedMs := clock.livedMs
                  frozenMs := clock.now - clock.battle.pausedAt.getD clock.now }
      clock.battle.durationSeconds clock.config.orphanTimeoutSeconds := by
  constructor
  · intro fair
    exact fair _ rfl
  · rintro due _ ⟨⟩
    exact due

theorem fair_settle (timed : Timed clock) (fair : clock.Fair) :
    (clock.settle trigger).Fair ↔ clock.InTime trigger := by
  cases current : running clock.battle.status with
  | false =>
      rw [settle_idle current]
      refine iff_of_true fair ?_
      cases trigger with
      | manual => exact trivial
      | timer =>
          intro running
          rw [current] at running
          cases running
      | recovery =>
          intro running
          rw [current] at running
          cases running
  | true =>
      have lived := lived_iff_timeUp timed current
      rw [settle_running current, fair_settles]
      cases trigger with
      | manual => exact iff_of_true trivial trivial
      | recovery =>
          show _ ∨ _ ↔ (_ → _)
          rw [lived]
          exact ⟨fun due _ => due, fun due => due current⟩
      | timer =>
          show _ ∧ _ ∧ _ ↔ (_ → _)
          rw [lived]
          constructor
          · rintro ⟨notPaused, notRecovering, timeUp⟩ -
            refine ⟨?_, timeUp⟩
            rcases live_or_frozen current with isLive | stopped
            · exact isLive
            · rcases Bool.or_eq_true_iff.mp stopped with paused | recovering
              · exact absurd (of_decide_eq_true paused) notPaused
              · exact absurd (of_decide_eq_true recovering) notRecovering
          · intro inTime
            obtain ⟨isLive, timeUp⟩ := inTime current
            rw [isLive]
            exact ⟨nofun, nofun, timeUp⟩

/-- A settlement that goes on has left the queue. -/
theorem settleAt_spec (position : Nat) (givesUp : Bool) :
    Goes clock (clock.settleAt position givesUp) ∧ (givesUp = true ∨
        clock.settling[position]? = none) ∨
      ∃ taken trigger, Goes clock taken ∧ clock.settleAt position givesUp = taken.settle trigger ∧
        clock.settling[position]? = some trigger ∧ givesUp = false ∧
        (taken.InTime trigger ↔ clock.InTime trigger) := by
  unfold settleAt
  split
  · rename_i gone
    exact .inl ⟨.refl clock, .inr gone⟩
  · rename_i trigger found
    have goes : Goes clock { clock with settling := clock.settling.eraseIdx position } :=
      goes_of_same rfl rfl rfl rfl rfl rfl rfl
    cases givesUp with
    | true => exact .inl ⟨goes, .inl rfl⟩
    | false =>
        exact .inr ⟨_, trigger, goes, rfl, found, rfl, by cases trigger <;> exact Iff.rfl⟩

/-! ### Runs -/

theorem goes_step {event : PkClockEvent} (settlesNothing : ∀ position givesUp,
    event ≠ .settle position givesUp) : Goes clock (clock.step event) := by
  cases event with
  | pass ms => exact goes_pass ms
  | room live => exact goes_of_same rfl rfl rfl rfl rfl rfl rfl
  | start countdownSeconds => exact goes_start countdownSeconds
  | handleStart => exact goes_handleStart
  | pause removed => exact goes_pause removed
  | resume => exact goes_resume
  | handleHostDrop userId removed => exact goes_handleHostDrop userId removed
  | handleHostReturn userId => exact goes_handleHostReturn userId
  | cancel => exact goes_cancel
  | endBattle => exact goes_endBattle
  | handleEnd position => exact goes_deliverEnd position
  | sweepExpiredBattles => exact goes_sweepExpiredBattles
  | sweepCountdowns => exact goes_sweepCountdowns
  | sweepOrphans => exact goes_sweepOrphans
  | sweepDeadRooms => exact goes_sweepDeadRooms
  | settle position givesUp => exact absurd rfl (settlesNothing position givesUp)

theorem timed_step (timed : Timed clock) (event : PkClockEvent) : Timed (clock.step event) := by
  by_cases settling : ∃ position givesUp, event = .settle position givesUp
  · obtain ⟨position, givesUp, rfl⟩ := settling
    rcases settleAt_spec position givesUp with ⟨goes, -⟩ | ⟨taken, trigger, goes, same, -⟩
    · exact goes.timed timed
    · show Timed (clock.settleAt position givesUp)
      rw [same]
      exact timed_settle (goes.timed timed)
  · refine (goes_step ?_).timed timed
    rintro position givesUp rfl
    exact settling ⟨position, givesUp, rfl⟩

/-- One step is fair exactly when a settlement in it finds the time up. -/
theorem fair_step (timed : Timed clock) (fair : clock.Fair) (event : PkClockEvent) :
    (clock.step event).Fair ↔ clock.Keeps event := by
  by_cases settling : ∃ position givesUp, event = .settle position givesUp
  · obtain ⟨position, givesUp, rfl⟩ := settling
    show (clock.settleAt position givesUp).Fair ↔ _
    rcases settleAt_spec position givesUp with
      ⟨goes, rfl | gone⟩ | ⟨taken, trigger, goes, same, found, rfl, inTime⟩
    · exact iff_of_true (goes.fair_iff.mpr fair) trivial
    · refine iff_of_true (goes.fair_iff.mpr fair) ?_
      cases givesUp with
      | true => exact trivial
      | false =>
          show ∀ trigger ∈ clock.settling[position]?, _
          rw [gone]
          exact nofun
    · rw [same, fair_settle (goes.timed timed) (goes.fair_iff.mpr fair), inTime]
      show _ ↔ ∀ trigger ∈ clock.settling[position]?, _
      rw [found]
      constructor
      · rintro inTime _ ⟨⟩
        exact inTime
      · intro all
        exact all trigger rfl
  · have nothing : ∀ position givesUp, event ≠ .settle position givesUp := by
      rintro position givesUp rfl
      exact settling ⟨position, givesUp, rfl⟩
    refine iff_of_true ((goes_step nothing).fair_iff.mpr fair) ?_
    cases event with
    | settle position givesUp => exact absurd rfl (nothing position givesUp)
    | _ => exact trivial

theorem Accepted.timed (accepted : clock.Accepted) : Timed clock where
  unpaused := fun _ => ⟨accepted.notPaused.1, accepted.notPaused.2, accepted.notLived⟩
  deadline := by
    rw [accepted.status]
    rintro (impossible | impossible)
    · cases impossible
    · cases impossible
  live := by
    rw [accepted.status]
    exact nofun
  paused := by
    rw [accepted.status]
    exact nofun
  unarmed := fun _ => accepted.noJobs.2.1
  armed := by
    rw [accepted.noJobs.2.1]
    exact nofun
  settled := fun settled => absurd accepted.unsettled settled

def accepted300 : PkClock where
  config := { orphanTimeoutSeconds := 120, recoveryGraceSeconds := 45 }
  battle :=
    { status := .accepted
      countdownSeconds := 10
      durationSeconds := 300
      startedAt := none
      endsAt := none
      pausedAt := none
      totalPausedMs := 0
      resumeSeq := 0 }
  participants := ["anna", "bert"]
  roomLive := true
  now := 0
  startJob := none
  endJobs := []
  settling := []
  livedMs := 0
  liveAt := 0
  settled := none

theorem accepted_accepted300 : accepted300.Accepted where
  status := rfl
  notPaused := ⟨rfl, rfl⟩
  noJobs := ⟨rfl, rfl, rfl⟩
  notLived := rfl
  unsettled := rfl

/-- A pause and a drop of the host; the end jobs armed before them come late. -/
def twoFreezes : List PkClockEvent :=
  [.start none, .pass 10000, .handleStart, .pass 100000, .pause false, .pass 60000, .resume,
    .pass 150000, .handleEnd 1, .handleHostDrop "bert" false, .pass 40000,
    .handleHostReturn "bert", .handleEnd 1, .pass 50000, .handleEnd 0, .settle 0 false]

/-- The end job was armed before the pause, and its cancellation failed. -/
def settledWhilePaused : List PkClockEvent :=
  [.start none, .pass 10000, .handleStart, .pass 100000, .pause false, .pass 200000,
    .handleEnd 0, .settle 0 false]

end PkClock

end Soulzaa.VideoRooms
