/-
Strikes of the turn watchdog.

A seat's count is written by its own moves, and by the watchdog both when it advances past the seat
and when it hands the turn to it.
-/

import Soulzaa.Games.LiveState
import Mathlib.Logic.Function.Basic

namespace Soulzaa.Games

/-! ### Counts -/

/-- The strikes recorded for a seat. -/
def GameLiveState.strikes (state : GameLiveState) (seat : UserId) : Nat :=
  (state.timeoutCounts.lookup seat).getD 0

theorem lookup_filter_ne (counts : List (UserId × Nat)) {seat userId : UserId}
    (different : seat ≠ userId) :
    (counts.filter fun entry => entry.1 ≠ userId).lookup seat = counts.lookup seat := by
  induction counts with
  | nil => rfl
  | cons first rest ih =>
      obtain ⟨key, count⟩ := first
      by_cases isIts : key = userId
      · have other : (seat == key) = false := beq_false_of_ne (isIts ▸ different)
        rw [List.filter_cons_of_neg (by simpa using isIts), ih, List.lookup_cons, other]
      · rw [List.filter_cons_of_pos (by simpa using isIts), List.lookup_cons, List.lookup_cons, ih]

theorem lookup_setCount (counts : List (UserId × Nat)) (userId seat : UserId) (count : Nat) :
    (setCount counts userId count).lookup seat =
      if seat = userId then some count else counts.lookup seat := by
  unfold setCount
  rw [List.lookup_cons]
  split
  · rename_i isIts
    rw [if_pos (eq_of_beq isIts)]
  · rename_i isOther
    have different : seat ≠ userId := ne_of_beq_false isOther
    rw [if_neg different, lookup_filter_ne counts different]

/-! ### Timeouts since the last move -/

/-- The live state, and how often each seat was advanced past since its last own move. -/
structure Watched where
  live : GameLiveState
  since : UserId → Nat

/-- Whether the operation is carried out. -/
def Watched.step (watched : Watched) (operation : LiveOperation) : Watched :=
  match operation.perform watched.live with
  | none => watched
  | some next =>
      { live := next
        since :=
          match operation with
          | .applyMove frame => Function.update watched.since frame.playerId 0
          | .removeSeat _ _ => watched.since
          | .forceAdvanceTurn _ =>
              match truthy watched.live.currentTurnUserId with
              | some skipped =>
                  Function.update watched.since skipped (watched.since skipped + 1)
              | none => watched.since }

/-- Strikes count the timeouts of each seat since it last moved. -/
def Watched.Counts (watched : Watched) : Prop :=
  ∀ seat ∈ watched.live.seatOrder, watched.live.strikes seat = watched.since seat

/-- The watchdog hands the turn to another seat, that has no strikes. -/
def Watched.Clears (watched : Watched) : LiveOperation → Prop
  | .forceAdvanceTurn _ => ∀ next,
      nextSeat watched.live.seatOrder watched.live.currentTurnUserId = some next →
        some next ≠ watched.live.currentTurnUserId ∧ watched.live.strikes next = 0
  | _ => True

/-- What the sweep does with a seat that it has advanced past. -/
def forfeits (maxTimeouts : Nat) (advance : ForcedAdvance) : Bool :=
  (truthy advance.skippedUserId).isSome && maxTimeouts ≤ advance.skippedStrikes

/-- A seat is forfeited exactly when it has been advanced past often enough, this time included. -/
def Watched.Forfeits (maxTimeouts : Nat) (watched : Watched) : LiveOperation → Prop
  | .forceAdvanceTurn now => ∀ skipped, watched.live.currentTurnUserId = some skipped →
      (forfeits maxTimeouts (forceAdvanceTurn watched.live now) = true ↔
        maxTimeouts ≤ watched.since skipped + 1)
  | _ => True

namespace Watched

variable {watched : Watched}

theorem live_step (watched : Watched) (operation : LiveOperation) :
    (watched.step operation).live = liveStep watched.live operation := by
  unfold step liveStep
  cases operation.perform watched.live <;> rfl

theorem strikes_applyMove {state next : GameLiveState} {frame : GameMoveFrame}
    (applied : applyMove state frame = some next) (seat : UserId) :
    next.strikes seat = if seat = frame.playerId then 0 else state.strikes seat := by
  simp only [applyMove, Option.bind_eq_bind, Option.bind_eq_some_iff, Option.some.injEq] at applied
  obtain ⟨_, _, rfl⟩ := applied
  unfold GameLiveState.strikes
  dsimp only
  cases found : state.timeoutCounts.lookup frame.playerId with
  | none =>
      dsimp only
      split
      · rename_i isMover
        rw [isMover, found]
        rfl
      · rfl
  | some count =>
      dsimp only
      by_cases isZero : count ≠ 0
      · rw [if_pos isZero, lookup_setCount]
        split <;> rfl
      · rw [if_neg isZero]
        split
        · rename_i isMover
          rw [isMover, found, Decidable.not_not.mp isZero]
          rfl
        · rfl

theorem counts_applyMove {next : GameLiveState} {frame : GameMoveFrame} (counts : watched.Counts)
    (applied : applyMove watched.live frame = some next) :
    Counts { live := next, since := Function.update watched.since frame.playerId 0 } := by
  intro seat isSeat
  have sameSeats : next.seatOrder = watched.live.seatOrder := by
    simp only [applyMove, Option.bind_eq_bind, Option.bind_eq_some_iff,
      Option.some.injEq] at applied
    obtain ⟨_, _, rfl⟩ := applied
    rfl
  dsimp only at isSeat ⊢
  rw [strikes_applyMove applied, Function.update_apply]
  split
  · rfl
  · exact counts seat (sameSeats ▸ isSeat)

theorem counts_removeSeat (counts : watched.Counts) (userId : UserId) (now : Int) :
    Counts { live := removeSeat watched.live userId now, since := watched.since } := by
  intro seat isSeat
  obtain ⟨wasSeat, isOther⟩ := List.mem_filter.mp isSeat
  have different : seat ≠ userId := of_decide_eq_true isOther
  rw [← counts seat wasSeat]
  exact congrArg (Option.getD · 0) (lookup_filter_ne watched.live.timeoutCounts different)

theorem truthy_of_seated (sound : watched.live.Sound) {current : Option UserId} {holder : UserId}
    (isHolder : current = some holder) (isSeat : holder ∈ watched.live.seatOrder) :
    truthy current = some holder := by
  rw [isHolder]
  exact Option.filter_eq_some_iff.mpr
    ⟨rfl, decide_eq_true fun isEmpty => sound.named (isEmpty ▸ isSeat)⟩

/-- The strikes after a forced advance from a seat to the next. -/
theorem strikes_forceAdvance (sound : watched.live.Sound) {holder next : UserId}
    (isHolder : watched.live.currentTurnUserId = some holder)
    (isNext : nextSeat watched.live.seatOrder watched.live.currentTurnUserId = some next)
    (now : Int) (seat : UserId) :
    (forceAdvanceTurn watched.live now).state.strikes seat =
      if seat = next then 0
      else if seat = holder then watched.live.strikes holder + 1
      else watched.live.strikes seat := by
  have held := truthy_of_seated sound isHolder (sound.turn.holder holder isHolder)
  have seated := (seated_nextSeat watched.live.seatOrder
    watched.live.currentTurnUserId).holder next isNext
  have follows := truthy_of_seated sound isNext seated
  unfold GameLiveState.strikes forceAdvanceTurn
  dsimp only
  rw [held, follows]
  dsimp only
  rw [lookup_setCount, lookup_setCount]
  split
  · rfl
  · split <;> rfl

/-- A forced advance keeps the counts exactly where it clears nothing. -/
theorem counts_forceAdvance_iff (sound : watched.live.Sound) (counts : watched.Counts)
    (now : Int) : (watched.step (.forceAdvanceTurn now)).Counts ↔
      watched.Clears (.forceAdvanceTurn now) := by
  cases isHolder : watched.live.currentTurnUserId with
  | none =>
      have empty := sound.turn.vacant.mp isHolder
      refine iff_of_true ?_ ?_
      · intro seat isSeat
        rw [live_step] at isSeat
        change seat ∈ watched.live.seatOrder at isSeat
        rw [empty] at isSeat
        cases isSeat
      · intro next isNext
        rw [empty] at isNext
        cases isNext
  | some holder =>
      have isSeat := sound.turn.holder holder isHolder
      have held := truthy_of_seated sound isHolder isSeat
      have since : (watched.step (.forceAdvanceTurn now)).since =
          Function.update watched.since holder (watched.since holder + 1) := by
        unfold Watched.step
        erw [held]
        rfl
      obtain ⟨next, isNext⟩ : ∃ next,
          nextSeat watched.live.seatOrder watched.live.currentTurnUserId = some next := by
        refine Option.ne_none_iff_exists'.mp fun isNone => ?_
        rw [(seated_nextSeat _ _).vacant.mp isNone] at isSeat
        cases isSeat
      have seated := (seated_nextSeat _ _).holder next isNext
      have strikes := strikes_forceAdvance sound isHolder isNext now
      have clears : watched.Clears (.forceAdvanceTurn now) ↔
          next ≠ holder ∧ watched.live.strikes next = 0 := by
        unfold Clears
        rw [isNext, isHolder]
        constructor
        · intro all
          exact (all next rfl).imp (fun different same => different (congrArg some same)) id
        · rintro ⟨different, isClear⟩ other same
          cases same
          exact ⟨fun same => different (Option.some_inj.mp same), isClear⟩
      rw [clears]
      constructor
      · intro after
        have ofNext := after next seated
        rw [since, Function.update_apply] at ofNext
        rw [show (watched.step (.forceAdvanceTurn now)).live.strikes next = 0 from
          (strikes next).trans (if_pos rfl)] at ofNext
        by_cases same : next = holder
        · rw [if_pos same] at ofNext
          cases ofNext
        · rw [if_neg same] at ofNext
          exact ⟨same, (counts next seated).trans ofNext.symm⟩
      · rintro ⟨different, isClear⟩ seat isSeat
        change (forceAdvanceTurn watched.live now).state.strikes seat = _
        rw [since, strikes, Function.update_apply]
        by_cases same : seat = next
        · rw [if_pos same, same, if_neg different, ← counts next seated, isClear]
        · rw [if_neg same]
          split
          · rw [counts holder (sound.turn.holder holder isHolder)]
          · exact counts seat isSeat

theorem counts_step_iff (sound : watched.live.Sound) (counts : watched.Counts)
    (operation : LiveOperation) :
    (watched.step operation).Counts ↔ watched.Clears operation := by
  cases operation with
  | forceAdvanceTurn now => exact counts_forceAdvance_iff sound counts now
  | removeSeat userId now => exact iff_of_true (counts_removeSeat counts userId now) trivial
  | applyMove frame =>
      refine iff_of_true ?_ trivial
      unfold step
      cases performed : (LiveOperation.applyMove frame).perform watched.live with
      | none => exact counts
      | some next =>
          exact counts_applyMove counts (Option.ite_none_right_eq_some.mp performed).2

theorem forfeits_of_counts (sound : watched.live.Sound) (counts : watched.Counts)
    (maxTimeouts : Nat) (operation : LiveOperation) : watched.Forfeits maxTimeouts operation := by
  cases operation with
  | removeSeat userId now => exact trivial
  | applyMove frame => exact trivial
  | forceAdvanceTurn now =>
      intro skipped isSkipped
      have isSeat := sound.turn.holder skipped isSkipped
      have held := truthy_of_seated sound isSkipped isSeat
      have strikes : (forceAdvanceTurn watched.live now).skippedStrikes =
          watched.live.strikes skipped + 1 := by
        unfold forceAdvanceTurn GameLiveState.strikes
        dsimp only
        rw [held]
      have isSome : (truthy (forceAdvanceTurn watched.live now).skippedUserId).isSome = true :=
        (congrArg Option.isSome held).trans rfl
      rw [forfeits, Bool.and_eq_true, decide_eq_true_iff, strikes, counts skipped isSeat]
      exact and_iff_right isSome

/-! ### Runs -/

/-- A match that starts. -/
def start (seatOrder : List UserId) (startedAtMs : Int) (turnSeconds : Nat) : Watched :=
  { live := initLiveState seatOrder startedAtMs turnSeconds
    since := fun _ => 0 }

/-- Strikes count timeouts throughout a run exactly when the watchdog never hands the turn to a seat
with strikes, and then every seat is forfeited when it has timed out often enough. -/
theorem counts_iff_clears {seatOrder : List UserId} (distinct : seatOrder.Nodup)
    (named : "" ∉ seatOrder) (startedAtMs : Int) (turnSeconds maxTimeouts : Nat)
    (operations : List LiveOperation) :
    (Runs.Always step Counts (start seatOrder startedAtMs turnSeconds) operations ↔
        Runs.Each step Clears (start seatOrder startedAtMs turnSeconds) operations) ∧
      (Runs.Each step Clears (start seatOrder startedAtMs turnSeconds) operations →
        Runs.Each step (Forfeits maxTimeouts) (start seatOrder startedAtMs turnSeconds)
          operations) := by
  have sound := sound_initLiveState distinct named startedAtMs turnSeconds
  have kept : ∀ (watched : Watched) (operation : LiveOperation), watched.live.Sound →
      (watched.step operation).live.Sound := fun watched operation before =>
    (live_step watched operation).symm ▸ sound_liveStep before operation
  constructor
  · exact Runs.always_iff_each (fun watched : Watched => watched.live.Sound)
      (fun watched operation before _ _ => kept watched operation before)
      (fun watched operation before counts => counts_step_iff before counts operation)
      (start seatOrder startedAtMs turnSeconds) sound (fun _ _ => rfl) operations
  · exact Runs.each_of_each
      (fun (watched : Watched) operation (before : watched.live.Sound ∧ watched.Counts) clears =>
        ⟨kept watched operation before.1,
          (counts_step_iff before.1 before.2 operation).mpr clears⟩)
      (fun watched operation before _ =>
        forfeits_of_counts before.1 before.2 maxTimeouts operation)
      (start seatOrder startedAtMs turnSeconds) ⟨sound, fun _ _ => rfl⟩ operations

/-- Ann, who is away, is forfeited at her third timeout, since Bea moves in between. -/
theorem counts_iff_clears_of_two :
    (Runs.Always step Counts (start ["ann", "bea"] 0 30)
        [.forceAdvanceTurn 40, .applyMove ⟨"bea", [], 50, none⟩, .forceAdvanceTurn 90] ↔
        Runs.Each step Clears (start ["ann", "bea"] 0 30)
          [.forceAdvanceTurn 40, .applyMove ⟨"bea", [], 50, none⟩, .forceAdvanceTurn 90]) ∧
      (Runs.Each step Clears (start ["ann", "bea"] 0 30)
          [.forceAdvanceTurn 40, .applyMove ⟨"bea", [], 50, none⟩, .forceAdvanceTurn 90] →
        Runs.Each step (Forfeits 3) (start ["ann", "bea"] 0 30)
          [.forceAdvanceTurn 40, .applyMove ⟨"bea", [], 50, none⟩, .forceAdvanceTurn 90]) :=
  counts_iff_clears (by decide) (by decide) 0 30 3 _

/-- Two seats that are both away never get past one strike. -/
def bothAway : List LiveOperation :=
  [.forceAdvanceTurn 40, .forceAdvanceTurn 80, .forceAdvanceTurn 120, .forceAdvanceTurn 160,
    .forceAdvanceTurn 200]

theorem not_counts_bothAway :
    ¬Runs.Always step Counts (start ["ann", "bea"] 0 30) bothAway ∧
      (Runs.run step (start ["ann", "bea"] 0 30) (bothAway.take 4)).since "ann" = 2 ∧
      ¬forfeits 3 (forceAdvanceTurn
        (Runs.run step (start ["ann", "bea"] 0 30) (bothAway.take 4)).live 200) = true := by
  refine ⟨?_, by decide, by decide⟩
  rintro ⟨_, _, counts, _⟩
  exact absurd (counts "ann" (by decide)) (by decide)

end Watched

end Soulzaa.Games
