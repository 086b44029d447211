/-
The score that orders a seat queue, against the order that it stands for.

A score is a band and an arrival within it.  An entry keeps its place before another as long as
it does not arrive later by all the bands between the two.
-/

import Mathlib.Data.Rat.Floor

namespace Soulzaa.VideoRooms.SeatQueue

def queueFairnessSkipCap : Int := 3
def maxVipOrdinal : Int := 7
def vipTierWeight : Int := 10 ^ 12
def pinnedBand : Int := -((maxVipOrdinal + 1) * vipTierWeight)

/-- The milliseconds of a valid `Date`. -/
structure Date where
  time : Int
  time_ge : -8640000000000000 ≤ time
  time_le : time ≤ 8640000000000000

structure QueueScoreInput where
  /-- `none` is NaN or an infinity. -/
  vipLevel : Option Rat
  /-- `none` is an invalid `Date`. -/
  createdAt : Option Date
  skipCount : Int

def computeQueueScore (input : QueueScoreInput) : Int :=
  let arrival := (input.createdAt.map Date.time).getD 0
  if queueFairnessSkipCap ≤ input.skipCount then pinnedBand + arrival
  else
    let safeVipLevel := (input.vipLevel.map Rat.floor).getD 0
    let tier := min (max safeVipLevel 0) maxVipOrdinal
    (maxVipOrdinal - tier) * vipTierWeight + arrival

/-- Every score is a safe integer, so that no sum in it is rounded. -/
theorem computeQueueScore_safe (input : QueueScoreInput) :
    |computeQueueScore input| < 2 ^ 53 := by
  have arrival : |(input.createdAt.map Date.time).getD 0| ≤ 8640000000000000 := by
    cases input.createdAt with
    | none => decide
    | some date => exact abs_le.mpr ⟨date.time_ge, date.time_le⟩
  rw [abs_le] at arrival
  unfold computeQueueScore pinnedBand maxVipOrdinal vipTierWeight
  rw [abs_lt]
  dsimp only
  split
  · omega
  · omega

/-! ### The documented order -/

/-- A queued user, of a level that the wealth system has issued. -/
structure QueueEntry where
  level : Nat
  createdAt : Date
  skipCount : Int

namespace QueueEntry

def input (entry : QueueEntry) : QueueScoreInput :=
  { vipLevel := some (entry.level : Int)
    createdAt := some entry.createdAt
    skipCount := entry.skipCount }

def score (entry : QueueEntry) : Int := computeQueueScore entry.input

def Pinned (entry : QueueEntry) : Prop := queueFairnessSkipCap ≤ entry.skipCount

instance (entry : QueueEntry) : Decidable entry.Pinned := inferInstanceAs (Decidable (_ ≤ _))

/-- Pinned entries first, then higher levels, then earlier arrivals. -/
def Precedes (first second : QueueEntry) : Prop :=
  (first.Pinned ∧ ¬second.Pinned) ∨
    ((first.Pinned ↔ second.Pinned) ∧ (second.level < first.level ∨
      (first.level = second.level ∧ first.createdAt.time < second.createdAt.time)))

instance (first second : QueueEntry) : Decidable (first.Precedes second) :=
  inferInstanceAs (Decidable (_ ∨ _))

/-- The scores sort the two entries as the documented order does. -/
def Realises (first second : QueueEntry) : Prop :=
  (first.score < second.score ↔ first.Precedes second) ∧
    (second.score < first.score ↔ second.Precedes first)

instance (first second : QueueEntry) : Decidable (first.Realises second) :=
  inferInstanceAs (Decidable (_ ∧ _))

/-- Levels from seven on share a band, and so do all pinned entries. -/
def band (entry : QueueEntry) : Int :=
  if entry.Pinned then 2 * maxVipOrdinal + 1 else min entry.level maxVipOrdinal

/-- If the first entry goes before the second, it does not arrive later than it by as much as
there is between their bands. -/
def KeepsPlace (first second : QueueEntry) : Prop :=
  first.Precedes second →
    first.createdAt.time - second.createdAt.time < (first.band - second.band) * vipTierWeight

variable {first second : QueueEntry}

theorem score_eq (entry : QueueEntry) :
    entry.score = (maxVipOrdinal - entry.band) * vipTierWeight + entry.createdAt.time := by
  unfold score computeQueueScore band pinnedBand input
  dsimp only [Option.map_some, Option.getD_some]
  by_cases pinned : entry.Pinned
  · rw [if_pos pinned, if_pos (show queueFairnessSkipCap ≤ entry.skipCount from pinned)]
    unfold maxVipOrdinal
    ring
  · rw [if_neg pinned, if_neg (show ¬queueFairnessSkipCap ≤ entry.skipCount from pinned),
      Rat.floor_intCast, max_eq_left (Int.natCast_nonneg entry.level)]

theorem score_lt_iff : first.score < second.score ↔
    first.createdAt.time - second.createdAt.time < (first.band - second.band) * vipTierWeight := by
  rw [score_eq, score_eq]
  constructor
  · intro lower
    linarith
  · intro within
    linarith

theorem not_precedes_of_precedes (precedes : first.Precedes second) : ¬second.Precedes first := by
  unfold Precedes Pinned at *
  omega

/-- Of two entries one goes before the other, or they do not differ in what the order sees. -/
theorem precedes_or (first second : QueueEntry) : first.Precedes second ∨
    second.Precedes first ∨ ((first.Pinned ↔ second.Pinned) ∧ first.level = second.level ∧
      first.createdAt.time = second.createdAt.time) := by
  unfold Precedes Pinned
  omega

theorem score_eq_of_same (pinned : first.Pinned ↔ second.Pinned)
    (level : first.level = second.level)
    (time : first.createdAt.time = second.createdAt.time) : first.score = second.score := by
  have sameBand : first.band = second.band := by
    unfold band
    rw [level]
    exact if_congr pinned rfl rfl
  rw [score_eq, score_eq, sameBand, time]

theorem realises_iff_of_precedes (precedes : first.Precedes second) :
    first.Realises second ↔ first.score < second.score := by
  have other := not_precedes_of_precedes precedes
  constructor
  · intro realises
    exact realises.1.mpr precedes
  · intro lower
    exact ⟨iff_of_true lower precedes, iff_of_false (not_lt_of_gt lower) other⟩

theorem realises_iff_keepsPlace (first second : QueueEntry) :
    first.Realises second ↔ first.KeepsPlace second ∧ second.KeepsPlace first := by
  rcases precedes_or first second with before | after | ⟨pinned, level, time⟩
  · rw [realises_iff_of_precedes before, score_lt_iff]
    constructor
    · intro within
      exact ⟨fun _ => within, fun after => absurd after (not_precedes_of_precedes before)⟩
    · intro keeps
      exact keeps.1 before
  · have swapped : first.Realises second ↔ second.Realises first := and_comm
    rw [swapped, realises_iff_of_precedes after, score_lt_iff]
    constructor
    · intro within
      exact ⟨fun before => absurd before (not_precedes_of_precedes after), fun _ => within⟩
    · intro keeps
      exact keeps.2 after
  · have same := score_eq_of_same pinned level time
    have notBefore : ¬first.Precedes second := by
      unfold Precedes Pinned at *
      omega
    have notAfter : ¬second.Precedes first := by
      unfold Precedes Pinned at *
      omega
    constructor
    · intro _
      exact ⟨fun before => absurd before notBefore, fun after => absurd after notAfter⟩
    · intro _
      exact ⟨iff_of_false (same ▸ lt_irrefl _) notBefore,
        iff_of_false (same ▸ lt_irrefl _) notAfter⟩

/-- Of levels nine and eight, the one that has come first sorts first. -/
theorem not_realises_saturated :
    ¬Realises ⟨9, ⟨1, by decide, by decide⟩, 0⟩ ⟨8, ⟨0, by decide, by decide⟩, 0⟩ := by
  decide

end QueueEntry

end Soulzaa.VideoRooms.SeatQueue
