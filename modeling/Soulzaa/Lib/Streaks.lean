/-
Runs of consecutive days.

The streak of a day is the number of attended days that end on it without a gap.  It depends
on the days up to it alone.
-/

import Mathlib.Data.Nat.Init
import Mathlib.Order.Basic

namespace Soulzaa.Streaks

/-- How many attended days end on the day without a gap. -/
def streak (attended : Nat → Bool) : Nat → Nat
  | 0 => if attended 0 then 1 else 0
  | day + 1 => if attended (day + 1) then streak attended day + 1 else 0

variable {attended other : Nat → Bool} {day : Nat}

theorem streak_of_absent (absent : attended day = false) : streak attended day = 0 := by
  cases day with
  | zero => exact if_neg (by rw [absent]; exact Bool.false_ne_true)
  | succ day => exact if_neg (by rw [absent]; exact Bool.false_ne_true)

theorem streak_succ (present : attended (day + 1) = true) :
    streak attended (day + 1) = streak attended day + 1 :=
  if_pos present

/-- After a gap a streak is one day long. -/
theorem streak_of_gap (present : attended day = true)
    (gap : ∀ before, day = before + 1 → attended before = false) : streak attended day = 1 := by
  cases day with
  | zero => exact if_pos present
  | succ before => rw [streak_succ present, streak_of_absent (gap before rfl)]

theorem streak_pos (present : attended day = true) : 1 ≤ streak attended day := by
  cases day with
  | zero => exact Nat.le_of_eq (if_pos present).symm
  | succ before =>
      rw [streak_succ present]
      exact Nat.le_add_left 1 _

theorem streak_congr (same : ∀ before, before ≤ day → attended before = other before) :
    streak attended day = streak other day := by
  induction day with
  | zero =>
      unfold streak
      rw [same 0 (Nat.le_refl 0)]
  | succ day ih =>
      unfold streak
      rw [same (day + 1) (Nat.le_refl _), ih fun before le => same before (Nat.le_succ_of_le le)]

/-- How many streaks of a full length go on the day after, before the bound. -/
def continued (attended : Nat → Bool) (length bound : Nat) : Nat :=
  (List.range bound).countP fun day =>
    attended day && attended (day + 1) && streak attended day % length = 0

theorem continued_congr {length bound : Nat}
    (same : ∀ day, day ≤ bound → attended day = other day) :
    continued attended length bound = continued other length bound := by
  apply List.countP_congr
  intro day inside
  have small := List.mem_range.mp inside
  have sameStreak : streak attended day = streak other day :=
    streak_congr fun before le => same before (Nat.le_trans le (Nat.le_of_lt small))
  rw [same day (Nat.le_of_lt small), same (day + 1) small, sameStreak]

theorem continued_succ (length bound : Nat) :
    continued attended length (bound + 1) =
      continued attended length bound +
        if attended bound && attended (bound + 1) && streak attended bound % length = 0 then 1
        else 0 := by
  unfold continued
  rw [List.range_succ, List.countP_append, List.countP_singleton]

/-- Nothing goes on where nobody attends any more. -/
theorem continued_of_absent {length last bound : Nat} (later : last ≤ bound)
    (absent : ∀ day, last < day → attended day = false) :
    continued attended length bound = continued attended length last := by
  induction bound, later using Nat.le_induction with
  | base => rfl
  | succ bound later ih =>
      rw [continued_succ, ih, if_neg, Nat.add_zero]
      rw [absent (bound + 1) (Nat.lt_succ_of_le later), Bool.and_false, Bool.false_and]
      exact Bool.false_ne_true

end Soulzaa.Streaks
