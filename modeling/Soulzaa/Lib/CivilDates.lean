/-
Dates of the civil calendar, one after the other.

The date after a date is the next of its month, the first of the next month or the first of
the next year, and the date before it is found the same way back.
-/

import Mathlib.Algebra.BigOperators.Group.List.Basic
import Mathlib.Data.Nat.Basic
import Mathlib.Logic.Function.Iterate
import Mathlib.Order.Monotone.Basic
import Mathlib.Tactic.Ring

namespace Soulzaa.CivilDates

structure Date where
  year : Nat
  month : Nat
  day : Nat
  deriving DecidableEq, Repr

def isLeap (year : Nat) : Bool := year % 4 = 0 && (year % 100 ≠ 0 || year % 400 = 0)

def daysInMonth (year month : Nat) : Nat :=
  if month = 2 then if isLeap year then 29 else 28
  else if month = 4 ∨ month = 6 ∨ month = 9 ∨ month = 11 then 30
  else 31

structure Date.Valid (date : Date) : Prop where
  month_pos : 1 ≤ date.month
  month_le : date.month ≤ 12
  day_pos : 1 ≤ date.day
  day_le : date.day ≤ daysInMonth date.year date.month

def Date.next (date : Date) : Date :=
  if date.day < daysInMonth date.year date.month then { date with day := date.day + 1 }
  else if date.month < 12 then
    { date with
      month := date.month + 1
      day := 1 }
  else
    { year := date.year + 1
      month := 1
      day := 1 }

def Date.previous (date : Date) : Date :=
  if 1 < date.day then { date with day := date.day - 1 }
  else if 1 < date.month then
    { date with
      month := date.month - 1
      day := daysInMonth date.year (date.month - 1) }
  else
    { year := date.year - 1
      month := 12
      day := 31 }

def Date.dayOfYear (date : Date) : Nat :=
  ((List.range date.month).map fun before =>
    if before = 0 then 0 else daysInMonth date.year before).sum + date.day

/-- Monday is 1 and Sunday is 7. -/
def Date.dayNum (date : Date) : Nat :=
  let past := date.year - 1
  (365 * past + past / 4 - past / 100 + past / 400 + date.dayOfYear + 6) % 7 + 1

/-- The Thursday of the week. -/
def Date.thursday (date : Date) : Date :=
  Date.next^[4 - date.dayNum] (Date.previous^[date.dayNum - 4] date)

/-- The number of the week in the year that its Thursday is in. -/
def Date.weekNumber (date : Date) : Nat := (date.thursday.dayOfYear + 6) / 7

variable {date : Date}

theorem daysInMonth_pos (year month : Nat) : 1 ≤ daysInMonth year month := by
  unfold daysInMonth
  split
  · split
    · decide
    · decide
  · split
    · decide
    · decide

theorem daysInMonth_le (year month : Nat) : daysInMonth year month ≤ 31 := by
  unfold daysInMonth
  split
  · split
    · decide
    · decide
  · split
    · decide
    · decide

theorem Date.Valid.next (valid : date.Valid) : date.next.Valid := by
  unfold Date.next
  split
  · rename_i later
    exact ⟨valid.month_pos, valid.month_le, Nat.le_add_left 1 date.day, later⟩
  · split
    · rename_i early
      exact ⟨Nat.le_add_left 1 date.month, early, Nat.le_refl 1, daysInMonth_pos _ _⟩
    · exact ⟨Nat.le_refl 1, Nat.one_le_ofNat, Nat.le_refl 1, daysInMonth_pos _ _⟩

/-- Months and leap years included. -/
theorem previous_next (valid : date.Valid) : date.next.previous = date := by
  obtain ⟨year, month, day⟩ := date
  obtain ⟨month_pos, month_le, day_pos, day_le⟩ := valid
  dsimp only at month_pos month_le day_pos day_le
  unfold Date.next Date.previous
  dsimp only
  by_cases later : day < daysInMonth year month
  · rw [if_pos later]
    dsimp only
    rw [if_pos (by omega), Nat.add_sub_cancel]
  · have isLast : day = daysInMonth year month := by omega
    rw [if_neg later]
    by_cases early : month < 12
    · rw [if_pos early]
      dsimp only
      rw [if_neg (by decide), if_pos (by omega), Nat.add_sub_cancel, isLast]
    · have isDecember : month = 12 := by omega
      rw [if_neg early]
      dsimp only
      rw [if_neg (by decide), if_neg (by decide), Nat.add_sub_cancel, isLast, isDecember]
      rfl

/-! ### The calendar from a first date on -/

def calendar (first : Date) : Nat → Date
  | 0 => first
  | count + 1 => (calendar first count).next

variable {first : Date}

theorem valid_calendar (valid : first.Valid) (count : Nat) : (calendar first count).Valid := by
  induction count with
  | zero => exact valid
  | succ count ih => exact ih.next

theorem previous_calendar (valid : first.Valid) (count : Nat) :
    (calendar first (count + 1)).previous = calendar first count :=
  previous_next (valid_calendar valid count)

/-- Dates by year, month and day. -/
def Date.rank (date : Date) : Nat := (date.year * 13 + date.month) * 32 + date.day

theorem rank_lt_next (valid : date.Valid) : date.rank < date.next.rank := by
  have month_le := valid.month_le
  have day_le := valid.day_le.trans (daysInMonth_le _ _)
  unfold Date.next Date.rank
  split
  · exact Nat.lt_succ_self _
  · split
    · dsimp only
      omega
    · dsimp only
      omega

theorem rank_strictMono (valid : first.Valid) :
    StrictMono fun count => (calendar first count).rank :=
  strictMono_nat_of_lt_succ fun count => rank_lt_next (valid_calendar valid count)

theorem calendar_inj (valid : first.Valid) {one two : Nat} :
    calendar first one = calendar first two ↔ one = two := by
  constructor
  · intro same
    exact (rank_strictMono valid).injective (congrArg Date.rank same)
  · rintro rfl
    rfl

end Soulzaa.CivilDates
