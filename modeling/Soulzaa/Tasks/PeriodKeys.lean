/-
Which moments the period keys of tasks bring together.

A week's key has the number that the week has in the year of its Thursday, and the year of the
date itself.
-/

import Soulzaa.Lib.CivilDays
import Soulzaa.Tasks.Progress

namespace Soulzaa.Tasks

open CivilDates

/-- What `new Date()` says on a server in UTC. -/
structure Moment where
  date : Date
  /-- The milliseconds since midnight. -/
  time : Nat
  valid : date.Valid
  since : 1970 ≤ date.year
  deriving DecidableEq

def Moment.clock (now : Moment) : Clock :=
  { utc := now.date
    zoned := now.date }

/-- The copy that finds the week in place. -/
def TaskQueryService.buildPeriodKey (resetPolicy : ResetPolicy) (now : Clock) : PeriodKey :=
  match resetPolicy with
  | .daily => .day now.utc.year now.utc.month now.utc.day
  | .weekly =>
      let date := now.zoned.thursday
      .week now.utc.year ((date.dayOfYear + 6) / 7)
  | .monthly => .month now.utc.year now.utc.month
  | .seasonal => .season now.utc.year
  | .none => .alltime

/-- The day, the week from Monday to Sunday, the month or the year is the same. -/
def SamePeriod (one two : Moment) : ResetPolicy → Prop
  | .daily => one.date = two.date
  | .weekly => one.date.dayNumber / 7 = two.date.dayNumber / 7
  | .monthly => one.date.year = two.date.year ∧ one.date.month = two.date.month
  | .seasonal => one.date.year = two.date.year
  | .none => True

/-- The keys of the two moments are the same as their periods are, and both copies of the
function give them. -/
def NamesPeriod (resetPolicy : ResetPolicy) (one two : Moment) : Prop :=
  (buildPeriodKey resetPolicy one.clock = buildPeriodKey resetPolicy two.clock ↔
      SamePeriod one two resetPolicy) ∧
    ∀ now : Moment, TaskQueryService.buildPeriodKey resetPolicy now.clock =
      buildPeriodKey resetPolicy now.clock

/-- Of two dates in weeks of one number, the years agree as those of the Thursdays do. -/
def YearsAgree (resetPolicy : ResetPolicy) (one two : Moment) : Prop :=
  resetPolicy = .weekly → one.date.weekNumber = two.date.weekNumber →
    (one.date.year = two.date.year ↔ one.date.thursday.year = two.date.thursday.year)

theorem buildPeriodKey_eq (resetPolicy : ResetPolicy) (now : Moment) :
    TaskQueryService.buildPeriodKey resetPolicy now.clock =
      buildPeriodKey resetPolicy now.clock := by
  cases resetPolicy <;> rfl

theorem samePeriod_weekly_iff (one two : Moment) :
    SamePeriod one two .weekly ↔ one.date.thursday.year = two.date.thursday.year ∧
      one.date.weekNumber = two.date.weekNumber := by
  have weeks := sameWeek_iff one.date.dayNumber two.date.dayNumber
  have since := one.since
  have sinceTwo := two.since
  rw [civil_dayNumber one.valid (by omega), civil_dayNumber two.valid (by omega)] at weeks
  exact weeks

theorem namesPeriod_iff_yearsAgree (resetPolicy : ResetPolicy) (one two : Moment) :
    NamesPeriod resetPolicy one two ↔ YearsAgree resetPolicy one two := by
  have others : resetPolicy ≠ .weekly → YearsAgree resetPolicy one two :=
    fun isOther isWeekly => absurd isWeekly isOther
  unfold NamesPeriod
  rw [and_iff_left (buildPeriodKey_eq resetPolicy)]
  cases resetPolicy with
  | weekly =>
      have keys : buildPeriodKey .weekly one.clock = buildPeriodKey .weekly two.clock ↔
          one.date.year = two.date.year ∧ one.date.weekNumber = two.date.weekNumber :=
        Iff.of_eq (PeriodKey.week.injEq _ _ _ _)
      rw [keys, samePeriod_weekly_iff, and_congr_left_iff]
      constructor
      · intro agree _
        exact agree
      · intro agree
        exact agree rfl
  | daily =>
      refine iff_of_true ?_ (others (by decide))
      refine (Iff.of_eq (PeriodKey.day.injEq _ _ _ _ _ _)).trans ?_
      unfold SamePeriod Moment.clock
      rw [Date.mk.injEq]
  | monthly => exact iff_of_true (Iff.of_eq (PeriodKey.month.injEq _ _ _ _)) (others (by decide))
  | seasonal => exact iff_of_true (Iff.of_eq (PeriodKey.season.injEq _ _)) (others (by decide))
  | none => exact iff_of_true (iff_of_true rfl trivial) (others (by decide))

/-- The week at the end of a year has the key of the week at its beginning. -/
theorem not_namesPeriod_newYear :
    ¬NamesPeriod .weekly
      ⟨⟨2024, 12, 30⟩, 0, ⟨by decide, by decide, by decide, by decide⟩, by decide⟩
      ⟨⟨2024, 1, 1⟩, 0, ⟨by decide, by decide, by decide, by decide⟩, by decide⟩ := by
  intro names
  have apart : ¬Date.dayNumber ⟨2024, 12, 30⟩ / 7 = Date.dayNumber ⟨2024, 1, 1⟩ / 7 := by decide
  exact apart (names.1.mp (by decide))

end Soulzaa.Tasks
