/-
Dates by the number of the days before them, from Monday the first of January of the year 1.

The number of a date and the date of a number are each other's inverse, and the weeks from Monday
to Sunday are the sevens of the numbers.
-/

import Soulzaa.Lib.CivilDates

namespace Soulzaa.CivilDates

def daysInYear (year : Nat) : Nat := if isLeap year then 366 else 365

def daysBeforeYear (year : Nat) : Nat :=
  let past := year - 1
  365 * past + past / 4 - past / 100 + past / 400

def daysBeforeMonth (year month : Nat) : Nat :=
  ((List.range month).map fun before => if before = 0 then 0 else daysInMonth year before).sum

def Date.dayNumber (date : Date) : Nat := daysBeforeYear date.year + date.dayOfYear - 1

/-! ### Months and years -/

theorem dayOfYear_eq (date : Date) :
    date.dayOfYear = daysBeforeMonth date.year date.month + date.day := rfl

theorem daysBeforeMonth_succ (year : Nat) {month : Nat} (positive : 1 ≤ month) :
    daysBeforeMonth year (month + 1) = daysBeforeMonth year month + daysInMonth year month := by
  unfold daysBeforeMonth
  rw [List.range_succ, List.map_append, List.map_singleton, List.sum_append, List.sum_singleton,
    if_neg (Nat.ne_of_gt positive)]

theorem daysBeforeMonth_mono (year : Nat) : Monotone (daysBeforeMonth year) := by
  apply monotone_nat_of_le_succ
  intro month
  unfold daysBeforeMonth
  rw [List.range_succ, List.map_append, List.sum_append]
  exact Nat.le_add_right _ _

theorem daysBeforeMonth_end (year : Nat) : daysBeforeMonth year 13 = daysInYear year := by
  unfold daysBeforeMonth daysInYear
  cases leap : isLeap year <;> simp [List.range_succ, daysInMonth, leap]

theorem daysInYear_le (year : Nat) : daysInYear year ≤ 366 := by
  unfold daysInYear
  split <;> omega

theorem isLeap_iff {year : Nat} :
    isLeap year = true ↔ year % 4 = 0 ∧ (year % 100 ≠ 0 ∨ year % 400 = 0) := by
  simp [isLeap]

/-- One leap day every fourth year, none every hundredth, one every four hundredth. -/
theorem daysBeforeYear_succ {year : Nat} (positive : 1 ≤ year) :
    daysBeforeYear (year + 1) = daysBeforeYear year + daysInYear year := by
  obtain ⟨past, rfl⟩ := Nat.exists_eq_add_of_le' positive
  have fewer : past / 100 ≤ past / 4 := by omega
  have leap := @isLeap_iff (past + 1)
  unfold daysBeforeYear daysInYear
  dsimp only
  rw [Nat.add_sub_cancel, Nat.add_sub_cancel]
  by_cases isFourth : (past + 1) % 4 = 0
  · have fourth : (past + 1) / 4 = past / 4 + 1 := by omega
    by_cases isHundredth : (past + 1) % 100 = 0
    · have hundredth : (past + 1) / 100 = past / 100 + 1 := by omega
      by_cases isFourHundredth : (past + 1) % 400 = 0
      · have fourHundredth : (past + 1) / 400 = past / 400 + 1 := by omega
        rw [if_pos (leap.mpr ⟨isFourth, Or.inr isFourHundredth⟩), fourth, hundredth,
          fourHundredth]
        omega
      · have fourHundredth : (past + 1) / 400 = past / 400 := by omega
        have isNot : ¬isLeap (past + 1) = true := by
          rw [leap]
          exact fun is => is.2.elim (absurd isHundredth) isFourHundredth
        rw [if_neg isNot, fourth, hundredth, fourHundredth]
        omega
    · have hundredth : (past + 1) / 100 = past / 100 := by omega
      have fourHundredth : (past + 1) / 400 = past / 400 := by omega
      rw [if_pos (leap.mpr ⟨isFourth, Or.inl isHundredth⟩), fourth, hundredth, fourHundredth]
      omega
  · have fourth : (past + 1) / 4 = past / 4 := by omega
    have hundredth : (past + 1) / 100 = past / 100 := by omega
    have fourHundredth : (past + 1) / 400 = past / 400 := by omega
    rw [if_neg fun is => isFourth (leap.mp is).1, fourth, hundredth, fourHundredth]
    omega

theorem daysBeforeYear_mono : Monotone daysBeforeYear := by
  apply monotone_nat_of_le_succ
  intro year
  rcases Nat.eq_zero_or_pos year with rfl | positive
  · decide
  · rw [daysBeforeYear_succ positive]
    exact Nat.le_add_right _ _

variable {date one two : Date}

theorem dayOfYear_pos (valid : date.Valid) : 1 ≤ date.dayOfYear := by
  rw [dayOfYear_eq]
  exact Nat.le_add_left_of_le valid.day_pos

theorem dayOfYear_le_month (valid : date.Valid) :
    date.dayOfYear ≤ daysBeforeMonth date.year (date.month + 1) := by
  rw [dayOfYear_eq, daysBeforeMonth_succ date.year valid.month_pos]
  exact Nat.add_le_add_left valid.day_le _

theorem dayOfYear_le (valid : date.Valid) : date.dayOfYear ≤ daysInYear date.year := by
  rw [← daysBeforeMonth_end]
  exact (dayOfYear_le_month valid).trans
    (daysBeforeMonth_mono date.year (Nat.succ_le_succ valid.month_le))

/-! ### Numbers of dates -/

theorem dayNumber_next (valid : date.Valid) (positive : 1 ≤ date.year) :
    date.next.dayNumber = date.dayNumber + 1 := by
  have first := dayOfYear_pos valid
  unfold Date.dayNumber
  rw [dayOfYear_eq] at first ⊢
  rw [dayOfYear_eq]
  unfold Date.next
  split
  · dsimp only
    omega
  · rename_i last
    have isLast : date.day = daysInMonth date.year date.month :=
      Nat.le_antisymm valid.day_le (Nat.not_lt.mp last)
    have month := daysBeforeMonth_succ date.year valid.month_pos
    split
    · dsimp only
      omega
    · rename_i december
      have isDecember : date.month = 12 := Nat.le_antisymm valid.month_le (Nat.not_lt.mp december)
      have year := daysBeforeYear_succ positive
      have begins : daysBeforeMonth (date.year + 1) 1 = 0 := rfl
      rw [isDecember, daysBeforeMonth_end] at month
      dsimp only
      rw [isDecember] at first isLast ⊢
      omega

/-- The date that a number of days precede. -/
def civil (count : Nat) : Date := calendar ⟨1, 1, 1⟩ count

theorem valid_civil (count : Nat) : (civil count).Valid :=
  valid_calendar ⟨by decide, by decide, by decide, by decide⟩ count

theorem year_civil_pos (count : Nat) : 1 ≤ (civil count).year := by
  induction count with
  | zero => exact Nat.le_refl 1
  | succ count ih =>
      have later : (civil count).year ≤ (civil count).next.year := by
        unfold Date.next
        split
        · exact Nat.le_refl _
        · split
          · exact Nat.le_refl _
          · exact Nat.le_succ _
      exact ih.trans later

theorem dayNumber_civil (count : Nat) : (civil count).dayNumber = count := by
  induction count with
  | zero => rfl
  | succ count ih =>
      have next := dayNumber_next (valid_civil count) (year_civil_pos count)
      rw [ih] at next
      exact next

theorem dayNumber_bounds (valid : date.Valid) :
    daysBeforeYear date.year ≤ date.dayNumber ∧
      date.dayNumber < daysBeforeYear date.year + daysInYear date.year := by
  have first := dayOfYear_pos valid
  have last := dayOfYear_le valid
  unfold Date.dayNumber
  omega

theorem dayNumber_lt_of_year (valid : one.Valid) (validTwo : two.Valid) (positive : 1 ≤ one.year)
    (earlier : one.year < two.year) : one.dayNumber < two.dayNumber := by
  have upper := (dayNumber_bounds valid).2
  have lower := (dayNumber_bounds validTwo).1
  have between := daysBeforeYear_mono earlier
  rw [Nat.succ_eq_add_one, daysBeforeYear_succ positive] at between
  omega

theorem dayNumber_lt_of_month (valid : one.Valid) (validTwo : two.Valid)
    (sameYear : one.year = two.year) (earlier : one.month < two.month) :
    one.dayNumber < two.dayNumber := by
  have upper := dayOfYear_le_month valid
  have between := daysBeforeMonth_mono one.year earlier
  have first := dayOfYear_pos valid
  have day := validTwo.day_pos
  have isTwo := dayOfYear_eq two
  unfold Date.dayNumber
  rw [← sameYear] at isTwo ⊢
  rw [Nat.succ_eq_add_one] at between
  omega

theorem dayNumber_inj (valid : one.Valid) (validTwo : two.Valid) (positive : 1 ≤ one.year)
    (positiveTwo : 1 ≤ two.year) (same : one.dayNumber = two.dayNumber) : one = two := by
  have sameYear : one.year = two.year := by
    rcases Nat.lt_trichotomy one.year two.year with earlier | isSame | later
    · exact absurd same (Nat.ne_of_lt (dayNumber_lt_of_year valid validTwo positive earlier))
    · exact isSame
    · exact absurd same.symm (Nat.ne_of_lt (dayNumber_lt_of_year validTwo valid positiveTwo later))
  have sameMonth : one.month = two.month := by
    rcases Nat.lt_trichotomy one.month two.month with earlier | isSame | later
    · exact absurd same (Nat.ne_of_lt (dayNumber_lt_of_month valid validTwo sameYear earlier))
    · exact isSame
    · exact absurd same.symm
        (Nat.ne_of_lt (dayNumber_lt_of_month validTwo valid sameYear.symm later))
  have sameDay : one.day = two.day := by
    have first := dayOfYear_pos valid
    have firstTwo := dayOfYear_pos validTwo
    unfold Date.dayNumber at same
    rw [dayOfYear_eq, ← sameYear, ← sameMonth] at firstTwo
    rw [dayOfYear_eq] at first
    rw [dayOfYear_eq, dayOfYear_eq, ← sameYear, ← sameMonth] at same
    omega
  obtain ⟨year, month, day⟩ := one
  obtain ⟨yearTwo, monthTwo, dayTwo⟩ := two
  cases sameYear
  cases sameMonth
  cases sameDay
  rfl

theorem civil_dayNumber (valid : date.Valid) (positive : 1 ≤ date.year) :
    civil date.dayNumber = date :=
  dayNumber_inj (valid_civil _) valid (year_civil_pos _) positive (dayNumber_civil _)

/-! ### Weeks -/

theorem dayNum_civil (count : Nat) : (civil count).dayNum = count % 7 + 1 := by
  have number := dayNumber_civil count
  have first := dayOfYear_pos (valid_civil count)
  unfold Date.dayNumber at number
  have isNum : (civil count).dayNum =
      (daysBeforeYear (civil count).year + (civil count).dayOfYear + 6) % 7 + 1 := rfl
  rw [isNum]
  omega

theorem next_civil (count days : Nat) : Date.next^[days] (civil count) = civil (count + days) := by
  induction days with
  | zero => rfl
  | succ days ih =>
      rw [Function.iterate_succ_apply', ih]
      rfl

theorem previous_civil {count days : Nat} (within : days ≤ count) :
    Date.previous^[days] (civil count) = civil (count - days) := by
  induction days with
  | zero => rfl
  | succ days ih =>
      have isNext : count - days = count - (days + 1) + 1 := by omega
      rw [Function.iterate_succ_apply', ih (by omega), isNext]
      exact previous_calendar ⟨by decide, by decide, by decide, by decide⟩ _

/-- The Thursday is the fourth day of the week. -/
theorem thursday_civil (count : Nat) : (civil count).thursday = civil (count / 7 * 7 + 3) := by
  unfold Date.thursday
  rw [dayNum_civil, previous_civil (by omega), next_civil]
  congr 1
  omega

/-- A week is known by its number and the year of its Thursday. -/
theorem sameWeek_iff (one two : Nat) : one / 7 = two / 7 ↔
    (civil one).thursday.year = (civil two).thursday.year ∧
      (civil one).weekNumber = (civil two).weekNumber := by
  constructor
  · intro same
    unfold Date.weekNumber
    rw [thursday_civil, thursday_civil, same]
    exact ⟨rfl, rfl⟩
  · rintro ⟨sameYear, sameNumber⟩
    unfold Date.weekNumber at sameNumber
    rw [thursday_civil, thursday_civil] at sameYear sameNumber
    have numberOne := dayNumber_civil (one / 7 * 7 + 3)
    have numberTwo := dayNumber_civil (two / 7 * 7 + 3)
    have firstOne := dayOfYear_pos (valid_civil (one / 7 * 7 + 3))
    have firstTwo := dayOfYear_pos (valid_civil (two / 7 * 7 + 3))
    unfold Date.dayNumber at numberOne numberTwo
    rw [sameYear] at numberOne
    omega

end Soulzaa.CivilDates
