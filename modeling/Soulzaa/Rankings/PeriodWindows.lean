/-
The windows of the ranking periods: a window holds the instants that its key names.

The days of a month, of a quarter and of a year are runs of months, and the Thursdays of a year's
weeks are the Thursdays of the year.
-/

import Soulzaa.Rankings.PeriodKeys

namespace Soulzaa.Rankings.RankingPeriodResolver

open CivilDates

/-! ### Instants and days -/

/-- The midnight that begins a day. -/
def midnight (day : Nat) : Int := ((day : Int) - 719162) * 86400000

def monthStart (year month : Nat) : Nat := daysBeforeYear year + daysBeforeMonth year month

theorem dayOf_midnight (day : Nat) : dayOf (midnight day) = day := by
  unfold dayOf midnight
  omega

theorem between_midnights_iff {first last : Nat} (positive : 1 ≤ first) {time : Int} :
    midnight first ≤ time ∧ time < midnight last ↔ first ≤ dayOf time ∧ dayOf time < last := by
  unfold dayOf midnight
  omega

theorem within_day_iff {day : Nat} (positive : 1 ≤ day) {time : Int} :
    midnight day ≤ time ∧ time < midnight day + 86400000 ↔ dayOf time = day := by
  unfold dayOf midnight
  omega

theorem within_hour_iff {day hour : Nat} (positive : 1 ≤ day) (early : hour ≤ 23) {time : Int} :
    midnight day + hour * 3600000 ≤ time ∧ time < midnight day + hour * 3600000 + 3600000 ↔
      dayOf time = day ∧ hourOf time = hour := by
  unfold dayOf hourOf midnight
  omega

theorem monthStart_end {year : Nat} (positive : 1 ≤ year) :
    monthStart year 13 = daysBeforeYear (year + 1) := by
  unfold monthStart
  rw [daysBeforeMonth_end, daysBeforeYear_succ positive]

theorem monthStart_mono (year : Nat) {month later : Nat} (le : month ≤ later) :
    monthStart year month ≤ monthStart year later :=
  Nat.add_le_add_left (daysBeforeMonth_mono year le) _

/-- The month may be the one after December. -/
theorem utc_eq {year month : Nat} (modern : 100 ≤ year) (inside : month ≤ 12) (day hour : Nat) :
    utc year month day hour =
      midnight (monthStart year (month + 1)) + ((day : Int) - 1) * 86400000 + hour * 3600000 := by
  have isFull : (if year ≤ 99 then 1900 + year else year) = year := if_neg (by omega)
  unfold utc midnight
  rw [isFull]
  dsimp only
  rcases Nat.lt_or_eq_of_le inside with early | rfl
  · rw [Nat.div_eq_of_lt early, Nat.mod_eq_of_lt early, Nat.add_zero]
    unfold monthStart
    omega
  · have next : monthStart year (12 + 1) = daysBeforeYear (year + 12 / 12) :=
      monthStart_end (by omega)
    have begins : daysBeforeMonth (year + 12 / 12) (12 % 12 + 1) = 0 := rfl
    rw [next, begins]
    omega

theorem utc_month {year month : Nat} (modern : 100 ≤ year) (inside : month ≤ 12) :
    utc year month 1 0 = midnight (monthStart year (month + 1)) := by
  rw [utc_eq modern inside]
  omega

theorem utc_year {year : Nat} (modern : 100 ≤ year) :
    utc year 0 1 0 = midnight (daysBeforeYear year) :=
  utc_month modern (by decide)

/-! ### Runs of months -/

theorem dayNumber_month {date : Date} (valid : date.Valid) :
    monthStart date.year date.month ≤ date.dayNumber ∧
      date.dayNumber < monthStart date.year (date.month + 1) := by
  have first := valid.day_pos
  have last := valid.day_le
  unfold Date.dayNumber monthStart
  rw [daysBeforeMonth_succ date.year valid.month_pos, dayOfYear_eq]
  omega

theorem monthStart_le_iff {year month day : Nat} (since : 1 ≤ year) (inside : month ≤ 13) :
    monthStart year month ≤ day ↔
      year < (civil day).year ∨ year = (civil day).year ∧ month ≤ (civil day).month := by
  have bounds := dayNumber_month (valid_civil day)
  have month_le := (valid_civil day).month_le
  have month_pos := (valid_civil day).month_pos
  have dated := year_civil_pos day
  rw [dayNumber_civil] at bounds
  rcases Nat.lt_trichotomy year (civil day).year with earlier | same | later
  · have ends := monthStart_end since
    have until13 := monthStart_mono year inside
    have years := daysBeforeYear_mono (Nat.succ_le_of_lt earlier)
    have starts : daysBeforeYear (civil day).year ≤ monthStart (civil day).year (civil day).month :=
      Nat.le_add_right _ _
    rw [Nat.succ_eq_add_one] at years
    omega
  · rw [← same] at bounds
    rcases Nat.lt_or_ge (civil day).month month with isBefore | isIn
    · have months := monthStart_mono year (Nat.succ_le_of_lt isBefore)
      rw [Nat.succ_eq_add_one] at months
      omega
    · have months := monthStart_mono year isIn
      omega
  · have ends := monthStart_end dated
    have until13 : monthStart (civil day).year ((civil day).month + 1) ≤
        monthStart (civil day).year 13 := monthStart_mono _ (by omega)
    have years := daysBeforeYear_mono (Nat.succ_le_of_lt later)
    have starts : daysBeforeYear year ≤ monthStart year month := Nat.le_add_right _ _
    rw [Nat.succ_eq_add_one] at years
    omega

/-- The instants from one month of a year to a later one. -/
theorem between_months_iff {year month later : Nat} (modern : 100 ≤ year) (atMost : month ≤ 12)
    (inside : later ≤ 12) {time : Int} :
    utc year month 1 0 ≤ time ∧ time < utc year later 1 0 ↔
      (dateOf time).year = year ∧ month + 1 ≤ (dateOf time).month ∧
        (dateOf time).month < later + 1 := by
  have positive : 1 ≤ monthStart year (month + 1) := by
    have years := daysBeforeYear_mono (show 2 ≤ year by omega)
    have second : daysBeforeYear 2 = 365 := rfl
    unfold monthStart
    omega
  have month_le := (valid_civil (dayOf time)).month_le
  have fromMonth := @monthStart_le_iff year (month + 1) (dayOf time) (by omega) (by omega)
  have toMonth := @monthStart_le_iff year (later + 1) (dayOf time) (by omega) (by omega)
  rw [utc_month modern atMost, utc_month modern inside, between_midnights_iff positive]
  unfold dateOf
  omega

/-! ### Weeks -/

section Weeks

variable {year week : Nat}

theorem isoWeekStart_eq (modern : 100 ≤ year) (positive : 1 ≤ week) :
    isoWeekStart year week = midnight ((daysBeforeYear year + 3) / 7 * 7 + (week - 1) * 7) := by
  have jan4 : utc year 0 4 0 = midnight (daysBeforeYear year + 3) := by
    have begins : monthStart year (0 + 1) = daysBeforeYear year := rfl
    rw [utc_eq modern (by decide), begins]
    unfold midnight
    omega
  unfold isoWeekStart isoDay utcDay
  dsimp only
  rw [jan4, dayOf_midnight]
  unfold midnight
  split <;> omega

theorem utc_dec31 (modern : 100 ≤ year) :
    utc year 11 31 0 = midnight (daysBeforeYear year + (daysInYear year - 1)) := by
  have december : daysBeforeMonth year 13 = daysBeforeMonth year (11 + 1) + 31 :=
    daysBeforeMonth_succ year (by decide)
  rw [daysBeforeMonth_end] at december
  rw [utc_eq modern (by decide), december]
  unfold midnight monthStart
  omega

theorem daysInYear_cases (year : Nat) : daysInYear year = 365 ∨ daysInYear year = 366 := by
  unfold daysInYear
  split
  · exact Or.inr rfl
  · exact Or.inl rfl

theorem isoWeeksInYear_eq (modern : 100 ≤ year) : isoWeeksInYear year = 53 ↔
    daysBeforeYear year % 7 = 3 ∨ (daysBeforeYear year + daysInYear year) % 7 = 4 := by
  have days := daysInYear_cases year
  unfold isoWeeksInYear utcDay
  rw [utc_year modern, utc_dec31 modern, dayOf_midnight, dayOf_midnight]
  split
  · rename_i isThursday
    refine iff_of_true rfl ?_
    omega
  · rename_i isNot
    refine iff_of_false (by decide) ?_
    omega

/-- The days of a week of the year, if the year has the week. -/
theorem sevenDays_iff (modern : 100 ≤ year) (positive : 1 ≤ week) (atMost : week ≤ 53)
    (has : week = 53 → isoWeeksInYear year = 53) (day : Nat) :
    (daysBeforeYear year + 3) / 7 * 7 + (week - 1) * 7 ≤ day ∧
        day < (daysBeforeYear year + 3) / 7 * 7 + (week - 1) * 7 + 7 ↔
      (civil day).thursday.year = year ∧ (civil day).weekNumber = week := by
  rw [isoWeeksInYear_eq modern] at has
  have number := dayNumber_civil (day / 7 * 7 + 3)
  have first := dayOfYear_pos (valid_civil (day / 7 * 7 + 3))
  unfold Date.dayNumber at number
  unfold Date.weekNumber
  rw [thursday_civil]
  constructor
  · intro within
    -- the Thursday of the week lies in the year, from its first one on
    have isYear : (civil (day / 7 * 7 + 3)).year = year := by
      have days := daysInYear_cases year
      have next := daysBeforeYear_succ (show 1 ≤ year by omega)
      have fromYear := @monthStart_le_iff year 1 (day / 7 * 7 + 3) (by omega) (by decide)
      have toYear := @monthStart_le_iff (year + 1) 1 (day / 7 * 7 + 3) (by omega) (by decide)
      have begins : monthStart year 1 = daysBeforeYear year := rfl
      have beginsNext : monthStart (year + 1) 1 = daysBeforeYear (year + 1) := rfl
      have month_pos := (valid_civil (day / 7 * 7 + 3)).month_pos
      rw [begins] at fromYear
      rw [beginsNext] at toYear
      omega
    rw [isYear] at number
    omega
  · intro reads
    rw [reads.1] at number
    omega

theorem weekNumber_valid (modern : 100 ≤ year) {day : Nat}
    (isYear : (civil day).thursday.year = year) :
    1 ≤ (civil day).weekNumber ∧ (civil day).weekNumber ≤ 53 ∧
      ((civil day).weekNumber = 53 → isoWeeksInYear year = 53) := by
  have number := dayNumber_civil (day / 7 * 7 + 3)
  have first := dayOfYear_pos (valid_civil (day / 7 * 7 + 3))
  have last := dayOfYear_le (valid_civil (day / 7 * 7 + 3))
  have days : daysInYear year ≤ 366 := daysInYear_le year
  rw [thursday_civil] at isYear
  rw [isoWeeksInYear_eq modern]
  unfold Date.dayNumber at number
  unfold Date.weekNumber
  rw [thursday_civil]
  rw [isYear] at number last
  omega

end Weeks

/-! ### Days of keys -/

section Days

variable {date : Date}

theorem dayNumber_pos (valid : date.Valid) (modern : 100 ≤ date.year) : 1 ≤ date.dayNumber := by
  have bounds := dayNumber_bounds valid
  have years := daysBeforeYear_mono (show 2 ≤ date.year by omega)
  have second : daysBeforeYear 2 = 365 := rfl
  omega

theorem utc_date (valid : date.Valid) (modern : 100 ≤ date.year) (hour : Nat) :
    utc date.year (date.month - 1) date.day hour = midnight date.dayNumber + hour * 3600000 := by
  have month := valid.month_pos
  have month_le := valid.month_le
  have day := valid.day_pos
  rw [utc_eq modern (by omega), Nat.sub_add_cancel month]
  unfold midnight monthStart Date.dayNumber
  rw [dayOfYear_eq]
  omega

theorem dayOf_eq_iff (valid : date.Valid) (modern : 100 ≤ date.year) {time : Int} :
    dayOf time = date.dayNumber ↔ (dateOf time).year = date.year ∧
      (dateOf time).month = date.month ∧ (dateOf time).day = date.day := by
  constructor
  · intro same
    unfold dateOf
    rw [same, civil_dayNumber valid (by omega)]
    exact ⟨rfl, rfl, rfl⟩
  · intro same
    have number : (dateOf time).dayNumber = dayOf time := dayNumber_civil _
    rw [← number]
    unfold Date.dayNumber
    rw [dayOfYear_eq, dayOfYear_eq, same.1, same.2.1, same.2.2]

/-- The day before a month is the last of the month before. -/
theorem lastDay_eq {year month : Nat} (modern : 100 ≤ year) (positive : 1 ≤ month)
    (inside : month ≤ 12) : (dateOf (utc year month 0 0)).day = daysInMonth year month := by
  have days := daysInMonth_pos year month
  have valid : Date.Valid ⟨year, month, daysInMonth year month⟩ :=
    ⟨positive, inside, days, Nat.le_refl _⟩
  have isLast : utc year month 0 0 =
      midnight (Date.dayNumber ⟨year, month, daysInMonth year month⟩) := by
    rw [utc_eq modern inside]
    unfold midnight monthStart Date.dayNumber
    rw [dayOfYear_eq, daysBeforeMonth_succ year positive]
    dsimp only
    omega
  have dated : 1 ≤ year := by omega
  unfold dateOf
  rw [isLast, dayOf_midnight, civil_dayNumber valid dated]

end Days

section Keys

variable {dateKey : DateKey}

theorem validMonth_iff :
    validMonth dateKey = true ↔ 1 ≤ monthOf dateKey ∧ monthOf dateKey ≤ 12 := by
  unfold validMonth
  rw [Bool.and_eq_true, decide_eq_true_eq, decide_eq_true_eq]

theorem validDay_iff (modern : 100 ≤ yearOf dateKey) : validDay dateKey = true ↔
    Date.Valid ⟨yearOf dateKey, monthOf dateKey, dayNumberOf dateKey⟩ := by
  unfold validDay
  rw [Bool.and_eq_true, Bool.and_eq_true, validMonth_iff, decide_eq_true_eq, decide_eq_true_eq]
  constructor
  · intro valid
    rw [lastDay_eq modern valid.1.1.1 valid.1.1.2] at valid
    exact ⟨valid.1.1.1, valid.1.1.2, valid.1.2, valid.2⟩
  · intro valid
    rw [lastDay_eq modern valid.month_pos valid.month_le]
    exact ⟨⟨⟨valid.month_pos, valid.month_le⟩, valid.day_pos⟩, valid.day_le⟩

theorem quarter_bounds (isPattern : matchesPattern .quarterly dateKey = true) :
    1 ≤ partOf dateKey ∧ partOf dateKey ≤ 4 := by
  unfold matchesPattern at isPattern
  simp only [Bool.and_eq_true, Bool.or_eq_true, decide_eq_true_eq] at isPattern
  unfold partOf
  rcases isPattern.2 with ((is | is) | is) | is
  · rw [is]
    decide
  · rw [is]
    decide
  · rw [is]
    decide
  · rw [is]
    decide

/-- The window of a key holds the instants whose fields it reads. -/
theorem contains_bounds_iff {period : RankingPeriodName} (modern : 100 ≤ yearOf dateKey)
    (dated : period ≠ .alltime) (valid : isValidDateKey period dateKey = true) :
    ∃ window, bounds period dateKey = some window ∧
      ∀ time, window.Contains time ↔ Reads period dateKey time := by
  unfold isValidDateKey at valid
  rw [Bool.and_eq_true] at valid
  obtain ⟨isPattern, valid⟩ := valid
  cases period with
  | hourly =>
      dsimp only at valid
      rw [Bool.and_eq_true, validDay_iff modern, decide_eq_true_eq] at valid
      obtain ⟨valid, early⟩ := valid
      refine ⟨_, rfl, fun time => ?_⟩
      unfold Window.Contains Reads
      dsimp only
      rw [utc_date valid modern, within_hour_iff (dayNumber_pos valid modern) early,
        dayOf_eq_iff valid modern, and_assoc, and_assoc]
  | daily =>
      dsimp only at valid
      rw [validDay_iff modern] at valid
      refine ⟨_, rfl, fun time => ?_⟩
      have start := utc_date valid modern 0
      rw [Nat.cast_zero, Int.zero_mul, Int.add_zero] at start
      unfold Window.Contains Reads
      dsimp only
      rw [start, within_day_iff (dayNumber_pos valid modern), dayOf_eq_iff valid modern]
  | weekly =>
      dsimp only at valid
      simp only [Bool.and_eq_true, Bool.or_eq_true, decide_eq_true_eq] at valid
      obtain ⟨⟨positive, atMost⟩, has⟩ := valid
      refine ⟨_, rfl, fun time => ?_⟩
      have years := daysBeforeYear_mono (show 3 ≤ yearOf dateKey by omega)
      have third : daysBeforeYear 3 = 730 := rfl
      have stop : ∀ monday : Nat, midnight monday + 7 * 86400000 = midnight (monday + 7) := by
        intro monday
        unfold midnight
        omega
      unfold Window.Contains Reads dateOf
      dsimp only
      rw [isoWeekStart_eq modern positive, stop, between_midnights_iff (by omega),
        sevenDays_iff modern positive atMost (fun is => has.resolve_left fun isNot => isNot is)]
  | monthly =>
      dsimp only at valid
      rw [validMonth_iff] at valid
      refine ⟨_, rfl, fun time => ?_⟩
      unfold Window.Contains Reads
      dsimp only
      rw [between_months_iff modern (by omega) (by omega)]
      omega
  | quarterly =>
      have quarter := quarter_bounds isPattern
      refine ⟨_, rfl, fun time => ?_⟩
      have month_pos : 1 ≤ (dateOf time).month := (valid_civil _).month_pos
      unfold Window.Contains Reads
      dsimp only
      rw [between_months_iff modern (by omega) (by omega)]
      omega
  | yearly =>
      refine ⟨_, rfl, fun time => ?_⟩
      have month_pos : 1 ≤ (dateOf time).month := (valid_civil _).month_pos
      have month_le : (dateOf time).month ≤ 12 := (valid_civil _).month_le
      have next : utc (yearOf dateKey + 1) 0 1 0 = utc (yearOf dateKey) 12 1 0 := by
        rw [utc_year (by omega), utc_month modern (by decide), monthStart_end (by omega)]
      unfold Window.Contains Reads
      dsimp only
      rw [next, between_months_iff modern (by decide) (by decide)]
      omega
  | alltime => exact absurd rfl dated
  | custom => cases isPattern

/-- A key that reads an instant's fields passes the check. -/
theorem valid_of_reads {period : RankingPeriodName} {time : Int} (modern : 100 ≤ yearOf dateKey)
    (isPattern : matchesPattern period dateKey = true) (reads : Reads period dateKey time) :
    isValidDateKey period dateKey = true := by
  have dated : (dateOf time).Valid := valid_civil _
  have isDay : ∀ {one : Date}, one.year = yearOf dateKey → one.month = monthOf dateKey →
      one.day = dayNumberOf dateKey → one.Valid → validDay dateKey = true := by
    intro one year month day valid
    rw [validDay_iff modern, ← year, ← month, ← day]
    exact valid
  unfold isValidDateKey
  rw [isPattern, Bool.true_and]
  cases period with
  | hourly =>
      have early : hourOf time ≤ 23 := by
        unfold hourOf
        omega
      rw [reads.2.2.2] at early
      dsimp only
      rw [isDay reads.1 reads.2.1 reads.2.2.1 dated, Bool.true_and]
      exact decide_eq_true early
  | daily => exact isDay reads.1 reads.2.1 reads.2.2 dated
  | weekly =>
      obtain ⟨positive, atMost, has⟩ := weekNumber_valid modern reads.1
      rw [show (civil (dayOf time)).weekNumber = partOf dateKey from reads.2] at positive atMost has
      simp only [Bool.and_eq_true, Bool.or_eq_true, decide_eq_true_eq]
      exact ⟨⟨positive, atMost⟩, Decidable.not_or_of_imp has⟩
  | monthly =>
      dsimp only
      rw [validMonth_iff, ← reads.2]
      exact ⟨dated.month_pos, dated.month_le⟩
  | quarterly => rfl
  | yearly => rfl
  | alltime => rfl
  | custom => exact absurd reads id

end Keys

/-! ### The partition -/

/-- The window of the key contains the instant. -/
def InWindow (period : RankingPeriodName) (dateKey : DateKey) (time : Int) : Prop :=
  ∃ window, windowFor period dateKey = some window ∧ window.Contains time

/-- The key of all time names no year. -/
def Dated (period : RankingPeriodName) (dateKey : DateKey) : Prop :=
  period ≠ .alltime → 1970 ≤ yearOf dateKey ∧ yearOf dateKey ≤ 9998

section Partition

variable {period : RankingPeriodName} {dateKey : DateKey} {time : Int}

theorem inWindow_iff (modern : 100 ≤ yearOf dateKey) (isDated : period ≠ .alltime)
    (valid : isValidDateKey period dateKey = true) :
    InWindow period dateKey time ↔ Reads period dateKey time := by
  obtain ⟨window, isWindow, contains_iff⟩ := contains_bounds_iff modern isDated valid
  unfold InWindow windowFor
  rw [if_pos (Or.inr valid), isWindow, ← contains_iff]
  constructor
  · intro inside
    obtain ⟨other, isOther, contains⟩ := inside
    cases isOther
    exact contains
  · intro contains
    exact ⟨window, rfl, contains⟩

theorem inWindow_alltime :
    InWindow .alltime dateKey time ↔ 0 ≤ time ∧ time < utc 9999 0 1 0 := by
  constructor
  · intro inside
    obtain ⟨window, isWindow, contains⟩ := inside
    cases isWindow
    exact contains
  · intro between
    exact ⟨_, rfl, between⟩

/-- The instants of the years from 1970 to 9998. -/
theorem year_bounds (since : 0 ≤ time) (until9999 : time < utc 9999 0 1 0) :
    (1970 ≤ (dateOf time).year ∧ (dateOf time).year ≤ 9998) ∧
      1970 ≤ (dateOf time).thursday.year ∧ (dateOf time).thursday.year ≤ 9999 := by
  have epoch : daysBeforeYear 1970 = 719162 := by decide +kernel
  have last : daysBeforeYear 9999 = 3651694 := by decide +kernel
  have beyond : daysBeforeYear 10000 = 3652059 := by decide +kernel
  have begins : ∀ year, monthStart year 1 = daysBeforeYear year := fun _ => rfl
  have fromDay := @monthStart_le_iff 1970 1 (dayOf time) (by decide) (by decide)
  have toDay := @monthStart_le_iff 9999 1 (dayOf time) (by decide) (by decide)
  have fromWeek := @monthStart_le_iff 1970 1 (dayOf time / 7 * 7 + 3) (by decide) (by decide)
  have toWeek := @monthStart_le_iff 10000 1 (dayOf time / 7 * 7 + 3) (by decide) (by decide)
  have month := (valid_civil (dayOf time)).month_pos
  have monthWeek := (valid_civil (dayOf time / 7 * 7 + 3)).month_pos
  have days : 719162 ≤ dayOf time ∧ dayOf time < 3651694 := by
    rw [utc_year (by decide), last] at until9999
    unfold midnight at until9999
    unfold dayOf
    omega
  rw [begins, epoch] at fromDay fromWeek
  rw [begins, last] at toDay
  rw [begins, beyond] at toWeek
  unfold dateOf
  rw [thursday_civil]
  omega

theorem dateKeyFor_of_inWindow (isDated : Dated period dateKey)
    (valid : isValidDateKey period dateKey = true) (inside : InWindow period dateKey time) :
    dateKeyFor period time = some dateKey := by
  have isPattern : matchesPattern period dateKey = true := by
    unfold isValidDateKey at valid
    exact (Bool.and_eq_true_iff.mp valid).1
  by_cases isAlltime : period = .alltime
  · rw [isAlltime] at isPattern ⊢
    exact dateKeyFor_of_reads isPattern (fun isNot => absurd rfl isNot) trivial
  · have year := isDated isAlltime
    have reads := (inWindow_iff (by omega) isAlltime valid).mp inside
    exact dateKeyFor_of_reads isPattern (fun _ => by omega) reads

theorem inWindow_dateKeyFor (derivable : period ≠ .custom) (since : 0 ≤ time)
    (until9999 : time < utc 9999 0 1 0) :
    ∃ dateKey, dateKeyFor period time = some dateKey ∧ isValidDateKey period dateKey = true ∧
      InWindow period dateKey time := by
  obtain ⟨year, thursday⟩ := year_bounds since until9999
  obtain ⟨dateKey, isKey, isPattern, reads⟩ :=
    @reads_dateKeyFor period time derivable ⟨by omega, by omega⟩ ⟨by omega, by omega⟩
  refine ⟨dateKey, isKey, ?_⟩
  by_cases isAlltime : period = .alltime
  · cases isAlltime
    refine ⟨?_, inWindow_alltime.mpr ⟨since, until9999⟩⟩
    unfold isValidDateKey
    rw [isPattern]
    rfl
  · have modern : 100 ≤ yearOf dateKey := by
      cases period with
      | hourly | daily | weekly | monthly | quarterly =>
          have isYear := reads.1
          omega
      | yearly =>
          have isYear : (dateOf time).year = yearOf dateKey := reads
          omega
      | alltime => exact absurd rfl isAlltime
      | custom => exact absurd rfl derivable
    have valid := valid_of_reads modern isPattern reads
    exact ⟨valid, (inWindow_iff modern isAlltime valid).mpr reads⟩

end Partition

/-! ### Constituents -/

structure Constituted (period : RankingPeriodName) (dateKey : DateKey)
    (parts : List (RankingPeriodName × DateKey)) : Prop where
  valid : ∀ part ∈ parts, isValidDateKey part.1 part.2 = true
  disjoint : parts.Pairwise fun one two =>
    ∀ time, ¬(InWindow one.1 one.2 time ∧ InWindow two.1 two.2 time)
  union : ∀ time, InWindow period dateKey time ↔ ∃ part ∈ parts, InWindow part.1 part.2 time

section Months

variable {year : List Char}

theorem inWindow_month (isYear : isDigits 4 year = true) (modern : 100 ≤ number year) {month : Nat}
    (positive : 1 ≤ month) (inside : month ≤ 12) :
    isValidDateKey .monthly (year ++ pad month) = true ∧
      ∀ time, InWindow .monthly (year ++ pad month) time ↔
        (dateOf time).year = number year ∧ (dateOf time).month = month := by
  have isMonth : isDigits 2 (pad month) = true := isDigits_pad (by omega)
  have length := (isDigits_iff.mp isYear).1
  have readYear : yearOf (year ++ pad month) = number year := by
    rw [yearOf, slice_head length]
  have readMonth : monthOf (year ++ pad month) = month := by
    rw [monthOf, ← List.append_nil (pad month), slice_month length (isDigits_iff.mp isMonth).1,
      number_pad]
  have valid : isValidDateKey .monthly (year ++ pad month) = true := by
    unfold isValidDateKey
    dsimp only
    rw [Bool.and_eq_true, validMonth_iff, readMonth]
    exact ⟨isDigits_append isYear isMonth, positive, inside⟩
  refine ⟨valid, fun time => ?_⟩
  rw [inWindow_iff (by omega) (by decide) valid]
  unfold Reads
  dsimp only
  rw [readYear, readMonth]

/-- A run of months and what their windows hold. -/
theorem constituted_months {period : RankingPeriodName} {dateKey : DateKey}
    (isYear : isDigits 4 year = true) (modern : 100 ≤ number year) {first count : Nat}
    (positive : 1 ≤ first) (inside : first + count ≤ 13)
    (inWindow : ∀ time, InWindow period dateKey time ↔ (dateOf time).year = number year ∧
      first ≤ (dateOf time).month ∧ (dateOf time).month < first + count) :
    Constituted period dateKey
      ((List.range count).map fun i => (.monthly, year ++ pad (first + i))) := by
  have each : ∀ i ∈ List.range count, isValidDateKey .monthly (year ++ pad (first + i)) = true ∧
      ∀ time, InWindow .monthly (year ++ pad (first + i)) time ↔
        (dateOf time).year = number year ∧ (dateOf time).month = first + i := by
    intro i member
    have early := List.mem_range.mp member
    exact inWindow_month isYear modern (by omega) (by omega)
  constructor
  · intro part member
    obtain ⟨i, isIn, rfl⟩ := List.mem_map.mp member
    exact (each i isIn).1
  · rw [List.pairwise_map]
    apply List.pairwise_lt_range.imp_of_mem
    intro i j isIn isInTwo earlier time both
    have month := (((each i isIn).2 time).mp both.1).2
    have monthTwo := (((each j isInTwo).2 time).mp both.2).2
    omega
  · intro time
    rw [inWindow time]
    constructor
    · intro within
      have isIn : (dateOf time).month - first ∈ List.range count := List.mem_range.mpr (by omega)
      refine ⟨_, List.mem_map.mpr ⟨_, isIn, rfl⟩, ((each _ isIn).2 time).mpr ⟨within.1, ?_⟩⟩
      omega
    · intro some
      obtain ⟨part, member, within⟩ := some
      obtain ⟨i, isIn, rfl⟩ := List.mem_map.mp member
      have month := ((each i isIn).2 time).mp within
      have early := List.mem_range.mp isIn
      omega

end Months

theorem constituted {period : RankingPeriodName} {dateKey : DateKey}
    (derived : period = .quarterly ∨ period = .yearly) (isDated : Dated period dateKey)
    (valid : isValidDateKey period dateKey = true) :
    Constituted period dateKey (constituentsOf period dateKey) := by
  have month_pos : ∀ time, 1 ≤ (dateOf time).month := fun _ => (valid_civil _).month_pos
  have isPattern : matchesPattern period dateKey = true := by
    unfold isValidDateKey at valid
    exact (Bool.and_eq_true_iff.mp valid).1
  rcases derived with rfl | rfl
  · have year := isDated (by decide)
    have modern : 100 ≤ number (slice 0 4 dateKey) := by
      unfold yearOf at year
      omega
    have quarter := quarter_bounds isPattern
    have isYear : isDigits 4 (slice 0 4 dateKey) = true := by
      unfold matchesPattern at isPattern
      simp only [Bool.and_eq_true] at isPattern
      rw [isDigits_take]
      exact isPattern.1.1
    apply constituted_months isYear modern (by omega) (by omega)
    intro time
    have positive := month_pos time
    rw [inWindow_iff modern (by decide) valid]
    unfold Reads yearOf
    dsimp only
    omega
  · have year := isDated (by decide)
    have isYear : isDigits 4 dateKey = true := isPattern
    have isSlice := slice_self (isDigits_iff.mp isYear).1
    have modern : 100 ≤ yearOf dateKey := by omega
    have isNumber : yearOf dateKey = number dateKey := by rw [yearOf, isSlice]
    have parts : constituentsOf .yearly dateKey =
        (List.range 12).map fun i => (.monthly, dateKey ++ pad (1 + i)) := by
      apply List.map_congr_left
      intro i _
      rw [Nat.add_comm]
    rw [parts]
    apply constituted_months isYear (by omega) (by omega) (by omega)
    intro time
    have positive := month_pos time
    have month_le : (dateOf time).month ≤ 12 := (valid_civil _).month_le
    rw [inWindow_iff modern (by decide) valid, ← isNumber]
    unfold Reads
    dsimp only
    omega

structure CalendarPartition : Prop where
  /-- The key of an instant is valid, and its window contains the instant. -/
  covers : ∀ period time, period ≠ .custom → 0 ≤ time → time < utc 9999 0 1 0 →
    ∃ dateKey, dateKeyFor period time = some dateKey ∧ isValidDateKey period dateKey = true ∧
      InWindow period dateKey time
  /-- Every instant of a key's window has the key. -/
  names : ∀ period dateKey, Dated period dateKey → isValidDateKey period dateKey = true →
    (windowFor period dateKey).isSome = true ∧
      ∀ time, InWindow period dateKey time → dateKeyFor period time = some dateKey
  disjoint : ∀ period one two, Dated period one → Dated period two →
    isValidDateKey period one = true → isValidDateKey period two = true → one ≠ two →
      ∀ time, ¬(InWindow period one time ∧ InWindow period two time)
  constituents : ∀ period dateKey, period = .quarterly ∨ period = .yearly →
    Dated period dateKey → isValidDateKey period dateKey = true →
      Constituted period dateKey (constituentsOf period dateKey)

theorem calendarPartition : CalendarPartition := by
  constructor
  · intro period time derivable since until9999
    exact inWindow_dateKeyFor derivable since until9999
  · intro period dateKey isDated valid
    refine ⟨?_, fun time => dateKeyFor_of_inWindow isDated valid⟩
    unfold windowFor
    rw [if_pos (Or.inr valid)]
    cases period with
    | custom => cases valid
    | _ => rfl
  · intro period one two datedOne datedTwo valid validTwo differ time both
    have isOne := dateKeyFor_of_inWindow datedOne valid both.1
    have isTwo := dateKeyFor_of_inWindow datedTwo validTwo both.2
    exact differ (Option.some.inj (isOne.symm.trans isTwo))
  · intro period dateKey derived isDated valid
    exact constituted derived isDated valid

end Soulzaa.Rankings.RankingPeriodResolver
