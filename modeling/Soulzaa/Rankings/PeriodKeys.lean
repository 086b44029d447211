/-
What the keys of the ranking periods print, and how they are read back.
-/

import Soulzaa.Rankings.PeriodResolver

namespace Soulzaa.Rankings.RankingPeriodResolver

open CivilDates

/-! ### Digits -/

theorem isDigits_iff {count : Nat} {text : List Char} : isDigits count text = true ↔
    text.length = count ∧ ∀ char ∈ text, char.isDigit = true := by
  unfold isDigits
  rw [Bool.and_eq_true, decide_eq_true_eq, List.all_eq_true]

theorem digit_bounds {char : Char} (digit : char.isDigit = true) :
    48 ≤ char.toNat ∧ char.toNat ≤ 57 := by
  unfold Char.isDigit at digit
  rw [Bool.and_eq_true, decide_eq_true_eq, decide_eq_true_eq] at digit
  exact digit

theorem number_cons (char : Char) (rest : List Char) :
    number (char :: rest) = 10 ^ rest.length * (char.toNat - 48) + number rest := by
  unfold number
  rw [Nat.ofDigitChars_cons, Nat.ofDigitChars_eq_ofDigitChars_zero, Nat.mul_zero, Nat.zero_add]
  rfl

theorem number_lt {text : List Char} (digits : ∀ char ∈ text, char.isDigit = true) :
    number text < 10 ^ text.length := by
  induction text with
  | nil => decide
  | cons char rest ih =>
      have digit := digit_bounds (digits char List.mem_cons_self)
      have small := ih fun other member => digits other (List.mem_cons_of_mem char member)
      have atMost : 10 ^ rest.length * (char.toNat - 48) ≤ 10 ^ rest.length * 9 :=
        Nat.mul_le_mul_left _ (by omega)
      rw [number_cons, List.length_cons, Nat.pow_succ]
      omega

/-- Digits of one length are known by their number. -/
theorem number_inj {one two : List Char} (sameLength : one.length = two.length)
    (digits : ∀ char ∈ one, char.isDigit = true) (digitsTwo : ∀ char ∈ two, char.isDigit = true)
    (same : number one = number two) : one = two := by
  induction one generalizing two with
  | nil => exact (List.eq_nil_of_length_eq_zero sameLength.symm).symm
  | cons char rest ih =>
      cases two with
      | nil => cases sameLength
      | cons charTwo restTwo =>
          have lengths : rest.length = restTwo.length := Nat.succ.inj sameLength
          have tail : ∀ other ∈ rest, other.isDigit = true :=
            fun other member => digits other (List.mem_cons_of_mem char member)
          have tailTwo : ∀ other ∈ restTwo, other.isDigit = true :=
            fun other member => digitsTwo other (List.mem_cons_of_mem charTwo member)
          have small := number_lt tail
          have smallTwo := number_lt tailTwo
          have digit := digit_bounds (digits char List.mem_cons_self)
          have digitTwo := digit_bounds (digitsTwo charTwo List.mem_cons_self)
          rw [number_cons, number_cons, ← lengths] at same
          rw [← lengths] at smallTwo
          have positive : 0 < 10 ^ rest.length := Nat.pow_pos (by decide)
          have sameDigit : char.toNat - 48 = charTwo.toNat - 48 := by
            have quotient := congrArg (· / 10 ^ rest.length) same
            rw [Nat.mul_add_div positive, Nat.mul_add_div positive, Nat.div_eq_of_lt small,
              Nat.div_eq_of_lt smallTwo] at quotient
            exact quotient
          rw [sameDigit] at same
          have sameChar : char = charTwo := Char.toNat_inj.mp (by omega)
          rw [sameChar, ih lengths tail tailTwo (Nat.add_left_cancel same)]

theorem number_toDigits (n : Nat) : number (Nat.toDigits 10 n) = n :=
  Nat.ofDigitChars_ten_toDigits

theorem number_pad (n : Nat) : number (pad n) = n := by
  unfold pad number
  rw [Nat.ofDigitChars_append, Nat.ofDigitChars_replicate_zero, Nat.mul_zero]
  exact number_toDigits n

theorem isDigits_pad {n : Nat} (small : n < 100) : isDigits 2 (pad n) = true := by
  have length : (Nat.toDigits 10 n).length ≤ 2 :=
    (Nat.length_toDigits_le_iff (by decide) (by decide)).mpr small
  refine isDigits_iff.mpr ⟨?_, ?_⟩
  · unfold pad
    rw [List.length_append, List.length_replicate]
    omega
  · intro char member
    rcases List.mem_append.mp member with isZero | isDigit
    · rw [List.eq_of_mem_replicate isZero]
      rfl
    · exact Nat.isDigit_of_mem_toDigits (by decide) (by decide) isDigit

theorem isDigits_year {year : Nat} (four : 1000 ≤ year) (small : year < 10000) :
    isDigits 4 (Nat.toDigits 10 year) = true := by
  have atMost : (Nat.toDigits 10 year).length ≤ 4 :=
    (Nat.length_toDigits_le_iff (by decide) (by decide)).mpr small
  have atLeast : ¬(Nat.toDigits 10 year).length ≤ 3 := by
    rw [Nat.length_toDigits_le_iff (by decide) (by decide)]
    omega
  refine isDigits_iff.mpr ⟨by omega, ?_⟩
  intro char member
  exact Nat.isDigit_of_mem_toDigits (by decide) (by decide) member

/-- Two digits are what their number is padded to. -/
theorem pad_number {text : List Char} (digits : isDigits 2 text = true) :
    pad (number text) = text := by
  obtain ⟨length, all⟩ := isDigits_iff.mp digits
  have small : number text < 100 := by
    have lt := number_lt all
    rwa [length] at lt
  obtain ⟨lengthPad, allPad⟩ := isDigits_iff.mp (isDigits_pad small)
  exact number_inj (lengthPad.trans length.symm) allPad all (number_pad _)

theorem toDigits_number {text : List Char} (digits : isDigits 4 text = true)
    (four : 1000 ≤ number text) : Nat.toDigits 10 (number text) = text := by
  obtain ⟨length, all⟩ := isDigits_iff.mp digits
  have small : number text < 10000 := by
    have lt := number_lt all
    rwa [length] at lt
  obtain ⟨lengthYear, allYear⟩ := isDigits_iff.mp (isDigits_year four small)
  exact number_inj (lengthYear.trans length.symm) allYear all (number_toDigits _)

/-! ### Pieces -/

theorem slice_head {head rest : List Char} {count : Nat} (length : head.length = count) :
    slice 0 count (head ++ rest) = head := by
  unfold slice
  rw [List.drop_zero, Nat.sub_zero, List.take_left' length]

theorem slice_skip {head rest : List Char} {count : Nat} (length : head.length = count)
    (first last : Nat) :
    slice (count + first) (count + last) (head ++ rest) = slice first last rest := by
  unfold slice
  rw [← List.drop_drop, List.drop_left' length, Nat.add_sub_add_left]

theorem slice_append {first middle last : Nat} (dateKey : DateKey) (lower : first ≤ middle)
    (upper : middle ≤ last) :
    slice first middle dateKey ++ slice middle last dateKey = slice first last dateKey := by
  obtain ⟨front, rfl⟩ := Nat.exists_eq_add_of_le lower
  obtain ⟨back, rfl⟩ := Nat.exists_eq_add_of_le upper
  unfold slice
  rw [← List.drop_drop, Nat.add_sub_cancel_left, Nat.add_sub_cancel_left, Nat.add_assoc,
    Nat.add_sub_cancel_left, List.take_add]

theorem slice_self {dateKey : DateKey} {count : Nat} (length : dateKey.length = count) :
    slice 0 count dateKey = dateKey := by
  unfold slice
  rw [List.drop_zero, Nat.sub_zero, ← length, List.take_length]

theorem isDigits_slice {dateKey : DateKey} {count : Nat} (digits : isDigits count dateKey = true)
    (first : Nat) {last : Nat} (within : last ≤ count) :
    isDigits (last - first) (slice first last dateKey) = true := by
  obtain ⟨length, all⟩ := isDigits_iff.mp digits
  refine isDigits_iff.mpr ⟨?_, ?_⟩
  · unfold slice
    rw [List.length_take, List.length_drop, length]
    omega
  · intro char member
    exact all char (List.mem_of_mem_drop (List.mem_of_mem_take member))

theorem isDigits_append {one two : List Char} {count more : Nat}
    (digits : isDigits count one = true) (digitsTwo : isDigits more two = true) :
    isDigits (count + more) (one ++ two) = true := by
  obtain ⟨length, all⟩ := isDigits_iff.mp digits
  obtain ⟨lengthTwo, allTwo⟩ := isDigits_iff.mp digitsTwo
  refine isDigits_iff.mpr ⟨?_, ?_⟩
  · rw [List.length_append, length, lengthTwo]
  · intro char member
    exact (List.mem_append.mp member).elim (all char) (allTwo char)

/-- A letter stands after the year. -/
theorem lettered_eq {dateKey : DateKey} {letter : Char} (isLetter : dateKey[4]? = some letter) :
    slice 0 4 dateKey ++ letter :: dateKey.drop 5 = dateKey := by
  have isSlice : slice 0 4 dateKey = dateKey.take 4 := by
    unfold slice
    rw [List.drop_zero]
  obtain ⟨inside, isThere⟩ := List.getElem?_eq_some_iff.mp isLetter
  rw [isSlice, ← isThere, List.getElem_cons_drop, List.take_append_drop]

/-! ### Reading a key -/

/-- The fields of the instant are those that the key reads. -/
def Reads (period : RankingPeriodName) (dateKey : DateKey) (time : Int) : Prop :=
  match period with
  | .hourly =>
      (dateOf time).year = yearOf dateKey ∧ (dateOf time).month = monthOf dateKey ∧
        (dateOf time).day = dayNumberOf dateKey ∧ hourOf time = hourNumberOf dateKey
  | .daily =>
      (dateOf time).year = yearOf dateKey ∧ (dateOf time).month = monthOf dateKey ∧
        (dateOf time).day = dayNumberOf dateKey
  | .weekly =>
      (dateOf time).thursday.year = yearOf dateKey ∧ (dateOf time).weekNumber = partOf dateKey
  | .monthly => (dateOf time).year = yearOf dateKey ∧ (dateOf time).month = monthOf dateKey
  | .quarterly =>
      (dateOf time).year = yearOf dateKey ∧ ((dateOf time).month - 1) / 3 + 1 = partOf dateKey
  | .yearly => (dateOf time).year = yearOf dateKey
  | .alltime => True
  | .custom => False

section Printing

variable {dateKey : DateKey} {count : Nat}

theorem pad_slice (digits : isDigits count dateKey = true) {first : Nat}
    (within : first + 2 ≤ count) :
    pad (number (slice first (first + 2) dateKey)) = slice first (first + 2) dateKey := by
  apply pad_number
  have piece := isDigits_slice digits first within
  rwa [Nat.add_sub_cancel_left] at piece

theorem toDigits_year (digits : isDigits count dateKey = true) (within : 4 ≤ count)
    (four : 1000 ≤ yearOf dateKey) :
    Nat.toDigits 10 (yearOf dateKey) = slice 0 4 dateKey :=
  toDigits_number (isDigits_slice digits 0 within) four

theorem isDigits_take (dateKey : DateKey) : slice 0 4 dateKey = dateKey.take 4 := by
  unfold slice
  rw [List.drop_zero]

/-- A key that reads the fields of an instant is the instant's key. -/
theorem dateKeyFor_of_reads {period : RankingPeriodName} {time : Int}
    (isPattern : matchesPattern period dateKey = true)
    (four : period ≠ .alltime → 1000 ≤ yearOf dateKey) (reads : Reads period dateKey time) :
    dateKeyFor period time = some dateKey := by
  unfold dateKeyFor
  dsimp only
  cases period with
  | hourly =>
      obtain ⟨year, month, day, hour⟩ := reads
      dsimp only
      rw [year, month, day, hour, toDigits_year isPattern (by decide) (four (by decide)), monthOf,
        dayNumberOf, hourNumberOf, pad_slice isPattern (by decide), pad_slice isPattern (by decide),
        pad_slice isPattern (by decide), slice_append dateKey (by decide) (by decide),
        slice_append dateKey (by decide) (by decide), slice_append dateKey (by decide) (by decide),
        slice_self (isDigits_iff.mp isPattern).1]
  | daily =>
      obtain ⟨year, month, day⟩ := reads
      dsimp only
      rw [year, month, day, toDigits_year isPattern (by decide) (four (by decide)), monthOf,
        dayNumberOf, pad_slice isPattern (by decide), pad_slice isPattern (by decide),
        slice_append dateKey (by decide) (by decide), slice_append dateKey (by decide) (by decide),
        slice_self (isDigits_iff.mp isPattern).1]
  | monthly =>
      obtain ⟨year, month⟩ := reads
      dsimp only
      rw [year, month, toDigits_year isPattern (by decide) (four (by decide)), monthOf,
        pad_slice isPattern (by decide), slice_append dateKey (by decide) (by decide),
        slice_self (isDigits_iff.mp isPattern).1]
  | yearly =>
      have year : (dateOf time).year = yearOf dateKey := reads
      dsimp only
      rw [year, toDigits_year isPattern (by decide) (four (by decide)),
        slice_self (isDigits_iff.mp isPattern).1]
  | weekly =>
      obtain ⟨year, week⟩ := reads
      unfold matchesPattern at isPattern
      simp only [Bool.and_eq_true, decide_eq_true_eq] at isPattern
      obtain ⟨⟨isYear, isLetter⟩, isWeek⟩ := isPattern
      rw [← isDigits_take] at isYear
      dsimp only
      rw [isoWeekKey, year, week, partOf, pad_number isWeek, yearOf,
        toDigits_number isYear (four (by decide)), lettered_eq isLetter]
  | quarterly =>
      obtain ⟨year, quarter⟩ := reads
      unfold matchesPattern at isPattern
      simp only [Bool.and_eq_true, Bool.or_eq_true, decide_eq_true_eq] at isPattern
      obtain ⟨⟨isYear, isLetter⟩, isQuarter⟩ := isPattern
      rw [← isDigits_take] at isYear
      have isPart : Nat.toDigits 10 (partOf dateKey) = dateKey.drop 5 := by
        unfold partOf
        rcases isQuarter with ((is | is) | is) | is
        · rw [is]
          rfl
        · rw [is]
          rfl
        · rw [is]
          rfl
        · rw [is]
          rfl
      dsimp only
      rw [year, quarter, isPart, yearOf, toDigits_number isYear (four (by decide)),
        lettered_eq isLetter]
  | alltime =>
      unfold matchesPattern at isPattern
      rw [decide_eq_true_eq] at isPattern
      rw [isPattern]
  | custom => exact absurd reads id

end Printing

/-! ### Printing a key -/

section Fields

variable {year month day hour rest : List Char}

theorem slice_month (isYear : year.length = 4) (isMonth : month.length = 2) :
    slice 4 6 (year ++ (month ++ rest)) = month :=
  (slice_skip isYear 0 2).trans (slice_head isMonth)

theorem slice_day (isYear : year.length = 4) (isMonth : month.length = 2)
    (isDay : day.length = 2) : slice 6 8 (year ++ (month ++ (day ++ rest))) = day :=
  (slice_skip isYear 2 4).trans ((slice_skip isMonth 0 2).trans (slice_head isDay))

theorem slice_hour (isYear : year.length = 4) (isMonth : month.length = 2)
    (isDay : day.length = 2) (isHour : hour.length = 2) :
    slice 8 10 (year ++ (month ++ (day ++ hour))) = hour :=
  (slice_skip isYear 4 6).trans ((slice_skip isMonth 2 4).trans
    ((slice_skip isDay 0 2).trans (slice_self isHour)))

theorem lettered_spec (letter : Char) (rest : List Char) (isYear : year.length = 4) :
    (year ++ letter :: rest).take 4 = year ∧ (year ++ letter :: rest)[4]? = some letter ∧
      (year ++ letter :: rest).drop 5 = rest := by
  refine ⟨List.take_left' isYear, ?_, ?_⟩
  · rw [List.getElem?_append_right (Nat.le_of_eq isYear), isYear]
    rfl
  · rw [show 5 = 4 + 1 from rfl, ← List.drop_drop, List.drop_left' isYear]
    rfl

end Fields

theorem quarter_cases {month : Nat} (small : month ≤ 12) :
    Nat.toDigits 10 ((month - 1) / 3 + 1) = ['1'] ∨ Nat.toDigits 10 ((month - 1) / 3 + 1) = ['2'] ∨
      Nat.toDigits 10 ((month - 1) / 3 + 1) = ['3'] ∨
        Nat.toDigits 10 ((month - 1) / 3 + 1) = ['4'] := by
  have cases : (month - 1) / 3 + 1 = 1 ∨ (month - 1) / 3 + 1 = 2 ∨ (month - 1) / 3 + 1 = 3 ∨
      (month - 1) / 3 + 1 = 4 := by
    omega
  rcases cases with is | is | is | is
  · rw [is]
    exact Or.inl rfl
  · rw [is]
    exact Or.inr (Or.inl rfl)
  · rw [is]
    exact Or.inr (Or.inr (Or.inl rfl))
  · rw [is]
    exact Or.inr (Or.inr (Or.inr rfl))

/-- The key of an instant reads its fields. -/
theorem reads_dateKeyFor {period : RankingPeriodName} {time : Int} (derivable : period ≠ .custom)
    (four : 1000 ≤ (dateOf time).year ∧ 1000 ≤ (dateOf time).thursday.year)
    (small : (dateOf time).year < 10000 ∧ (dateOf time).thursday.year < 10000) :
    ∃ dateKey, dateKeyFor period time = some dateKey ∧ matchesPattern period dateKey = true ∧
      Reads period dateKey time := by
  have valid : (dateOf time).Valid := valid_civil _
  have days := daysInMonth_le (dateOf time).year (dateOf time).month
  have month_le := valid.month_le
  have day_le := valid.day_le
  have isMonth : isDigits 2 (pad (dateOf time).month) = true := isDigits_pad (by omega)
  have isDay : isDigits 2 (pad (dateOf time).day) = true := isDigits_pad (by omega)
  have isHour : isDigits 2 (pad (hourOf time)) = true := isDigits_pad (by unfold hourOf; omega)
  have isYear := isDigits_year four.1 small.1
  have year := (isDigits_iff.mp isYear).1
  have month := (isDigits_iff.mp isMonth).1
  have day := (isDigits_iff.mp isDay).1
  have readYear : ∀ rest, (dateOf time).year =
      yearOf (Nat.toDigits 10 (dateOf time).year ++ rest) := by
    intro rest
    rw [yearOf, slice_head year, number_toDigits]
  cases period with
  | hourly =>
      refine ⟨_, rfl, isDigits_append isYear (isDigits_append isMonth
        (isDigits_append isDay isHour)), readYear _, ?_, ?_, ?_⟩
      · rw [monthOf, slice_month year month, number_pad]
      · rw [dayNumberOf, slice_day year month day, number_pad]
      · rw [hourNumberOf, slice_hour year month day (isDigits_iff.mp isHour).1, number_pad]
  | daily =>
      refine ⟨_, rfl, isDigits_append isYear (isDigits_append isMonth isDay), readYear _, ?_, ?_⟩
      · rw [monthOf, slice_month year month, number_pad]
      · rw [dayNumberOf, ← List.append_nil (pad (dateOf time).day), slice_day year month day,
          number_pad]
  | monthly =>
      refine ⟨_, rfl, isDigits_append isYear isMonth, readYear _, ?_⟩
      rw [monthOf, ← List.append_nil (pad (dateOf time).month), slice_month year month, number_pad]
  | yearly =>
      have read := readYear []
      rw [List.append_nil] at read
      exact ⟨_, rfl, isYear, read⟩
  | weekly =>
      have isThursday := isDigits_year four.2 small.2
      have thursday := (isDigits_iff.mp isThursday).1
      have week : (dateOf time).weekNumber < 100 := by
        have last := dayOfYear_le (valid_civil (dayOf time / 7 * 7 + 3))
        have most := daysInYear_le (civil (dayOf time / 7 * 7 + 3)).year
        unfold Date.weekNumber dateOf
        rw [thursday_civil]
        omega
      obtain ⟨isTake, isLetter, isDrop⟩ :=
        lettered_spec 'W' (pad (dateOf time).weekNumber) thursday
      refine ⟨_, rfl, ?_, ?_, ?_⟩
      · unfold matchesPattern isoWeekKey
        dsimp only
        rw [isTake, isLetter, isDrop, isThursday, isDigits_pad week]
        rfl
      · rw [isoWeekKey, yearOf, slice_head thursday, number_toDigits]
      · rw [isoWeekKey, partOf, isDrop, number_pad]
  | quarterly =>
      obtain ⟨isTake, isLetter, isDrop⟩ :=
        lettered_spec 'Q' (Nat.toDigits 10 (((dateOf time).month - 1) / 3 + 1)) year
      refine ⟨_, rfl, ?_, readYear _, ?_⟩
      · unfold matchesPattern
        dsimp only
        rw [isTake, isLetter, isDrop, isYear]
        simp only [Bool.and_eq_true, Bool.or_eq_true, decide_eq_true_eq]
        rcases quarter_cases month_le with is | is | is | is
        · exact ⟨⟨trivial, trivial⟩, Or.inl (Or.inl (Or.inl is))⟩
        · exact ⟨⟨trivial, trivial⟩, Or.inl (Or.inl (Or.inr is))⟩
        · exact ⟨⟨trivial, trivial⟩, Or.inl (Or.inr is)⟩
        · exact ⟨⟨trivial, trivial⟩, Or.inr is⟩
      · rw [partOf, isDrop, number_toDigits]
  | alltime => exact ⟨_, rfl, rfl, trivial⟩
  | custom => exact absurd rfl derivable

end Soulzaa.Rankings.RankingPeriodResolver
