/-
The periods of the rankings: their keys, their windows and the keys they are made of.

A key is read back piece by piece into the fields it was printed from, and a window holds the
instants whose fields are those that its key reads.
-/

import Mathlib.Data.List.Infix
import Soulzaa.Lib.CivilDays

namespace Soulzaa.Rankings.RankingPeriodResolver

open CivilDates

inductive RankingPeriodName where
  | hourly
  | daily
  | weekly
  | monthly
  | quarterly
  | yearly
  | alltime
  | custom
  deriving DecidableEq, Repr

abbrev DateKey := List Char

def pad (n : Nat) : List Char :=
  let digits := Nat.toDigits 10 n
  List.replicate (2 - digits.length) '0' ++ digits

def slice (first last : Nat) (dateKey : DateKey) : List Char :=
  (dateKey.drop first).take (last - first)

def number (digits : List Char) : Nat := Nat.ofDigitChars 10 digits 0

/-! ### Dates -/

/-- The day of an instant, counted from the first of January of the year 1. -/
def dayOf (time : Int) : Nat := (time / 86400000 + 719162).toNat

def dateOf (time : Int) : Date := civil (dayOf time)

def hourOf (time : Int) : Nat := (time % 86400000 / 3600000).toNat

/-- `Date.UTC`, of a month that may lie in a later year. -/
def utc (year month day hour : Nat) : Int :=
  let full := (if year ≤ 99 then 1900 + year else year) + month / 12
  let days : Int := daysBeforeYear full + daysBeforeMonth full (month % 12 + 1) + day - 1 - 719162
  (days * 24 + hour) * 3600000

/-- Sunday is 0. -/
def utcDay (time : Int) : Nat := (dayOf time + 1) % 7

def isoDay (time : Int) : Nat := if utcDay time = 0 then 7 else utcDay time

/-! ### Keys -/

def isoWeekKey (date : Date) : DateKey :=
  Nat.toDigits 10 date.thursday.year ++ 'W' :: pad date.weekNumber

/-- `custom` throws. -/
def dateKeyFor (period : RankingPeriodName) (time : Int) : Option DateKey :=
  let date := dateOf time
  let y := Nat.toDigits 10 date.year
  match period with
  | .alltime => some "alltime".toList
  | .custom => none
  | .hourly => some (y ++ (pad date.month ++ (pad date.day ++ pad (hourOf time))))
  | .daily => some (y ++ (pad date.month ++ pad date.day))
  | .monthly => some (y ++ pad date.month)
  | .quarterly => some (y ++ 'Q' :: Nat.toDigits 10 ((date.month - 1) / 3 + 1))
  | .yearly => some y
  | .weekly => some (isoWeekKey date)

def isDigits (count : Nat) (text : List Char) : Bool := text.length = count && text.all Char.isDigit

/-- `PATTERNS`. -/
def matchesPattern : RankingPeriodName → DateKey → Bool
  | .hourly, dateKey => isDigits 10 dateKey
  | .daily, dateKey => isDigits 8 dateKey
  | .weekly, dateKey =>
      isDigits 4 (dateKey.take 4) && dateKey[4]? = some 'W' && isDigits 2 (dateKey.drop 5)
  | .monthly, dateKey => isDigits 6 dateKey
  | .quarterly, dateKey =>
      isDigits 4 (dateKey.take 4) && dateKey[4]? = some 'Q' &&
        (dateKey.drop 5 = ['1'] || dateKey.drop 5 = ['2'] || dateKey.drop 5 = ['3'] ||
          dateKey.drop 5 = ['4'])
  | .yearly, dateKey => isDigits 4 dateKey
  | .alltime, dateKey => dateKey = "alltime".toList
  | .custom, _ => false

def isoWeeksInYear (isoYear : Nat) : Nat :=
  if utcDay (utc isoYear 0 1 0) = 4 ∨ utcDay (utc isoYear 11 31 0) = 4 then 53 else 52

def yearOf (dateKey : DateKey) : Nat := number (slice 0 4 dateKey)
def monthOf (dateKey : DateKey) : Nat := number (slice 4 6 dateKey)
def dayNumberOf (dateKey : DateKey) : Nat := number (slice 6 8 dateKey)
def hourNumberOf (dateKey : DateKey) : Nat := number (slice 8 10 dateKey)

/-- The week or the quarter after its letter. -/
def partOf (dateKey : DateKey) : Nat := number (dateKey.drop 5)

def validMonth (dateKey : DateKey) : Bool := 1 ≤ monthOf dateKey && monthOf dateKey ≤ 12

def validDay (dateKey : DateKey) : Bool :=
  validMonth dateKey && 1 ≤ dayNumberOf dateKey &&
    dayNumberOf dateKey ≤ (dateOf (utc (yearOf dateKey) (monthOf dateKey) 0 0)).day

def isValidDateKey (period : RankingPeriodName) (dateKey : DateKey) : Bool :=
  matchesPattern period dateKey &&
    match period with
    | .weekly =>
        1 ≤ partOf dateKey && partOf dateKey ≤ 53 &&
          (partOf dateKey ≠ 53 || isoWeeksInYear (yearOf dateKey) = 53)
    | .monthly => validMonth dateKey
    | .daily => validDay dateKey
    | .hourly => validDay dateKey && hourNumberOf dateKey ≤ 23
    | _ => true

/-! ### Windows -/

/-- Half-open. -/
structure Window where
  start : Int
  stop : Int

def Window.Contains (window : Window) (time : Int) : Prop :=
  window.start ≤ time ∧ time < window.stop

/-- The fourth of January is always in the first week. -/
def isoWeekStart (isoYear week : Nat) : Int :=
  let jan4 := utc isoYear 0 4 0
  let week1Monday := jan4 - ((isoDay jan4 : Int) - 1) * 86400000
  week1Monday + ((week : Int) - 1) * 7 * 86400000

def bounds (period : RankingPeriodName) (dateKey : DateKey) : Option Window :=
  let y := yearOf dateKey
  match period with
  | .alltime =>
      some
        { start := 0
          stop := utc 9999 0 1 0 }
  | .custom => none
  | .hourly =>
      let start := utc y (monthOf dateKey - 1) (dayNumberOf dateKey) (hourNumberOf dateKey)
      some
        { start := start
          stop := start + 3600000 }
  | .daily =>
      let start := utc y (monthOf dateKey - 1) (dayNumberOf dateKey) 0
      some
        { start := start
          stop := start + 86400000 }
  | .weekly =>
      let start := isoWeekStart y (partOf dateKey)
      some
        { start := start
          stop := start + 7 * 86400000 }
  | .monthly =>
      let month := monthOf dateKey - 1
      some
        { start := utc y month 1 0
          stop := utc y (month + 1) 1 0 }
  | .quarterly =>
      let q := partOf dateKey
      some
        { start := utc y ((q - 1) * 3) 1 0
          stop := utc y (q * 3) 1 0 }
  | .yearly =>
      some
        { start := utc y 0 1 0
          stop := utc (y + 1) 0 1 0 }

/-- `none` is a throw. -/
def windowFor (period : RankingPeriodName) (dateKey : DateKey) : Option Window :=
  if period = .alltime ∨ isValidDateKey period dateKey = true then bounds period dateKey else none

def constituentsOf (period : RankingPeriodName) (dateKey : DateKey) :
    List (RankingPeriodName × DateKey) :=
  match period with
  | .quarterly =>
      let first := (partOf dateKey - 1) * 3 + 1
      (List.range 3).map fun i => (.monthly, slice 0 4 dateKey ++ pad (first + i))
  | .yearly => (List.range 12).map fun i => (.monthly, dateKey ++ pad (i + 1))
  | _ => []

end Soulzaa.Rankings.RankingPeriodResolver
