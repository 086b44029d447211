/-
AttendanceStreakService and AttendanceService.claim, on the rows of one user.

A claim is decided on the stored state and today's date.  The coins, the claim's row and the
new state are one transaction; EXP and the cosmetic are granted after it.
-/

import Soulzaa.Lib.CivilDates
import Soulzaa.Wallet.Types

namespace Soulzaa.Attendance

open CivilDates

/-- A date written as YYYY-MM-DD. -/
abbrev DayKey := Date

/-- A zone gives each instant the number of its local day, from a first date on. -/
structure Timezone where
  name : String
  localDay : Nat → Nat
  ordered : ∀ {one two : Nat}, one ≤ two → localDay one ≤ localDay two

def firstDate : Date :=
  { year := 1970
    month := 1
    day := 1 }

theorem valid_firstDate : firstDate.Valid where
  month_pos := by decide
  month_le := by decide
  day_pos := by decide
  day_le := by decide

def dayKey (now : Nat) (timezone : Timezone) : DayKey :=
  calendar firstDate (timezone.localDay now)

def previousDayKey (dayKey : DayKey) : DayKey := dayKey.previous

/-! ### The streak -/

def attendanceCycleLength : Nat := 30

inductive StreakOutcome where
  | alreadyClaimed
  | claimable (day cycle : Nat) (reset : Bool)
  deriving DecidableEq, Repr

def resolve (todayKey : DayKey) (lastClaimDayKey : Option DayKey) (currentDay cycleCount : Nat) :
    StreakOutcome :=
  if lastClaimDayKey = some todayKey then .alreadyClaimed
  else if lastClaimDayKey ≠ some (previousDayKey todayKey) then
    .claimable 1 cycleCount lastClaimDayKey.isSome
  else if currentDay ≥ attendanceCycleLength then .claimable 1 (cycleCount + 1) false
  else .claimable (currentDay + 1) cycleCount false

/-! ### Rows -/

structure AttendanceLadderRung where
  day : Nat
  coins : Int
  currency : WalletCurrency := .game
  expAmount : Option Nat := none
  cosmeticId : Option String := none
  deriving DecidableEq, Repr

structure UserAttendance where
  currentDay : Nat
  cycleCount : Nat
  lastClaimDayKey : Option DayKey
  lastClaimAt : Option Nat
  lastClaimTimezone : Option String
  totalClaims : Nat
  deriving DecidableEq, Repr

structure AttendanceClaim where
  day : Nat
  cycle : Nat
  dayKey : DayKey
  coins : Int
  currency : WalletCurrency
  expAmount : Option Nat
  cosmeticId : Option String
  timezone : String
  claimedAt : Nat
  deriving DecidableEq, Repr

/-- A credit of the wallet, under the key of the user, its day and its kind. -/
structure Credit where
  dayKey : DayKey
  kind : String
  currency : WalletCurrency
  amount : Int
  deriving DecidableEq, Repr

structure AttendanceDb where
  state : Option UserAttendance := none
  claims : List AttendanceClaim := []
  credits : List Credit := []
  deriving DecidableEq, Repr

namespace AttendanceDb

/-- A key that is there is answered with what it posted. -/
def credit (db : AttendanceDb) (dayKey : DayKey) (currency : WalletCurrency) (amount : Int) :
    Option AttendanceDb :=
  if amount ≤ 0 then none
  else if db.credits.any fun posted => posted.dayKey = dayKey && posted.kind = "coins" then some db
  else
    some
      { db with
        credits := db.credits ++
          [{ dayKey := dayKey
             kind := "coins"
             currency := currency
             amount := amount }] }

/-- None where the day has its row already. -/
def recordClaim (db : AttendanceDb) (claim : AttendanceClaim) : Option AttendanceDb :=
  if db.claims.any fun row => row.dayKey = claim.dayKey then none
  else
    some
      { db with
        claims := db.claims ++ [claim]
        state :=
          some
            { currentDay := claim.day
              cycleCount := claim.cycle
              lastClaimDayKey := some claim.dayKey
              lastClaimAt := some claim.claimedAt
              lastClaimTimezone := some claim.timezone
              totalClaims := (db.state.map UserAttendance.totalClaims).getD 0 + 1 } }

end AttendanceDb

/-! ### Claiming -/

/-- A claim at an instant, with the configuration it reads and what goes wrong on its way. -/
structure Attempt where
  now : Nat
  timezone : Timezone
  enabled : Option Bool := none
  minHours : Option Nat := none
  ladder : Nat → Option AttendanceLadderRung
  creditFails : Bool := false
  writeFails : Bool := false
  expFails : Bool := false
  grantsCosmetic : Bool := true

inductive ClaimError where
  | forbidden
  | conflict
  | internal
  | thrown
  deriving DecidableEq, Repr

structure ClaimResult where
  claimed : Bool
  day : Nat
  cycle : Nat
  coins : Int
  expAwarded : Option Nat
  cosmeticId : Option String
  streakReset : Bool
  deriving DecidableEq, Repr

def AttendanceDb.unclaimed (db : AttendanceDb) : ClaimResult :=
  { claimed := false
    day := (db.state.map UserAttendance.currentDay).getD 0
    cycle := (db.state.map UserAttendance.cycleCount).getD 0
    coins := 0
    expAwarded := none
    cosmeticId := none
    streakReset := false }

def defaultMinHours : Nat := 20

/-- Only where the zone changed since the last claim. -/
def intervalElapsed (state : Option UserAttendance) (attempt : Attempt) : Bool :=
  match state with
  | none => true
  | some state =>
      match state.lastClaimAt, state.lastClaimTimezone with
      | some lastClaimAt, some lastClaimTimezone =>
          lastClaimTimezone = attempt.timezone.name ||
            lastClaimAt + attempt.minHours.getD defaultMinHours * 3600000 ≤ attempt.now
      | _, _ => true

def claimRow (attempt : Attempt) (rung : AttendanceLadderRung) (day cycle : Nat) :
    AttendanceClaim where
  day := day
  cycle := cycle
  dayKey := dayKey attempt.now attempt.timezone
  coins := rung.coins
  currency := rung.currency
  expAmount := rung.expAmount
  cosmeticId := rung.cosmeticId
  timezone := attempt.timezone.name
  claimedAt := attempt.now

def granted (attempt : Attempt) (rung : AttendanceLadderRung) (day cycle : Nat) (reset : Bool) :
    ClaimResult where
  claimed := true
  day := day
  cycle := cycle
  coins := rung.coins
  expAwarded :=
    rung.expAmount.filter fun amount => 0 < amount && !attempt.expFails
  cosmeticId := rung.cosmeticId.filter fun _ => attempt.grantsCosmetic
  streakReset := reset

namespace AttendanceDb

/-- The transaction of a claim, and what is answered; what is thrown in it leaves no row. -/
def pay (db : AttendanceDb) (attempt : Attempt) (rung : AttendanceLadderRung) (day cycle : Nat)
    (reset : Bool) : AttendanceDb × Except ClaimError ClaimResult :=
  if attempt.creditFails then (db, .error .thrown)
  else
    match db.credit (dayKey attempt.now attempt.timezone) rung.currency rung.coins with
    | none => (db, .error .thrown)
    | some credited =>
        match credited.recordClaim (claimRow attempt rung day cycle) with
        | none => (db, .ok db.unclaimed)
        | some recorded =>
            if attempt.writeFails then (db, .error .thrown)
            else (recorded, .ok (granted attempt rung day cycle reset))

def claim (db : AttendanceDb) (attempt : Attempt) :
    AttendanceDb × Except ClaimError ClaimResult :=
  if attempt.enabled = some false then (db, .error .forbidden)
  else
    match resolve (dayKey attempt.now attempt.timezone)
      (db.state.bind UserAttendance.lastClaimDayKey)
      ((db.state.map UserAttendance.currentDay).getD 0)
      ((db.state.map UserAttendance.cycleCount).getD 0) with
    | .alreadyClaimed => (db, .ok db.unclaimed)
    | .claimable day cycle reset =>
        if intervalElapsed db.state attempt = false then (db, .error .conflict)
        else
          match attempt.ladder day with
          | none => (db, .error .internal)
          | some rung => db.pay attempt rung day cycle reset

def step (db : AttendanceDb) (attempt : Attempt) : AttendanceDb := (db.claim attempt).1

end AttendanceDb

end Soulzaa.Attendance
