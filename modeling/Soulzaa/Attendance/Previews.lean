/-
What getStatus offers against what a claim pays.

Both resolve the streak.  A claim is also held back after a change of zone, and refused
where its date has a row, which the last claim's date need not show once a user has moved
back across the date line.
-/

import Soulzaa.Attendance.Histories

namespace Soulzaa.Attendance

open CivilDates

structure AttendanceStatus where
  currentDay : Nat
  cycleCount : Nat
  claimableToday : Bool
  nextDay : Option Nat
  timezone : String
  deriving DecidableEq, Repr

def StreakOutcome.isClaimable : StreakOutcome → Bool
  | .alreadyClaimed => false
  | .claimable _ _ _ => true

def StreakOutcome.offered : StreakOutcome → Option Nat
  | .alreadyClaimed => none
  | .claimable day _ _ => some day

namespace AttendanceDb

def getStatus (db : AttendanceDb) (now : Nat) (timezone : Timezone) : AttendanceStatus :=
  let outcome := db.resolved (dayKey now timezone)
  { currentDay := (db.state.map UserAttendance.currentDay).getD 0
    cycleCount := (db.state.map UserAttendance.cycleCount).getD 0
    claimableToday := outcome.isClaimable
    nextDay := outcome.offered
    timezone := timezone.name }

/-- The claim is answered as paid on the rung, and the rung's coins are credited. -/
structure Pays (db : AttendanceDb) (attempt : Attempt) (day : Nat) : Prop where
  answered : ∃ result, (db.claim attempt).2 = .ok result ∧ result.claimed = true ∧
    result.day = day
  credited : ∃ rung, attempt.ladder day = some rung ∧
    (db.step attempt).credits = db.credits ++
      [{ dayKey := dayKey attempt.now attempt.timezone
         kind := "coins"
         currency := rung.currency
         amount := rung.coins }]

/-- What is offered at the instant and in the zone of the claim is what the claim pays. -/
def Agrees (db : AttendanceDb) (attempt : Attempt) : Prop :=
  ∀ day,
    ((db.getStatus attempt.now attempt.timezone).claimableToday = true ∧
        (db.getStatus attempt.now attempt.timezone).nextDay = some day) ↔
      db.Pays attempt day

/-- The date is the last one claimed; or the claim is not held back and the date has no row. -/
def Unhindered (db : AttendanceDb) (attempt : Attempt) : Prop :=
  db.state.bind UserAttendance.lastClaimDayKey = some (dayKey attempt.now attempt.timezone) ∨
    (intervalElapsed db.state attempt = true ∧
      ∀ claim ∈ db.claims, claim.dayKey ≠ dayKey attempt.now attempt.timezone)

instance (db : AttendanceDb) (attempt : Attempt) : Decidable (db.Unhindered attempt) :=
  inferInstanceAs (Decidable (_ ∨ (_ ∧ _)))

end AttendanceDb

variable {db : AttendanceDb} {attempt : Attempt}

/-! ### What a claim does to the rows -/

/-- Where the date has a row, the transaction is rolled back. -/
theorem pay_of_taken {rung : AttendanceLadderRung} {number cycle : Nat} {reset : Bool}
    {claim : AttendanceClaim} (isClaim : claim ∈ db.claims)
    (isToday : claim.dayKey = dayKey attempt.now attempt.timezone) :
    (db.pay attempt rung number cycle reset).1 = db ∧
      ∀ result, (db.pay attempt rung number cycle reset).2 = .ok result →
        result.claimed = false := by
  unfold AttendanceDb.pay
  split
  · exact ⟨rfl, nofun⟩
  · split
    · exact ⟨rfl, nofun⟩
    · rename_i credited isCredited
      have sameClaims : credited.claims = db.claims := by
        unfold AttendanceDb.credit at isCredited
        split at isCredited
        · cases isCredited
        · split at isCredited <;> cases isCredited <;> rfl
      have refused : credited.recordClaim (claimRow attempt rung number cycle) = none := by
        unfold AttendanceDb.recordClaim
        rw [sameClaims]
        exact if_pos (List.any_eq_true.mpr ⟨claim, isClaim, decide_eq_true isToday⟩)
      rw [refused]
      refine ⟨rfl, fun result isResult => ?_⟩
      cases isResult
      rfl

/-- A payment leaves the rows, or adds one claim and its credit. -/
theorem pay_cases (posted : db.credits = db.claims.map postedFor) (attempt : Attempt)
    (rung : AttendanceLadderRung) (number cycle : Nat) (reset : Bool) :
    (db.pay attempt rung number cycle reset).1 = db ∨
      ∃ row, (db.pay attempt rung number cycle reset).1 = db.paid row := by
  by_cases taken : ∃ claim ∈ db.claims, claim.dayKey = dayKey attempt.now attempt.timezone
  · obtain ⟨claim, isClaim, isToday⟩ := taken
    exact Or.inl (pay_of_taken isClaim isToday).1
  · rw [pay_of_new posted fun claim isClaim isToday => taken ⟨claim, isClaim, isToday⟩]
    split
    · exact Or.inl rfl
    · exact Or.inr ⟨_, rfl⟩

theorem step_cases (posted : db.credits = db.claims.map postedFor) (attempt : Attempt) :
    db.step attempt = db ∨ ∃ row, db.step attempt = db.paid row := by
  unfold AttendanceDb.step
  rw [claim_eq]
  split
  · exact Or.inl rfl
  · split
    · exact Or.inl rfl
    · split
      · exact Or.inl rfl
      · split
        · exact Or.inl rfl
        · exact pay_cases posted attempt _ _ _ _

/-- Whatever the zones, each credit is that of a claim. -/
theorem posted_run (attempts : List Attempt) :
    (Runs.run AttendanceDb.step {} attempts).credits =
      (Runs.run AttendanceDb.step {} attempts).claims.map postedFor := by
  have kept : ∀ (db : AttendanceDb) (attempt : Attempt), db.credits = db.claims.map postedFor →
      (db.step attempt).credits = (db.step attempt).claims.map postedFor := by
    intro db attempt posted
    rcases step_cases posted attempt with same | ⟨row, isPaid⟩
    · rw [same]
      exact posted
    · rw [isPaid]
      unfold AttendanceDb.paid
      dsimp only
      rw [List.map_append, posted]
      rfl
  exact (Runs.always_of_step kept {} rfl attempts).final

/-! ### The rung that is offered -/

theorem resolved_claimable {today : DayKey} {number cycle : Nat} {reset : Bool}
    (claimable : db.resolved today = .claimable number cycle reset) :
    db.state.bind UserAttendance.lastClaimDayKey ≠ some today ∧
      1 ≤ number ∧ number ≤ attendanceCycleLength := by
  unfold AttendanceDb.resolved resolve at claimable
  split at claimable
  · cases claimable
  · rename_i notToday
    refine ⟨notToday, ?_⟩
    split at claimable
    · cases claimable
      decide
    · split at claimable
      · cases claimable
        decide
      · rename_i short
        cases claimable
        exact ⟨Nat.le_add_left 1 _, Nat.not_le.mp short⟩

theorem resolved_already {today : DayKey} :
    db.resolved today = .alreadyClaimed ↔
      db.state.bind UserAttendance.lastClaimDayKey = some today := by
  constructor
  · intro already
    by_contra notToday
    unfold AttendanceDb.resolved resolve at already
    rw [if_neg notToday] at already
    split at already
    · cases already
    · split at already <;> cases already
  · intro isToday
    exact if_pos isToday

/-- What a claim that works does once it is neither held back nor its date taken. -/
theorem claim_of_open {number cycle : Nat} {reset : Bool}
    (posted : db.credits = db.claims.map postedFor) (works : attempt.Works)
    (claimable : db.resolved (dayKey attempt.now attempt.timezone) =
      .claimable number cycle reset)
    (elapsed : intervalElapsed db.state attempt = true)
    (new : ∀ claim ∈ db.claims, claim.dayKey ≠ dayKey attempt.now attempt.timezone) :
    ∃ rung, attempt.ladder number = some rung ∧
      db.claim attempt = (db.paid (claimRow attempt rung number cycle),
        .ok (granted attempt rung number cycle reset)) := by
  obtain ⟨-, positive, small⟩ := resolved_claimable claimable
  obtain ⟨rung, isRung, paysSome⟩ := works.ladder number positive small
  refine ⟨rung, isRung, ?_⟩
  rw [claim_eq, if_neg works.enabled, claimable]
  dsimp only
  rw [elapsed, if_neg (by decide), isRung]
  dsimp only
  rw [pay_of_new posted new, if_neg]
  rintro (crediting | worthless | writing)
  · exact nomatch crediting.symm.trans works.credits
  · exact absurd worthless (Int.not_le.mpr paysSome)
  · exact nomatch writing.symm.trans works.writes

/-- A claim that is held back, or whose date has a row, is not answered as paid. -/
theorem unpaid_of_hindered {number cycle : Nat} {reset : Bool} {result : ClaimResult}
    (works : attempt.Works)
    (claimable : db.resolved (dayKey attempt.now attempt.timezone) =
      .claimable number cycle reset)
    (hindered : ¬(intervalElapsed db.state attempt = true ∧
      ∀ claim ∈ db.claims, claim.dayKey ≠ dayKey attempt.now attempt.timezone))
    (answered : (db.claim attempt).2 = .ok result) : result.claimed = false := by
  rw [claim_eq, if_neg works.enabled, claimable] at answered
  dsimp only at answered
  split at answered
  · cases answered
  · rename_i elapsed
    have taken : ∃ claim ∈ db.claims, claim.dayKey = dayKey attempt.now attempt.timezone := by
      by_contra none
      refine hindered ⟨Bool.eq_true_of_not_eq_false elapsed, fun claim isClaim isToday => ?_⟩
      exact none ⟨claim, isClaim, isToday⟩
    obtain ⟨claim, isClaim, isToday⟩ := taken
    split at answered
    · cases answered
    · exact (pay_of_taken isClaim isToday).2 result answered

/-- What is offered is paid where nothing hinders the claim. -/
theorem agrees_iff_of_posted (posted : db.credits = db.claims.map postedFor)
    (works : attempt.Works) : db.Agrees attempt ↔ db.Unhindered attempt := by
  unfold AttendanceDb.Agrees AttendanceDb.Unhindered AttendanceDb.getStatus
  dsimp only
  cases outcome : db.resolved (dayKey attempt.now attempt.timezone) with
  | alreadyClaimed =>
      refine iff_of_true (fun day => iff_of_false (fun offers => nomatch offers.1) ?_)
        (Or.inl (resolved_already.mp outcome))
      rintro ⟨⟨result, isResult, isClaimed, -⟩, -⟩
      rw [claim_eq, if_neg works.enabled, outcome] at isResult
      cases isResult
      cases isClaimed
  | claimable number cycle reset =>
      rw [or_iff_right (resolved_claimable outcome).1]
      by_cases opens : intervalElapsed db.state attempt = true ∧
          ∀ claim ∈ db.claims, claim.dayKey ≠ dayKey attempt.now attempt.timezone
      · refine iff_of_true (fun day => ?_) opens
        obtain ⟨rung, isRung, claims⟩ := claim_of_open posted works outcome opens.1 opens.2
        constructor
        · rintro ⟨-, isDay⟩
          cases isDay
          refine ⟨⟨_, congrArg Prod.snd claims, rfl, rfl⟩, rung, isRung, ?_⟩
          unfold AttendanceDb.step
          rw [claims]
          rfl
        · rintro ⟨⟨result, isResult, -, isDay⟩, -⟩
          rw [claims] at isResult
          cases isResult
          exact ⟨rfl, congrArg some isDay⟩
      · refine iff_of_false (fun agrees => ?_) opens
        obtain ⟨result, isResult, isClaimed, -⟩ := ((agrees number).mp ⟨rfl, rfl⟩).answered
        rw [unpaid_of_hindered works outcome opens isResult] at isClaimed
        cases isClaimed

/-! ### Histories in any zones -/

/-- After any history of claims, in whatever zones, the status offers what a claim pays exactly
where the claim is not held back and its date has no row yet, or is the last one claimed. -/
theorem agrees_iff (attempts : List Attempt) (attempt : Attempt) (works : attempt.Works) :
    (Runs.run AttendanceDb.step {} attempts).Agrees attempt ↔
      (Runs.run AttendanceDb.step {} attempts).Unhindered attempt :=
  agrees_iff_of_posted (posted_run attempts) works

def zoneAt (name : String) (localTime : Nat → Nat)
    (ordered : ∀ {one two : Nat}, one ≤ two → localTime one ≤ localTime two) : Timezone where
  name := name
  localDay now := localTime now / 86400000
  ordered le := Nat.div_le_div_right (ordered le)

def kiritimati : Timezone :=
  zoneAt "Pacific/Kiritimati" (fun now => now + 14 * 3600000) fun le => Nat.add_le_add_right le _

def pagoPago : Timezone :=
  zoneAt "Pacific/Pago_Pago" (fun now => now - 11 * 3600000) fun le => Nat.sub_le_sub_right le _

def claimAt (hour : Nat) (timezone : Timezone) : Attempt :=
  { tenADay (hour * 3600000) false with timezone := timezone }

theorem works_claimAt (hour : Nat) (timezone : Timezone) : (claimAt hour timezone).Works where
  enabled := nofun
  ladder := fun day positive _ => ⟨_, rfl, by change (0 : Int) < 10 * day; omega⟩
  credits := rfl
  writes := rfl

theorem agrees_onward :
    (Runs.run AttendanceDb.step {} [claimAt 12 kiritimati, claimAt 32 pagoPago]).Agrees
      (claimAt 60 pagoPago) :=
  (agrees_iff [claimAt 12 kiritimati, claimAt 32 pagoPago] (claimAt 60 pagoPago)
    (works_claimAt 60 pagoPago)).mpr (by decide +kernel)

/-- The second day is offered where its date was claimed before the user moved back across the
date line; and the first within the hours that a change of zone has to wait. -/
theorem not_agrees_backward :
    (claimAt 35 pagoPago).Works ∧ (claimAt 13 pagoPago).Works ∧
      ¬(Runs.run AttendanceDb.step {} [claimAt 12 kiritimati, claimAt 32 pagoPago]).Agrees
        (claimAt 35 pagoPago) ∧
      ¬(Runs.run AttendanceDb.step {} [claimAt 12 kiritimati]).Agrees (claimAt 13 pagoPago) := by
  refine ⟨works_claimAt 35 pagoPago, works_claimAt 13 pagoPago, fun agrees => ?_, fun agrees => ?_⟩
  · obtain ⟨result, isResult, isClaimed, -⟩ := ((agrees 2).mp (by decide +kernel)).answered
    have refused : ((Runs.run AttendanceDb.step {}
        [claimAt 12 kiritimati, claimAt 32 pagoPago]).claim (claimAt 35 pagoPago)).2.toOption.map
          ClaimResult.claimed = some false := by
      decide +kernel
    rw [isResult] at refused
    exact absurd (isClaimed.symm.trans (Option.some.inj refused)) (by decide)
  · obtain ⟨result, isResult, -⟩ := ((agrees 1).mp (by decide +kernel)).answered
    have held : ((Runs.run AttendanceDb.step {} [claimAt 12 kiritimati]).claim
        (claimAt 13 pagoPago)).2.toOption = none := by
      decide +kernel
    rw [isResult] at held
    cases held

end Soulzaa.Attendance
