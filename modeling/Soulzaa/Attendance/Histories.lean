/-
Histories of claims in one time zone.

Claims come at later and later instants.  A day on which one is answered is paid once, the
rung and the cycle are what the streak of its days says, and what fails leaves no trace.
-/

import Soulzaa.Attendance.Claims
import Soulzaa.Lib.Runs
import Soulzaa.Lib.Streaks

namespace Soulzaa.Attendance

open CivilDates Streaks

/-! ### What is claimed -/

/-- The claim is answered, with a payout or without one. -/
def AttendanceDb.answers (db : AttendanceDb) (attempt : Attempt) : Bool :=
  match (db.claim attempt).2 with
  | .ok _ => true
  | .error _ => false

/-- The local days on which a claim is answered. -/
def answeredDays (zone : Timezone) : AttendanceDb → List Attempt → List Nat
  | _, [] => []
  | db, attempt :: rest =>
      (if db.answers attempt then [zone.localDay attempt.now] else []) ++
        answeredDays zone (db.step attempt) rest

def attends (days : List Nat) (day : Nat) : Bool := day ∈ days

/-- The rung of a streak of so many days. -/
def rungOf (count : Nat) : Nat := (count - 1) % attendanceCycleLength + 1

structure PaysDays (db : AttendanceDb) (days : List Nat) : Prop where
  once : ∀ day, (db.credits.filter fun credit => credit.dayKey = calendar firstDate day).length =
    if day ∈ days then 1 else 0
  only : ∀ credit ∈ db.credits, ∃ day ∈ days, credit.dayKey = calendar firstDate day
  recorded : db.credits.map (fun credit => (credit.dayKey, credit.currency, credit.amount)) =
    db.claims.map fun claim => (claim.dayKey, claim.currency, claim.coins)
  rung : ∀ claim ∈ db.claims, ∀ day, claim.dayKey = calendar firstDate day →
    claim.day = rungOf (streak (attends days) day)
  cycles : ∀ bound, (∀ day ∈ days, day ≤ bound) →
    (db.state.map UserAttendance.cycleCount).getD 0 =
      continued (attends days) attendanceCycleLength bound

/-! ### The invariant -/

/-- The last day that was paid, as the state has it. -/
structure LastPaid (zone : Timezone) (state : UserAttendance) (days : List Nat) (last : Nat) :
    Prop where
  present : last ∈ days
  latest : ∀ day ∈ days, day ≤ last
  key : state.lastClaimDayKey = some (calendar firstDate last)
  currentDay : state.currentDay = rungOf (streak (attends days) last)
  cycleCount : state.cycleCount = continued (attends days) attendanceCycleLength last
  zone : state.lastClaimTimezone = some zone.name

def postedFor (claim : AttendanceClaim) : Credit where
  dayKey := claim.dayKey
  kind := "coins"
  currency := claim.currency
  amount := claim.coins

structure Sound (zone : Timezone) (db : AttendanceDb) (days : List Nat) : Prop where
  credits : db.credits = db.claims.map postedFor
  paid : ∃ paid : List Nat, paid.Nodup ∧ (∀ day, day ∈ days ↔ day ∈ paid) ∧
    db.claims.map AttendanceClaim.dayKey = paid.map (calendar firstDate)
  rung : ∀ claim ∈ db.claims, ∀ day, claim.dayKey = calendar firstDate day →
    claim.day = rungOf (streak (attends days) day)
  state : (db.state = none ∧ days = []) ∨
    ∃ state last, db.state = some state ∧ LastPaid zone state days last

variable {zone : Timezone} {db : AttendanceDb} {days : List Nat} {attempt : Attempt} {day : Nat}

theorem sound_empty (zone : Timezone) : Sound zone {} [] where
  credits := rfl
  paid := ⟨[], List.nodup_nil, fun _ => Iff.rfl, rfl⟩
  rung := nofun
  state := .inl ⟨rfl, rfl⟩

theorem same_dayKey {one two : Nat} : calendar firstDate one = calendar firstDate two ↔ one = two :=
  calendar_inj valid_firstDate

theorem Sound.paysDays (sound : Sound zone db days) : PaysDays db days := by
  obtain ⟨paid, distinct, members, keys⟩ := sound.paid
  have postedKeys : db.credits.map Credit.dayKey = paid.map (calendar firstDate) := by
    rw [sound.credits, List.map_map, ← keys]
    rfl
  refine ⟨?_, ?_, ?_, sound.rung, ?_⟩
  · intro day
    have counted : (db.credits.filter fun credit => credit.dayKey = calendar firstDate day).length =
        ((db.credits.map Credit.dayKey).filter (· = calendar firstDate day)).length := by
      rw [List.filter_map, List.length_map]
      rfl
    have sameDay : (paid.filter ((· = calendar firstDate day) ∘ calendar firstDate)) =
        paid.filter (· = day) := by
      congr 1
      funext other
      simp only [Function.comp_apply, same_dayKey]
    have single : (paid.filter (· = day)).length = paid.count day := by
      rw [List.filter_eq, List.length_replicate]
    rw [counted, postedKeys, List.filter_map, List.length_map, sameDay, single]
    by_cases present : day ∈ days
    · rw [if_pos present]
      exact List.count_eq_one_of_mem distinct ((members day).mp present)
    · rw [if_neg present]
      exact List.count_eq_zero_of_not_mem fun isPaid => present ((members day).mpr isPaid)
  · intro credit member
    have inside : credit.dayKey ∈ paid.map (calendar firstDate) := by
      rw [← postedKeys]
      exact List.mem_map_of_mem member
    obtain ⟨day, isPaid, isKey⟩ := List.mem_map.mp inside
    exact ⟨day, (members day).mpr isPaid, isKey.symm⟩
  · rw [sound.credits, List.map_map]
    rfl
  · intro bound within
    rcases sound.state with ⟨isNone, rfl⟩ | ⟨state, last, isState, lastPaid⟩
    · rw [isNone]
      have none : continued (attends []) attendanceCycleLength bound =
          continued (attends []) attendanceCycleLength 0 :=
        continued_of_absent (Nat.zero_le bound) fun _ _ => rfl
      rw [none]
      rfl
    · have same : continued (attends days) attendanceCycleLength bound =
          continued (attends days) attendanceCycleLength last := by
        apply continued_of_absent (within last lastPaid.present)
        intro day later
        apply decide_eq_false
        intro present
        exact Nat.not_lt.mpr (lastPaid.latest day present) later
      rw [isState, same]
      exact lastPaid.cycleCount

theorem Sound.claimed_iff (sound : Sound zone db days) :
    (∃ claim ∈ db.claims, claim.dayKey = calendar firstDate day) ↔ day ∈ days := by
  obtain ⟨paid, -, members, keys⟩ := sound.paid
  have inside : (∃ claim ∈ db.claims, claim.dayKey = calendar firstDate day) ↔
      calendar firstDate day ∈ paid.map (calendar firstDate) := by
    rw [← keys]
    exact List.mem_map.symm
  rw [inside, members day, List.mem_map]
  constructor
  · rintro ⟨other, isPaid, same⟩
    exact same_dayKey.mp same ▸ isPaid
  · intro isPaid
    exact ⟨day, isPaid, rfl⟩

/-- What is sound of some days depends on which days they are. -/
theorem Sound.of_same {others : List Nat} (sound : Sound zone db days)
    (same : ∀ day, day ∈ days ↔ day ∈ others) : Sound zone db others := by
  have attended : attends others = attends days := by
    funext day
    exact decide_eq_decide.mpr (same day).symm
  obtain ⟨paid, distinct, members, keys⟩ := sound.paid
  refine ⟨sound.credits, ⟨paid, distinct, fun day => (same day).symm.trans (members day), keys⟩,
    ?_, ?_⟩
  · rw [attended]
    exact sound.rung
  · rcases sound.state with ⟨isNone, rfl⟩ | ⟨state, last, isState, lastPaid⟩
    · have nothing : others = [] :=
        List.eq_nil_iff_forall_not_mem.mpr fun day inside => List.not_mem_nil ((same day).mpr inside)
      exact .inl ⟨isNone, nothing⟩
    · refine .inr ⟨state, last, isState, ?_⟩
      exact
        { present := (same last).mp lastPaid.present
          latest := fun day inside => lastPaid.latest day ((same day).mpr inside)
          key := lastPaid.key
          currentDay := by rw [attended]; exact lastPaid.currentDay
          cycleCount := by rw [attended]; exact lastPaid.cycleCount
          zone := lastPaid.zone }

/-! ### The streak a claim finds -/

theorem attends_append_of_ne {other : Nat} (ne : other ≠ day) :
    attends (days ++ [day]) other = attends days other := by
  apply decide_eq_decide.mpr
  rw [List.mem_append, List.mem_singleton]
  exact or_iff_left ne

theorem attends_append_self : attends (days ++ [day]) day = true := by
  apply decide_eq_true
  exact List.mem_append_right days (List.mem_singleton_self day)

theorem rungOf_succ {count : Nat} (full : rungOf count < attendanceCycleLength) :
    rungOf (count + 1) = rungOf count + 1 ∨ count = 0 := by
  unfold rungOf attendanceCycleLength at *
  omega

theorem rungOf_full {count : Nat} (positive : 1 ≤ count) :
    attendanceCycleLength ≤ rungOf count ↔ count % attendanceCycleLength = 0 := by
  unfold rungOf attendanceCycleLength
  omega

theorem rungOf_of_full {count : Nat} (full : count % attendanceCycleLength = 0) :
    rungOf (count + 1) = 1 := by
  unfold rungOf
  rw [Nat.add_sub_cancel, full]

/-- The rung and the cycle of a claim on a new day. -/
structure Follows (days : List Nat) (day rung cycle : Nat) : Prop where
  rung : rung = rungOf (streak (attends (days ++ [day])) day)
  cycle : cycle = continued (attends (days ++ [day])) attendanceCycleLength day

/-- Nothing was claimed the day before: the ladder starts over and the cycles stay. -/
theorem follows_of_gap {last : Nat} (latest : ∀ other ∈ days, other ≤ last) (le : last ≤ day)
    (gap : ∀ before, day = before + 1 → before ∉ days) :
    Follows days day 1 (continued (attends days) attendanceCycleLength last) := by
  have apart : ∀ before, day = before + 1 → attends (days ++ [day]) before = false := by
    intro before isDay
    rw [attends_append_of_ne (by omega)]
    exact decide_eq_false (gap before isDay)
  refine ⟨?_, ?_⟩
  · rw [streak_of_gap attends_append_self apart]
    rfl
  · have stays : continued (attends days) attendanceCycleLength day =
        continued (attends days) attendanceCycleLength last := by
      apply continued_of_absent le
      intro other later
      apply decide_eq_false
      intro present
      exact Nat.not_lt.mpr (latest other present) later
    rw [← stays]
    cases day with
    | zero => rfl
    | succ before =>
        have sameBefore : ∀ other, other ≤ before →
            attends days other = attends (days ++ [before + 1]) other := by
          intro other small
          exact (attends_append_of_ne (Nat.ne_of_lt (Nat.lt_succ_of_le small))).symm
        have absent : attends days before = false := decide_eq_false (gap before rfl)
        rw [continued_succ, continued_succ, absent, apart before rfl, continued_congr sameBefore]
        rfl

/-- The day before was claimed: the rung is the next one, or the first of another cycle. -/
theorem follows_of_next {before : Nat} (present : before ∈ days) :
    if attendanceCycleLength ≤ rungOf (streak (attends days) before) then
      Follows days (before + 1) 1 (continued (attends days) attendanceCycleLength before + 1)
    else
      Follows days (before + 1) (rungOf (streak (attends days) before) + 1)
        (continued (attends days) attendanceCycleLength before) := by
  have attended : attends days before = true := decide_eq_true present
  have sameBefore : ∀ other, other ≤ before →
      attends (days ++ [before + 1]) other = attends days other := by
    intro other small
    exact attends_append_of_ne (Nat.ne_of_lt (Nat.lt_succ_of_le small))
  have longer : streak (attends (days ++ [before + 1])) (before + 1) =
      streak (attends days) before + 1 := by
    rw [streak_succ attends_append_self, streak_congr sameBefore]
  have cycles : continued (attends (days ++ [before + 1])) attendanceCycleLength (before + 1) =
      continued (attends days) attendanceCycleLength before +
        if streak (attends days) before % attendanceCycleLength = 0 then 1 else 0 := by
    rw [continued_succ, continued_congr sameBefore, streak_congr sameBefore,
      sameBefore before (Nat.le_refl before), attended, attends_append_self]
    simp only [Bool.and_self, Bool.true_and, decide_eq_true_eq]
  have positive := streak_pos attended
  split
  · rename_i full
    have whole := (rungOf_full positive).mp full
    exact ⟨by rw [longer, rungOf_of_full whole], by rw [cycles, if_pos whole]⟩
  · rename_i short
    have partly : ¬streak (attends days) before % attendanceCycleLength = 0 := fun whole =>
      short ((rungOf_full positive).mpr whole)
    refine ⟨?_, by rw [cycles, if_neg partly, Nat.add_zero]⟩
    rw [longer]
    rcases rungOf_succ (Nat.not_le.mp short) with next | none
    · exact next.symm
    · exact absurd positive (by rw [none]; decide)

def AttendanceDb.resolved (db : AttendanceDb) (today : DayKey) : StreakOutcome :=
  resolve today (db.state.bind UserAttendance.lastClaimDayKey)
    ((db.state.map UserAttendance.currentDay).getD 0)
    ((db.state.map UserAttendance.cycleCount).getD 0)

theorem claim_eq (db : AttendanceDb) (attempt : Attempt) :
    db.claim attempt =
      if attempt.enabled = some false then (db, .error .forbidden)
      else
        match db.resolved (dayKey attempt.now attempt.timezone) with
        | .alreadyClaimed => (db, .ok db.unclaimed)
        | .claimable day cycle reset =>
            if intervalElapsed db.state attempt = false then (db, .error .conflict)
            else
              match attempt.ladder day with
              | none => (db, .error .internal)
              | some rung => db.pay attempt rung day cycle reset := rfl

/-- A day that was answered is claimed already, and a new one goes on with its streak. -/
theorem Sound.resolved (sound : Sound zone db days) (latest : ∀ other ∈ days, other ≤ day) :
    (day ∈ days ∧ db.resolved (calendar firstDate day) = .alreadyClaimed) ∨
      (day ∉ days ∧ ∃ rung cycle reset,
        db.resolved (calendar firstDate day) = .claimable rung cycle reset ∧
          Follows days day rung cycle) := by
  unfold AttendanceDb.resolved
  rcases sound.state with ⟨isNone, rfl⟩ | ⟨state, last, isState, lastPaid⟩
  · refine .inr ⟨List.not_mem_nil, 1, 0, false, by rw [isNone]; rfl, ?_⟩
    have follows : Follows [] day 1 (continued (attends []) attendanceCycleLength 0) :=
      follows_of_gap nofun (Nat.zero_le day) fun _ _ => List.not_mem_nil
    exact follows
  · rw [isState]
    dsimp only [Option.bind_some, Option.map_some, Option.getD_some]
    rw [lastPaid.key, lastPaid.currentDay, lastPaid.cycleCount]
    unfold resolve
    have le : last ≤ day := latest last lastPaid.present
    by_cases today : last = day
    · subst today
      exact .inl ⟨lastPaid.present, if_pos rfl⟩
    · have earlier : last < day := Nat.lt_of_le_of_ne le today
      have absent : day ∉ days := fun present =>
        Nat.not_lt.mpr (lastPaid.latest day present) earlier
      have notToday : ¬some (calendar firstDate last) = some (calendar firstDate day) := fun same =>
        today (same_dayKey.mp (Option.some.inj same))
      rw [if_neg notToday]
      obtain ⟨before, rfl⟩ : ∃ before, day = before + 1 := ⟨day - 1, by omega⟩
      have yesterday : previousDayKey (calendar firstDate (before + 1)) =
          calendar firstDate before :=
        previous_calendar valid_firstDate before
      refine .inr ⟨absent, ?_⟩
      by_cases next : last = before
      · subst next
        rw [if_neg (by rw [yesterday]; exact not_not_intro rfl)]
        have follows := follows_of_next lastPaid.present
        by_cases full : attendanceCycleLength ≤ rungOf (streak (attends days) last)
        · rw [if_pos full] at follows
          exact ⟨_, _, false, if_pos full, follows⟩
        · rw [if_neg full] at follows
          exact ⟨_, _, false, if_neg full, follows⟩
      · have notYesterday : some (calendar firstDate last) ≠
            some (previousDayKey (calendar firstDate (before + 1))) := by
          intro same
          rw [yesterday] at same
          exact next (same_dayKey.mp (Option.some.inj same))
        refine ⟨1, _, true, by rw [if_pos notYesterday]; rfl,
          follows_of_gap lastPaid.latest le ?_⟩
        rintro other isBefore present
        have small := lastPaid.latest other present
        omega

/-! ### One claim -/

/-- The rows after a claim is paid. -/
def AttendanceDb.paid (db : AttendanceDb) (row : AttendanceClaim) : AttendanceDb where
  credits := db.credits ++ [postedFor row]
  claims := db.claims ++ [row]
  state :=
    some
      { currentDay := row.day
        cycleCount := row.cycle
        lastClaimDayKey := some row.dayKey
        lastClaimAt := some row.claimedAt
        lastClaimTimezone := some row.timezone
        totalClaims := (db.state.map UserAttendance.totalClaims).getD 0 + 1 }

/-- A new day is paid unless the credit or a write fails. -/
theorem pay_of_new {rung : AttendanceLadderRung} {number cycle : Nat} {reset : Bool}
    (posted : db.credits = db.claims.map postedFor)
    (new : ∀ claim ∈ db.claims, claim.dayKey ≠ dayKey attempt.now attempt.timezone) :
    db.pay attempt rung number cycle reset =
      if attempt.creditFails ∨ rung.coins ≤ 0 ∨ attempt.writeFails then (db, .error .thrown)
      else (db.paid (claimRow attempt rung number cycle),
        .ok (granted attempt rung number cycle reset)) := by
  have noCredit : (db.credits.any fun posted =>
      posted.dayKey = dayKey attempt.now attempt.timezone && posted.kind = "coins") = false := by
    apply List.any_eq_false.mpr
    intro credit inside
    rw [posted] at inside
    obtain ⟨claim, isClaim, rfl⟩ := List.mem_map.mp inside
    intro found
    exact new claim isClaim (of_decide_eq_true (Bool.and_eq_true_iff.mp found).1)
  have noClaim : (db.claims.any fun row =>
      row.dayKey = (claimRow attempt rung number cycle).dayKey) = false := by
    apply List.any_eq_false.mpr
    intro claim isClaim same
    exact new claim isClaim (of_decide_eq_true same)
  unfold AttendanceDb.pay
  cases failing : attempt.creditFails with
  | true => rfl
  | false =>
      rw [if_neg Bool.false_ne_true]
      unfold AttendanceDb.credit
      by_cases worthless : rung.coins ≤ 0
      · rw [if_pos worthless, if_pos (.inr (.inl worthless))]
      · rw [if_neg worthless, noCredit, if_neg Bool.false_ne_true]
        dsimp only
        unfold AttendanceDb.recordClaim
        rw [noClaim, if_neg Bool.false_ne_true]
        dsimp only
        cases writing : attempt.writeFails with
        | true => rw [if_pos rfl, if_pos (.inr (.inr rfl))]
        | false =>
            rw [if_neg Bool.false_ne_true, if_neg]
            · rfl
            · rintro (never | paysNothing | never)
              · exact Bool.false_ne_true never
              · exact worthless paysNothing
              · exact Bool.false_ne_true never

/-- What is thrown in a claim leaves every row as it is. -/
theorem step_of_failed (failed : db.answers attempt = false) : db.step attempt = db := by
  have unchanged : ∀ {error : ClaimError} {after : AttendanceDb},
      db.claim attempt = (after, .error error) → after = db := by
    intro error after claimed
    unfold AttendanceDb.claim at claimed
    split at claimed
    · exact (Prod.mk.inj claimed).1.symm
    · split at claimed
      · exact nomatch (Prod.mk.inj claimed).2
      · split at claimed
        · exact (Prod.mk.inj claimed).1.symm
        · split at claimed
          · exact (Prod.mk.inj claimed).1.symm
          · unfold AttendanceDb.pay at claimed
            split at claimed
            · exact (Prod.mk.inj claimed).1.symm
            · split at claimed
              · exact (Prod.mk.inj claimed).1.symm
              · split at claimed
                · exact nomatch (Prod.mk.inj claimed).2
                · split at claimed
                  · exact (Prod.mk.inj claimed).1.symm
                  · exact nomatch (Prod.mk.inj claimed).2
  unfold AttendanceDb.answers at failed
  unfold AttendanceDb.step
  cases claimed : db.claim attempt with
  | mk after result =>
      rw [claimed] at failed
      cases result with
      | ok result => cases failed
      | error error => exact unchanged claimed

/-- A later claim in the zone of the last one is not held back. -/
theorem Sound.intervalElapsed (sound : Sound zone db days) (zoned : attempt.timezone = zone) :
    intervalElapsed db.state attempt = true := by
  rcases sound.state with ⟨isNone, -⟩ | ⟨state, last, isState, lastPaid⟩
  · rw [isNone]
    rfl
  · rw [isState]
    unfold Attendance.intervalElapsed
    dsimp only
    rw [lastPaid.zone, zoned]
    cases state.lastClaimAt with
    | none => rfl
    | some lastClaimAt => exact Bool.or_eq_true_iff.mpr (.inl (decide_eq_true rfl))

theorem rungOf_le (count : Nat) : rungOf count ≤ attendanceCycleLength :=
  Nat.mod_lt (count - 1) (by decide)

theorem Sound.paid_next {rung : AttendanceLadderRung} {number cycle : Nat}
    (sound : Sound zone db days) (zoned : attempt.timezone = zone)
    (latest : ∀ other ∈ days, other ≤ zone.localDay attempt.now)
    (new : zone.localDay attempt.now ∉ days)
    (follows : Follows days (zone.localDay attempt.now) number cycle) :
    Sound zone (db.paid (claimRow attempt rung number cycle))
      (days ++ [zone.localDay attempt.now]) := by
  have isKey : dayKey attempt.now attempt.timezone =
      calendar firstDate (zone.localDay attempt.now) := by
    rw [zoned]
    rfl
  refine ⟨?_, ?_, ?_, .inr ⟨_, zone.localDay attempt.now, rfl, ?_⟩⟩
  · unfold AttendanceDb.paid
    dsimp only
    rw [List.map_append, sound.credits]
    rfl
  · obtain ⟨paid, distinct, members, keys⟩ := sound.paid
    refine ⟨paid ++ [zone.localDay attempt.now], ?_, ?_, ?_⟩
    · apply distinct.append (List.nodup_singleton _)
      apply List.disjoint_singleton.mpr
      exact fun isPaid => new ((members _).mpr isPaid)
    · intro day
      rw [List.mem_append, List.mem_append, members day]
    · unfold AttendanceDb.paid
      dsimp only
      rw [List.map_append, List.map_append, keys, List.map_singleton, List.map_singleton, ← isKey]
      rfl
  · intro claim inside day isDay
    rcases List.mem_append.mp inside with old | isNew
    · have attended : day ∈ days := sound.claimed_iff.mp ⟨claim, old, isDay⟩
      have earlier : day ≠ zone.localDay attempt.now := fun same => new (same ▸ attended)
      have small : day < zone.localDay attempt.now :=
        Nat.lt_of_le_of_ne (latest day attended) earlier
      rw [sound.rung claim old day isDay]
      congr 1
      apply streak_congr
      intro before le
      exact (attends_append_of_ne (Nat.ne_of_lt (Nat.lt_of_le_of_lt le small))).symm
    · obtain rfl := List.mem_singleton.mp isNew
      have same : zone.localDay attempt.now = day := same_dayKey.mp (isKey.symm.trans isDay)
      rw [← same]
      exact follows.rung
  · refine ⟨List.mem_append_right days (List.mem_singleton_self _), ?_, ?_, follows.rung,
      follows.cycle, ?_⟩
    · intro day inside
      rcases List.mem_append.mp inside with old | isNew
      · exact latest day old
      · exact Nat.le_of_eq (List.mem_singleton.mp isNew)
    · exact congrArg some isKey
    · exact congrArg (fun zone => some zone.name) zoned

/-- A claim that is enabled, whose ladder pays on every rung and whose transaction goes through. -/
structure Attempt.Works (attempt : Attempt) : Prop where
  enabled : attempt.enabled ≠ some false
  ladder : ∀ day, 1 ≤ day → day ≤ attendanceCycleLength →
    ∃ rung, attempt.ladder day = some rung ∧ 0 < rung.coins
  credits : attempt.creditFails = false
  writes : attempt.writeFails = false

/-- A claim that is answered leaves sound rows, paid by the ladder where something is new. -/
theorem Sound.claim (sound : Sound zone db days) (zoned : attempt.timezone = zone)
    (latest : ∀ other ∈ days, other ≤ zone.localDay attempt.now) :
    (db.answers attempt = true →
      Sound zone (db.step attempt) (days ++ [zone.localDay attempt.now]) ∧
        (db.step attempt = db ∨ ∃ number cycle rung, attempt.ladder number = some rung ∧
          db.step attempt = db.paid (claimRow attempt rung number cycle))) ∧
      (attempt.Works → db.answers attempt = true) := by
  have isKey : dayKey attempt.now attempt.timezone =
      calendar firstDate (zone.localDay attempt.now) := by
    rw [zoned]
    rfl
  unfold AttendanceDb.answers AttendanceDb.step
  rw [claim_eq]
  by_cases disabled : attempt.enabled = some false
  · rw [if_pos disabled]
    exact ⟨nofun, fun works => absurd disabled works.enabled⟩
  · rw [if_neg disabled, isKey]
    rcases sound.resolved latest with ⟨present, already⟩ | ⟨new, number, cycle, reset, next, follows⟩
    · rw [already]
      refine ⟨fun _ => ⟨?_, .inl rfl⟩, fun _ => rfl⟩
      apply sound.of_same
      intro day
      rw [List.mem_append, List.mem_singleton]
      exact ⟨.inl, fun inside => inside.elim id fun same => same ▸ present⟩
    · rw [next]
      dsimp only
      rw [sound.intervalElapsed zoned, if_neg (by decide)]
      have positive : 1 ≤ number := by
        rw [follows.rung]
        exact Nat.le_add_left 1 _
      have small : number ≤ attendanceCycleLength := by
        rw [follows.rung]
        exact rungOf_le _
      cases found : attempt.ladder number with
      | none =>
          refine ⟨nofun, fun works => ?_⟩
          obtain ⟨rung, isRung, -⟩ := works.ladder number positive small
          exact nomatch found.symm.trans isRung
      | some rung =>
          dsimp only
          have unclaimed : ∀ claim ∈ db.claims,
              claim.dayKey ≠ dayKey attempt.now attempt.timezone := by
            intro claim inside same
            exact new (sound.claimed_iff.mp ⟨claim, inside, same.trans isKey⟩)
          rw [pay_of_new sound.credits unclaimed]
          by_cases failing :
              attempt.creditFails = true ∨ rung.coins ≤ 0 ∨ attempt.writeFails = true
          · rw [if_pos failing]
            refine ⟨nofun, fun works => ?_⟩
            obtain ⟨other, isOther, paysSome⟩ := works.ladder number positive small
            obtain rfl : rung = other := Option.some.inj (found.symm.trans isOther)
            rcases failing with crediting | worthless | writing
            · exact nomatch crediting.symm.trans works.credits
            · omega
            · exact nomatch writing.symm.trans works.writes
          · rw [if_neg failing]
            exact
              ⟨fun _ => ⟨sound.paid_next zoned latest new follows,
                .inr ⟨number, cycle, rung, found, rfl⟩⟩, fun _ => rfl⟩

/-! ### Histories -/

/-- What is in the claims comes from a claim that was attempted, by its ladder. -/
def Attempted (attempts : List Attempt) (claim : AttendanceClaim) : Prop :=
  ∃ attempt ∈ attempts, ∃ rung, attempt.ladder claim.day = some rung ∧
    claim = claimRow attempt rung claim.day claim.cycle

theorem Attempted.tail {attempts : List Attempt} {claim : AttendanceClaim}
    (attempted : Attempted attempts claim) : Attempted (attempt :: attempts) claim := by
  obtain ⟨other, inside, rest⟩ := attempted
  exact ⟨other, List.mem_cons_of_mem attempt inside, rest⟩

theorem Sound.run {attempts : List Attempt} (sound : Sound zone db days)
    (zoned : ∀ attempt ∈ attempts, attempt.timezone = zone)
    (ordered : attempts.Pairwise fun earlier later => earlier.now ≤ later.now)
    (latest : ∀ attempt ∈ attempts, ∀ other ∈ days, other ≤ zone.localDay attempt.now) :
    Sound zone (attempts.foldl AttendanceDb.step db) (days ++ answeredDays zone db attempts) ∧
      ∀ claim ∈ (attempts.foldl AttendanceDb.step db).claims,
        claim ∈ db.claims ∨ Attempted attempts claim := by
  induction attempts generalizing db days with
  | nil =>
      unfold answeredDays
      rw [List.append_nil]
      exact ⟨sound, fun _ => .inl⟩
  | cons attempt rest ih =>
      have zonedRest := List.forall_mem_of_forall_mem_cons zoned
      have isZone := zoned attempt List.mem_cons_self
      have first := latest attempt List.mem_cons_self
      obtain ⟨later, orderedRest⟩ := List.pairwise_cons.mp ordered
      have claimed := (sound.claim isZone first).1
      unfold answeredDays
      rw [List.foldl_cons]
      cases answered : db.answers attempt with
      | false =>
          rw [step_of_failed answered]
          have result := ih sound zonedRest orderedRest
            fun other inside => latest other (List.mem_cons_of_mem attempt inside)
          refine ⟨result.1, fun claim inside => ?_⟩
          exact (result.2 claim inside).imp id Attempted.tail
      | true =>
          obtain ⟨soundNext, byLadder⟩ := claimed answered
          have latestRest : ∀ other ∈ rest, ∀ day ∈ days ++ [zone.localDay attempt.now],
              day ≤ zone.localDay other.now := by
            intro other isOther day inside
            rcases List.mem_append.mp inside with old | isNew
            · exact latest other (List.mem_cons_of_mem attempt isOther) day old
            · rw [List.mem_singleton.mp isNew]
              exact zone.ordered (later other isOther)
          have result := ih soundNext zonedRest orderedRest latestRest
          rw [if_pos rfl, ← List.append_assoc]
          refine ⟨result.1, fun claim inside => ?_⟩
          rcases result.2 claim inside with before | attempted
          · rcases byLadder with same | ⟨number, cycle, rung, isRung, same⟩
            · exact .inl (same ▸ before)
            · rw [same] at before
              refine (List.mem_append.mp before).imp id fun isNew => ?_
              obtain rfl := List.mem_singleton.mp isNew
              exact ⟨attempt, List.mem_cons_self, rung, isRung, rfl⟩
          · exact .inr attempted.tail

theorem attempted_of_answered {attempts : List Attempt}
    (answered : day ∈ answeredDays zone db attempts) :
    ∃ attempt ∈ attempts, day = zone.localDay attempt.now := by
  induction attempts generalizing db with
  | nil => exact absurd answered List.not_mem_nil
  | cons attempt rest ih =>
      unfold answeredDays at answered
      rcases List.mem_append.mp answered with first | others
      · split at first
        · exact ⟨attempt, List.mem_cons_self, List.mem_singleton.mp first⟩
        · exact absurd first List.not_mem_nil
      · obtain ⟨other, isOther, isDay⟩ := ih others
        exact ⟨other, List.mem_cons_of_mem attempt isOther, isDay⟩

/-- Where every claim works, each is answered. -/
theorem answeredDays_of_works {attempts : List Attempt} (sound : Sound zone db days)
    (zoned : ∀ attempt ∈ attempts, attempt.timezone = zone)
    (ordered : attempts.Pairwise fun earlier later => earlier.now ≤ later.now)
    (latest : ∀ attempt ∈ attempts, ∀ other ∈ days, other ≤ zone.localDay attempt.now)
    (works : ∀ attempt ∈ attempts, attempt.Works) :
    answeredDays zone db attempts = attempts.map fun attempt => zone.localDay attempt.now := by
  induction attempts generalizing db days with
  | nil => rfl
  | cons attempt rest ih =>
      obtain ⟨later, orderedRest⟩ := List.pairwise_cons.mp ordered
      have claimed := sound.claim (zoned attempt List.mem_cons_self)
        (latest attempt List.mem_cons_self)
      have answered := claimed.2 (works attempt List.mem_cons_self)
      have latestRest : ∀ other ∈ rest, ∀ day ∈ days ++ [zone.localDay attempt.now],
          day ≤ zone.localDay other.now := by
        intro other isOther day inside
        rcases List.mem_append.mp inside with old | isNew
        · exact latest other (List.mem_cons_of_mem attempt isOther) day old
        · rw [List.mem_singleton.mp isNew]
          exact zone.ordered (later other isOther)
      unfold answeredDays
      rw [answered, if_pos rfl, List.map_cons,
        ih (claimed.1 answered).1 (List.forall_mem_of_forall_mem_cons zoned) orderedRest latestRest
          (List.forall_mem_of_forall_mem_cons works)]
      rfl

/-- Every history of claims in one zone pays each answered day once, on the rung of its streak,
and a claim that fails after it leaves every row as it is and can be made again. -/
theorem pays_once_a_day (zone : Timezone) (attempts : List Attempt)
    (zoned : ∀ attempt ∈ attempts, attempt.timezone = zone)
    (ordered : attempts.Pairwise fun earlier later => earlier.now ≤ later.now) :
    let after := attempts.foldl AttendanceDb.step {}
    PaysDays after (answeredDays zone {} attempts) ∧
      (∀ claim ∈ after.claims, Attempted attempts claim) ∧
      ((∀ attempt ∈ attempts, attempt.Works) →
        answeredDays zone {} attempts = attempts.map fun attempt => zone.localDay attempt.now) ∧
      ∀ next : Attempt, next.timezone = zone → (∀ attempt ∈ attempts, attempt.now ≤ next.now) →
        (after.answers next = false → after.step next = after) ∧
          (next.Works → after.answers next = true) := by
  intro after
  have none : ∀ attempt ∈ attempts, ∀ other ∈ ([] : List Nat),
      other ≤ zone.localDay attempt.now := nofun
  obtain ⟨sound, attempted⟩ := (sound_empty zone).run zoned ordered none
  rw [List.nil_append] at sound
  refine ⟨sound.paysDays, fun claim inside => ?_,
    answeredDays_of_works (sound_empty zone) zoned ordered none, ?_⟩
  · exact (attempted claim inside).resolve_left List.not_mem_nil
  · intro next isZone later
    refine ⟨step_of_failed, (sound.claim isZone ?_).2⟩
    intro day answered
    obtain ⟨attempt, inside, rfl⟩ := attempted_of_answered answered
    exact zone.ordered (later attempt inside)

def utc : Timezone where
  name := "UTC"
  localDay now := now / 86400000
  ordered := Nat.div_le_div_right

def tenADay (now : Nat) (creditFails : Bool) : Attempt where
  now := now
  timezone := utc
  ladder day :=
    some
      { day := day
        coins := 10 * day }
  creditFails := creditFails

/-- Two claims on one day, and on the day after one that fails and one more. -/
def twoDays : List Attempt :=
  [tenADay 1000 false, tenADay 2000 false, tenADay 86400000 true, tenADay 86400500 false]

theorem pays_twoDays :
    PaysDays (twoDays.foldl AttendanceDb.step {}) (answeredDays utc {} twoDays) ∧
      (twoDays.foldl AttendanceDb.step {}).credits.map Credit.amount = [10, 20] := by
  refine ⟨(pays_once_a_day utc twoDays ?_ ?_).1, by decide⟩
  · intro attempt inside
    simp only [twoDays, List.mem_cons, List.not_mem_nil, or_false] at inside
    rcases inside with rfl | rfl | rfl | rfl <;> rfl
  · decide

end Soulzaa.Attendance
