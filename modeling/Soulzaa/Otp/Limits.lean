/-
What the keys of an identifier bound, over every run of the commands side by side.

A limit holds for each life of its counter.  A counter begins a new life when it has run out, and
also when it was deleted: by a block, by a verify that went through, or by a generate.
-/

import Soulzaa.Lib.Runs
import Soulzaa.Otp.Codes

namespace Soulzaa.Otp

open Runs Tickets

/-! ### What is promised -/

namespace World

/-- The limits without regard to how long a counter lives. -/
structure Guarded (world : World) : Prop where
  singleUse : ∀ otpRecordId, (world.compared.countP fun comparison =>
    comparison.otpRecordId = otpRecordId ∧ comparison.accepted = true) ≤ 1
  guesses : ∀ otpRecordId, (world.compared.countP fun comparison =>
    comparison.otpRecordId = otpRecordId) ≤ world.config.maxAttempts
  sends : ∀ start, (∀ comparison ∈ world.compared, comparison.accepted = true →
      comparison.comparedAt < start ∨ start + world.config.blocked ≤ comparison.comparedAt) →
    (world.issued.countP fun issue =>
      start ≤ issue.issuedAt ∧ issue.issuedAt < start + world.config.blocked) ≤
        world.config.maxResends + 1

/-- The limits of each life of a counter. -/
structure Bounded (world : World) : Prop where
  /-- No candidate is compared with a code that was used up before its verify began. -/
  usedUp : ∀ comparison ∈ world.compared, comparison.otpRecordId ∉ comparison.knew
  guesses : ∀ life, ((world.compared.map Comparison.attempts).filter fun attempts =>
    attempts.life = life).length ≤ world.config.maxAttempts
  resends : ∀ life, ((world.issued.filterMap Issue.count).filter fun count =>
    count.life = life).length ≤ world.config.maxResends
  /-- A command issues one code, that no other command has issued. -/
  commands : (world.issued.map Issue.command).Nodup
  codes : (world.issued.map Issue.otpRecordId).Nodup

/-- Nobody has asked for a code yet. -/
structure Unused (world : World) : Prop where
  store : world.store = {}
  idle : world.commands = []
  history : world.issued = [] ∧ world.compared = [] ∧ world.usedUp = []

def issuedIds (world : World) : List Nat := world.issued.map Issue.otpRecordId

end World

/-! ### One command -/

def Point.attempt : Point → Option Ticket
  | .verifyExpiring _ _ _ attempts | .comparing _ _ _ attempts => some attempts
  | _ => none

def Point.count : Point → Option Ticket
  | .expiring _ count | .counting _ count => some count
  | .recording _ count | .caching count _ => count
  | _ => none

/-- The code that has its row and is not live yet. -/
def caches (otpRecordId : Nat) : Point → Int
  | .caching _ blob => if blob.otpRecordId = otpRecordId then 1 else 0
  | _ => 0

/-- What a command relies on, of the codes that were issued and used up. -/
def Point.Sound (world : World) : Point → Prop
  | .verifyAsking _ knew | .verifyReading _ knew => knew ⊆ world.usedUp
  | .verifyIncrementing _ knew blob | .verifyExpiring _ knew blob _ | .comparing _ knew blob _ =>
      blob.otpRecordId ∈ world.issuedIds ∧ blob.otpRecordId ∉ knew
  | .recording _ count => ∀ drawn ∈ count, drawn.value ≤ world.config.maxResends
  | .caching count blob =>
      (∀ drawn ∈ count, drawn.value ≤ world.config.maxResends) ∧ blob.otpRecordId < world.records
  | .deleting _ _ accepted => ∀ otpRecordId ∈ accepted, otpRecordId ∈ world.issuedIds
  | _ => True

theorem caches_nonneg (otpRecordId : Nat) (point : Point) : 0 ≤ caches otpRecordId point := by
  cases point with
  | caching count blob =>
      rw [caches]
      split
      · exact Int.one_nonneg
      · exact le_refl 0
  | _ => exact le_refl 0

theorem alive_value {Value : Type} (now : Nat) (key : Option (Entry Value)) :
    (alive now key).map Entry.value = none ∨
      (alive now key).map Entry.value = key.map Entry.value := by
  unfold alive
  cases key with
  | none => exact .inl rfl
  | some entry =>
      rw [Option.filter_some]
      split
      · exact .inr rfl
      · exact .inl rfl

theorem expire_value {Value : Type} (now ttl : Nat) (key : Option (Entry Value)) :
    (expire now ttl key).map Entry.value = none ∨
      (expire now ttl key).map Entry.value = key.map Entry.value := by
  unfold expire
  rw [Option.map_map]
  exact alive_value now key

theorem mem_of_alive {Value : Type} {now : Nat} {key : Option (Entry Value)} {entry : Entry Value}
    (isAlive : alive now key = some entry) : key = some entry :=
  (Option.filter_eq_some_iff.mp isAlive).1

theorem Point.Sound.later {world after : World} {point : Point} (sound : point.Sound world)
    (config : after.config = world.config) (records : world.records ≤ after.records)
    (issued : world.issuedIds ⊆ after.issuedIds) (usedUp : world.usedUp ⊆ after.usedUp) :
    point.Sound after := by
  cases point with
  | verifyAsking code knew => exact List.Subset.trans sound usedUp
  | verifyReading code knew => exact List.Subset.trans sound usedUp
  | verifyIncrementing code knew blob => exact ⟨issued sound.1, sound.2⟩
  | verifyExpiring code knew blob attempts => exact ⟨issued sound.1, sound.2⟩
  | comparing code knew blob attempts => exact ⟨issued sound.1, sound.2⟩
  | recording code count =>
      intro drawn isDrawn
      rw [config]
      exact sound drawn isDrawn
  | caching count blob =>
      refine ⟨fun drawn isDrawn => ?_, sound.2.trans_le records⟩
      rw [config]
      exact sound.1 drawn isDrawn
  | deleting keys next accepted =>
      exact fun otpRecordId isAccepted => issued (sound otpRecordId isAccepted)
  | _ => exact trivial

/-! ### Every command -/

namespace World

structure Orderly (world : World) : Prop where
  points : ∀ point ∈ world.commands, point.Sound world
  live : ∀ entry ∈ world.store.otp, entry.value.otpRecordId ∈ world.issuedIds ∧
    entry.value.otpRecordId ∉ world.usedUp
  usedUp : world.usedUp ⊆ world.issuedIds
  numbered : ∀ otpRecordId ∈ world.issuedIds, otpRecordId < world.records
  fresh : ∀ otpRecordId, (world.issuedIds.count otpRecordId : Int) +
    Interleaving.underWay (caches otpRecordId) world.commands ≤ 1
  finished : ∀ issue ∈ world.issued, world.commands[issue.command]? = some .done
  once : (world.issued.map Issue.command).Nodup
  knew : ∀ comparison ∈ world.compared, comparison.otpRecordId ∉ comparison.knew
  guessed : ∀ comparison ∈ world.compared, comparison.attempts.value ≤ world.config.maxAttempts
  counted : ∀ issue ∈ world.issued, ∀ drawn ∈ issue.count, drawn.value ≤ world.config.maxResends

structure Kept (world : World) : Prop where
  attempts : Handed Point.attempt (world.store.attempts.map Entry.value) world.attemptLives
    world.commands (world.compared.map Comparison.attempts)
  resends : Handed Point.count (world.store.resend.map Entry.value) world.resendLives
    world.commands (world.issued.filterMap Issue.count)
  orderly : world.Orderly

variable {world : World} {position : Nat} {point next : Point}

theorem Kept.bounded (kept : world.Kept) : world.Bounded where
  usedUp := kept.orderly.knew
  guesses := by
    refine kept.attempts.length_le fun ticket member => ?_
    obtain ⟨comparison, inside, rfl⟩ := List.mem_map.mp member
    exact kept.orderly.guessed comparison inside
  resends := by
    refine kept.resends.length_le fun ticket member => ?_
    obtain ⟨issue, inside, isCount⟩ := List.mem_filterMap.mp member
    exact kept.orderly.counted issue inside ticket isCount
  commands := kept.orderly.once
  codes := by
    refine List.nodup_iff_count_le_one.mpr fun otpRecordId => ?_
    have nonneg := Interleaving.underWay_nonneg (caches_nonneg otpRecordId) world.commands
    have fresh := kept.orderly.fresh otpRecordId
    unfold issuedIds at fresh
    omega

/-- A command goes on, and the histories stay. -/
theorem Orderly.puts (orderly : world.Orderly) (found : world.commands[position]? = some point)
    (finishes : next = .done ∨ point ≠ .done) (sound : next.Sound world)
    (plain : ∀ otpRecordId, caches otpRecordId next = 0) : (world.put position next).Orderly := by
  refine { orderly with points := ?_, fresh := ?_, finished := ?_ }
  · intro other member
    rcases List.mem_or_eq_of_mem_set member with older | rfl
    · exact (orderly.points other older).later rfl (le_refl _) (fun _ => id) fun _ => id
    · exact sound.later rfl (le_refl _) (fun _ => id) fun _ => id
  · intro otpRecordId
    have moved := Interleaving.underWay_set (caches otpRecordId) found next
    have nonneg := caches_nonneg otpRecordId point
    have fresh := orderly.fresh otpRecordId
    rw [plain] at moved
    show (world.issuedIds.count otpRecordId : Int) + Interleaving.underWay (caches otpRecordId)
      (world.commands.set position next) ≤ 1
    omega
  · intro issue member
    have isDone := orderly.finished issue member
    show (world.commands.set position next)[issue.command]? = _
    by_cases same : position = issue.command
    · subst same
      rw [found] at isDone
      rcases finishes with rfl | active
      · exact List.getElem?_set_self (List.getElem?_eq_some_iff.mp found).1
      · exact absurd (Option.some.inj isDone) active
    · rw [List.getElem?_set_ne same]
      exact isDone

/-- The live code stays, or goes. -/
theorem Orderly.stores (orderly : world.Orderly) {store : Store}
    (otp : ∀ entry ∈ store.otp, entry ∈ world.store.otp) {attemptLives resendLives : Nat} :
    Orderly { world with
      store := store, attemptLives := attemptLives, resendLives := resendLives } :=
  { orderly with
    points := fun other member =>
      (orderly.points other member).later rfl (le_refl _) (fun _ => id) fun _ => id
    live := fun entry isEntry => orderly.live entry (otp entry isEntry) }

/-- A command goes on with the tickets that it has, and keys run out or are deleted. -/
theorem Kept.puts (kept : world.Kept) (found : world.commands[position]? = some point)
    (finishes : next = .done ∨ point ≠ .done) (sound : next.Sound world)
    (plain : ∀ otpRecordId, caches otpRecordId next = 0)
    (attempt : ∀ ticket, next.attempt = some ticket → point.attempt = some ticket)
    (count : ∀ ticket, next.count = some ticket → point.count = some ticket) :
    (world.put position next).Kept where
  attempts := kept.attempts.goOn found attempt
  resends := kept.resends.goOn found count
  orderly := kept.orderly.puts found finishes sound plain

theorem Kept.stores (kept : world.Kept) {store : Store}
    (attempts : store.attempts.map Entry.value = none ∨
      store.attempts.map Entry.value = world.store.attempts.map Entry.value)
    (resend : store.resend.map Entry.value = none ∨
      store.resend.map Entry.value = world.store.resend.map Entry.value)
    (otp : ∀ entry ∈ store.otp, entry ∈ world.store.otp) :
    Kept { world with store := store } where
  attempts := kept.attempts.lapse attempts
  resends := kept.resends.lapse resend
  orderly := kept.orderly.stores otp

theorem increment_value (now fresh : Nat) (key : Option (Entry Ticket)) :
    ∃ left, (left = none ∨ left = key.map Entry.value) ∧
      (increment now fresh key).value = draw fresh left :=
  ⟨(alive now key).map Entry.value, alive_value now key, rfl⟩

/-- A resend takes the counter's next value. -/
theorem Kept.increments (kept : world.Kept) {code : String}
    (found : world.commands[position]? = some (.incrementing code)) {entry : Entry Ticket}
    (isEntry : entry = increment world.now world.resendLives world.store.resend)
    (sound : next.Sound world) (plain : ∀ otpRecordId, caches otpRecordId next = 0)
    (attempt : next.attempt = none) (count : next.count = some entry.value) :
    Kept { world.put position next with
      store := { world.store with resend := some entry }
      resendLives := world.resendLives + 1 } where
  attempts := kept.attempts.goOn found fun _ isHeld => nomatch attempt.symm.trans isHeld
  resends := by
    obtain ⟨left, isLeft, isValue⟩ :=
      increment_value world.now world.resendLives world.store.resend
    rw [← isEntry] at isValue
    rw [isValue] at count
    have drawn := kept.resends.drawn found isLeft rfl count
    rw [← isValue] at drawn
    exact drawn
  orderly := by
    refine (kept.orderly.puts found (.inr nofun) sound plain).stores ?_
    exact fun _ => id

/-- A verify takes the counter's next value. -/
theorem Kept.verifyIncrements (kept : world.Kept) {code : String} {knew : List Nat} {blob : OtpBlob}
    (found : world.commands[position]? = some (.verifyIncrementing code knew blob))
    {entry : Entry Ticket}
    (isEntry : entry = increment world.now world.attemptLives world.store.attempts)
    (sound : next.Sound world) (plain : ∀ otpRecordId, caches otpRecordId next = 0)
    (attempt : next.attempt = some entry.value) (count : next.count = none) :
    Kept { world.put position next with
      store := { world.store with attempts := some entry }
      attemptLives := world.attemptLives + 1 } where
  attempts := by
    obtain ⟨left, isLeft, isValue⟩ :=
      increment_value world.now world.attemptLives world.store.attempts
    rw [← isEntry] at isValue
    rw [isValue] at attempt
    have drawn := kept.attempts.drawn found isLeft rfl attempt
    rw [← isValue] at drawn
    exact drawn
  resends := kept.resends.goOn found fun _ isHeld => nomatch count.symm.trans isHeld
  orderly := by
    refine (kept.orderly.puts found (.inr nofun) sound plain).stores ?_
    exact fun _ => id

/-- A row is created for the code. -/
theorem Kept.records (kept : world.Kept) {code : String} {count : Option Ticket} {blob : OtpBlob}
    (found : world.commands[position]? = some (.recording code count))
    (isBlob : blob.otpRecordId = world.records) :
    Kept { world.put position (.caching count blob) with records := world.records + 1 } where
  attempts := kept.attempts.goOn found nofun
  resends := kept.resends.goOn found fun _ => id
  orderly := by
    have orderly := kept.orderly
    have allowed := orderly.points _ (List.mem_of_getElem? found)
    refine { orderly with points := ?_, numbered := ?_, fresh := ?_, finished := ?_ }
    · intro other member
      rcases List.mem_or_eq_of_mem_set member with older | rfl
      · exact (orderly.points other older).later rfl (Nat.le_succ _) (fun _ => id) fun _ => id
      · exact ⟨allowed, isBlob ▸ Nat.lt_succ_self _⟩
    · exact fun otpRecordId member => Nat.lt_succ_of_lt (orderly.numbered otpRecordId member)
    · intro otpRecordId
      have moved := Interleaving.underWay_set (caches otpRecordId) found (.caching count blob)
      have before : caches otpRecordId (.recording code count) = 0 := rfl
      have fresh := orderly.fresh otpRecordId
      show (world.issuedIds.count otpRecordId : Int) + Interleaving.underWay (caches otpRecordId)
        (world.commands.set position (.caching count blob)) ≤ 1
      by_cases own : world.records = otpRecordId
      · subst own
        have unissued : world.issuedIds.count world.records = 0 :=
          List.count_eq_zero.mpr fun member => Nat.lt_irrefl _ (orderly.numbered _ member)
        have unnumbered : Interleaving.underWay (caches world.records) world.commands = 0 := by
          refine Interleaving.underWay_eq_zero fun other member => ?_
          cases other with
          | caching otherCount otherBlob =>
              refine if_neg fun same => ?_
              have below := (orderly.points _ member).2
              exact Nat.lt_irrefl _ (same ▸ below)
          | _ => rfl
        have one : caches world.records (.caching count blob) = 1 := if_pos isBlob
        omega
      · have zero : caches otpRecordId (.caching count blob) = 0 :=
          if_neg fun same => own (isBlob.symm.trans same)
        omega
    · intro issue member
      have isDone := orderly.finished issue member
      show (world.commands.set position (.caching count blob))[issue.command]? = _
      rw [List.getElem?_set_ne fun same => ?_]
      · exact isDone
      · rw [same, isDone] at found
        exact nomatch Option.some.inj found

/-- The code becomes live. -/
theorem Kept.caches (kept : world.Kept) {count : Option Ticket} {blob : OtpBlob}
    (found : world.commands[position]? = some (.caching count blob)) {limit : Option Nat} :
    Kept { world.put position .done with
      store := { world.store with otp := some { value := blob, expiresAt := limit } }
      issued :=
        { command := position
          otpRecordId := blob.otpRecordId
          issuedAt := world.now
          count := count } :: world.issued } where
  attempts := kept.attempts.goOn found nofun
  resends := by
    cases count with
    | none => exact kept.resends.goOn found nofun
    | some ticket => exact kept.resends.spend found rfl rfl
  orderly := by
    have orderly := kept.orderly
    obtain ⟨allowed, below⟩ := orderly.points _ (List.mem_of_getElem? found)
    have moved := fun otpRecordId =>
      Interleaving.underWay_set (Otp.caches otpRecordId) found .done
    have itself : Otp.caches blob.otpRecordId (.caching count blob) = 1 := if_pos rfl
    have unissued : blob.otpRecordId ∉ world.issuedIds := by
      intro member
      have once := List.one_le_count_iff.mpr member
      have nonneg := Interleaving.underWay_nonneg (caches_nonneg blob.otpRecordId)
        (world.commands.set position .done)
      have fresh := orderly.fresh blob.otpRecordId
      have change := moved blob.otpRecordId
      rw [itself, show Otp.caches blob.otpRecordId .done = 0 from rfl] at change
      omega
    constructor
    · intro other member
      rcases List.mem_or_eq_of_mem_set member with older | rfl
      · exact (orderly.points other older).later rfl (le_refl _)
          (List.subset_cons_of_subset _ fun _ => id) fun _ => id
      · exact trivial
    · intro entry isEntry
      rw [← Option.some.inj isEntry]
      exact ⟨List.mem_cons_self, fun usedUp => unissued (orderly.usedUp usedUp)⟩
    · exact List.subset_cons_of_subset _ orderly.usedUp
    · exact List.forall_mem_cons.mpr ⟨below, orderly.numbered⟩
    · intro otpRecordId
      have change := moved otpRecordId
      have fresh := orderly.fresh otpRecordId
      show (((blob.otpRecordId :: world.issuedIds).count otpRecordId : Nat) : Int) +
        Interleaving.underWay (Otp.caches otpRecordId) (world.commands.set position .done) ≤ 1
      rw [show Otp.caches otpRecordId .done = 0 from rfl] at change
      rw [List.count_cons]
      by_cases own : blob.otpRecordId = otpRecordId
      · subst own
        rw [itself] at change
        rw [if_pos (beq_self_eq_true _)]
        push_cast
        omega
      · have nonneg := caches_nonneg otpRecordId (.caching count blob)
        rw [if_neg fun same => own (beq_iff_eq.mp same)]
        push_cast
        omega
    · refine List.forall_mem_cons.mpr
        ⟨List.getElem?_set_self (List.getElem?_eq_some_iff.mp found).1, ?_⟩
      intro issue member
      have isDone := orderly.finished issue member
      show (world.commands.set position .done)[issue.command]? = _
      rw [List.getElem?_set_ne fun same => ?_]
      · exact isDone
      · rw [same, isDone] at found
        exact nomatch Option.some.inj found
    · refine List.nodup_cons.mpr ⟨?_, orderly.once⟩
      intro member
      obtain ⟨issue, inside, same⟩ := List.mem_map.mp member
      have isDone := orderly.finished issue inside
      rw [same, found] at isDone
      exact nomatch Option.some.inj isDone
    · exact orderly.knew
    · exact orderly.guessed
    · exact List.forall_mem_cons.mpr ⟨allowed, orderly.counted⟩

/-- A candidate is compared with the code. -/
theorem Kept.compares (kept : world.Kept) {code : String} {knew : List Nat} {blob : OtpBlob}
    {attempts : Ticket} {accepted : Bool}
    (found : world.commands[position]? = some (.comparing code knew blob attempts))
    (allowed : attempts.value ≤ world.config.maxAttempts) (sound : next.Sound world)
    (plain : ∀ otpRecordId, Otp.caches otpRecordId next = 0) (attempt : next.attempt = none)
    (count : next.count = none) :
    Kept { world.put position next with
      compared :=
        { otpRecordId := blob.otpRecordId
          attempts := attempts
          knew := knew
          accepted := accepted
          comparedAt := world.now } :: world.compared } where
  attempts := kept.attempts.spend found rfl attempt
  resends := kept.resends.goOn found fun _ isHeld => nomatch count.symm.trans isHeld
  orderly := by
    obtain ⟨-, unknown⟩ := kept.orderly.points _ (List.mem_of_getElem? found)
    have put := kept.orderly.puts found (.inr nofun) sound plain
    exact { put with
      points := fun other member =>
        (put.points other member).later rfl (le_refl _) (fun _ => id) fun _ => id
      knew := List.forall_mem_cons.mpr ⟨unknown, put.knew⟩
      guessed := List.forall_mem_cons.mpr ⟨allowed, put.guessed⟩ }

/-- A key is deleted. -/
theorem Kept.deletes (kept : world.Kept) {keys next rest : List Key} {accepted : Option Nat}
    (found : world.commands[position]? = some (.deleting keys next accepted)) (key : Key) :
    Kept { world.put position (.deleting rest next accepted) with
      store := world.store.del key
      usedUp := if key = .otp then accepted.toList ++ world.usedUp else world.usedUp } := by
  have sound := kept.orderly.points _ (List.mem_of_getElem? found)
  have put : (world.put position (.deleting rest next accepted)).Kept :=
    kept.puts found (.inr nofun) sound (fun _ => rfl) nofun nofun
  cases key with
  | otp =>
      have stored : Kept { world.put position (.deleting rest next accepted) with
          store := world.store.del .otp } := by
        refine put.stores (.inr rfl) (.inr rfl) ?_
        exact nofun
      refine ⟨stored.attempts, stored.resends, ?_⟩
      have orderly := stored.orderly
      refine { orderly with points := ?_, live := nofun, usedUp := ?_ }
      · intro other member
        exact (orderly.points other member).later rfl (le_refl _) (fun _ => id)
          (List.subset_append_right _ _)
      · refine List.append_subset.mpr ⟨?_, orderly.usedUp⟩
        intro otpRecordId member
        exact sound otpRecordId (Option.mem_toList.mp member)
  | attempts => exact put.stores (.inl rfl) (.inr rfl) fun _ => id
  | resend => exact put.stores (.inr rfl) (.inl rfl) fun _ => id

theorem kept_goOn (sha256 : String → String) (swapped : Bool) (kept : world.Kept)
    (found : world.commands[position]? = some point) :
    (world.goOn sha256 position swapped point).Kept := by
  have sound := kept.orderly.points point (List.mem_of_getElem? found)
  have stops : point ≠ .done → (world.put position .done).Kept := fun active =>
    kept.puts found (.inl rfl) trivial (fun _ => rfl) nofun nofun
  cases point with
  | asking send code =>
      rw [goOn]
      split
      · exact stops nofun
      · exact kept.puts found (.inr nofun) trivial (fun _ => rfl) nofun nofun
  | reading send code =>
      rw [goOn]
      exact kept.puts found (.inr nofun) trivial (fun _ => rfl) nofun nofun
  | cooling send code blob =>
      rw [goOn.eq_def]
      dsimp only
      split
      · exact stops nofun
      · split
        · exact kept.puts found (.inr nofun) trivial (fun _ => rfl) nofun nofun
        · exact kept.puts found (.inr nofun) trivial (fun _ => rfl) nofun nofun
  | clearing code =>
      rw [goOn]
      have put : (world.put position (.recording code none)).Kept :=
        kept.puts found (.inr nofun) nofun (fun _ => rfl) nofun nofun
      exact put.stores (.inr rfl) (.inl rfl) fun _ => id
  | incrementing code =>
      rw [goOn]
      dsimp only
      split
      · exact kept.increments found rfl trivial (fun _ => rfl) rfl rfl
      · exact kept.increments found rfl trivial (fun _ => rfl) rfl rfl
  | expiring code count =>
      rw [goOn]
      have put : (world.put position (.counting code count)).Kept :=
        kept.puts found (.inr nofun) trivial (fun _ => rfl) nofun fun _ => id
      exact put.stores (.inr rfl) (expire_value _ _ _) fun _ => id
  | counting code count =>
      rw [goOn]
      split
      · exact kept.puts found (.inr nofun) trivial (fun _ => rfl) nofun nofun
      · rename_i below
        refine kept.puts found (.inr nofun) ?_ (fun _ => rfl) nofun fun _ => id
        intro drawn isDrawn
        rw [← Option.some.inj isDrawn]
        exact Nat.le_of_not_lt below
  | recording code count =>
      rw [goOn]
      exact kept.records found rfl
  | caching count blob =>
      rw [goOn]
      exact kept.caches found
  | verifyAsking code knew =>
      rw [goOn]
      split
      · exact stops nofun
      · exact kept.puts found (.inr nofun) sound (fun _ => rfl) nofun nofun
  | verifyReading code knew =>
      rw [goOn]
      split
      · exact stops nofun
      · rename_i entry isAlive
        obtain ⟨issued, unused⟩ := kept.orderly.live entry (mem_of_alive isAlive)
        refine kept.puts found (.inr nofun) ⟨issued, ?_⟩ (fun _ => rfl) nofun nofun
        exact fun known => unused (sound known)
  | verifyIncrementing code knew blob =>
      rw [goOn]
      dsimp only
      split
      · exact kept.verifyIncrements found rfl sound (fun _ => rfl) rfl rfl
      · exact kept.verifyIncrements found rfl sound (fun _ => rfl) rfl rfl
  | verifyExpiring code knew blob attempts =>
      rw [goOn]
      have put : (world.put position (.comparing code knew blob attempts)).Kept :=
        kept.puts found (.inr nofun) sound (fun _ => rfl) (fun _ => id) nofun
      exact put.stores (expire_value _ _ _) (.inr rfl) fun _ => id
  | comparing code knew blob attempts =>
      rw [goOn]
      split
      · exact kept.puts found (.inr nofun) trivial (fun _ => rfl) nofun nofun
      · rename_i below
        dsimp only
        split
        · refine kept.compares found (Nat.le_of_not_lt below) ?_ (fun _ => rfl) rfl rfl
          intro otpRecordId isAccepted
          rw [← Option.some.inj isAccepted]
          exact sound.1
        · exact kept.compares found (Nat.le_of_not_lt below) trivial (fun _ => rfl) rfl rfl
  | blocking =>
      rw [goOn]
      have put : (world.put position (.deleting [.attempts, .resend] [] none)).Kept :=
        kept.puts found (.inr nofun) nofun (fun _ => rfl) nofun nofun
      exact put.stores (.inr rfl) (.inr rfl) fun _ => id
  | deleting keys next accepted =>
      rw [goOn]
      split
      · split
        · exact stops nofun
        · exact kept.puts found (.inr nofun) nofun (fun _ => rfl) nofun nofun
      · exact kept.deletes found _
  | done =>
      rw [goOn]
      exact kept

theorem kept_step (sha256 : String → String) (happening : Happening) (kept : world.Kept) :
    (world.step sha256 happening).Kept := by
  have spawns : ∀ point : Point, point.attempt = none → point.count = none →
      (∀ otpRecordId, caches otpRecordId point = 0) → point.Sound world →
        Kept { world with commands := world.commands ++ [point] } := by
    intro point noAttempt noCount plain sound
    have orderly := kept.orderly
    refine ⟨kept.attempts.spawn noAttempt, kept.resends.spawn noCount, { orderly with
      points := ?_, fresh := ?_, finished := ?_ }⟩
    · intro other member
      rcases List.mem_append.mp member with older | isNew
      · exact (orderly.points other older).later rfl (le_refl _) (fun _ => id) fun _ => id
      · rw [List.mem_singleton.mp isNew]
        exact sound.later rfl (le_refl _) (fun _ => id) fun _ => id
    · intro otpRecordId
      rw [Interleaving.underWay_spawn, plain, add_zero]
      exact orderly.fresh otpRecordId
    · intro issue member
      have isDone := orderly.finished issue member
      rw [List.getElem?_append_left (List.getElem?_eq_some_iff.mp isDone).1]
      exact isDone
  cases happening with
  | send send code => exact spawns _ rfl rfl (fun _ => rfl) trivial
  | verify code => exact spawns _ rfl rfl (fun _ => rfl) fun _ => id
  | goOn position swapped =>
      rw [step]
      split
      · exact kept
      · rename_i point found
        exact kept_goOn sha256 swapped kept found
  | stop position =>
      rw [step]
      rcases Option.eq_none_or_eq_some world.commands[position]? with missing | ⟨point, found⟩
      · unfold put
        rw [List.set_eq_of_length_le (List.getElem?_eq_none_iff.mp missing)]
        exact kept
      · exact kept.puts found (.inl rfl) trivial (fun _ => rfl) nofun nofun
  | pass elapsed =>
      have orderly := kept.orderly
      exact ⟨kept.attempts, kept.resends, { orderly with
        points := fun other member =>
          (orderly.points other member).later rfl (le_refl _) (fun _ => id) fun _ => id }⟩

theorem Unused.kept (unused : world.Unused) : world.Kept := by
  obtain ⟨noIssue, noComparison, noneUsed⟩ := unused.history
  refine ⟨?_, ?_, ?_⟩
  · rw [unused.store, unused.idle, noComparison]
    exact handed_nil _ _
  · rw [unused.store, unused.idle, noIssue]
    exact handed_nil _ _
  · have noId : world.issuedIds = [] := by
      unfold issuedIds
      rw [noIssue]
      rfl
    constructor
    · rw [unused.idle]
      exact List.forall_mem_nil _
    · rw [unused.store]
      exact fun _ isEntry => nomatch isEntry
    · rw [noneUsed]
      exact List.nil_subset _
    · rw [noId]
      exact List.forall_mem_nil _
    · intro otpRecordId
      rw [noId, unused.idle]
      exact Int.one_nonneg
    · rw [noIssue]
      exact List.forall_mem_nil _
    · rw [noIssue]
      exact List.nodup_nil
    · rw [noComparison]
      exact List.forall_mem_nil _
    · rw [noComparison]
      exact List.forall_mem_nil _
    · rw [noIssue]
      exact List.forall_mem_nil _

/-- In every run a code that was used up is compared with nothing that a later verify brings, and
each life of a counter lets no more candidates and no more resends through than its limit. -/
theorem bounded_always (sha256 : String → String) (world : World) (unused : world.Unused)
    (happenings : List Happening) :
    Always (World.step sha256) World.Bounded world happenings := by
  have kept : ∀ (state : World) (happening : Happening), state.Kept →
      (state.step sha256 happening).Kept := fun _ happening kept => kept_step sha256 happening kept
  exact (always_of_step kept world unused.kept happenings).imp fun _ kept => kept.bounded

end World

/-- The digests of the codes below. -/
def digest (code : String) : String :=
  if code = "123456" then "8d969eef6ecad3c29a3a629280e686cf0c3f5d5a86aff3ca12020c923adc6c92"
  else if code = "654321" then "481f6cc0511143ccdd7e2d1b1b94faf0a700a8b49cd13922a70b5ae28acaa8c5"
  else ""

def anew : World where
  config := {}
  now := 0

def goes (position steps : Nat) : List Happening := List.replicate steps (.goOn position false)

/-- A code is resent, guessed at, entered and entered again. -/
def entered : List Happening :=
  .send .generate "654321" :: goes 0 6 ++ .pass 30000 :: .send .resend "123456" :: goes 1 8 ++
    .verify "654321" :: goes 2 5 ++ .verify "123456" :: goes 3 4 ++ [.goOn 3 true] ++ goes 3 4 ++
    .verify "123456" :: goes 4 2

theorem bounded_entered :
    Always (World.step digest) World.Bounded anew entered ∧
      (run (World.step digest) anew entered).compared.map Comparison.accepted = [true, false] ∧
        (run (World.step digest) anew entered).usedUp = [1] :=
  ⟨World.bounded_always digest anew ⟨rfl, rfl, ⟨rfl, rfl, rfl⟩⟩ entered, by decide +kernel,
    by decide +kernel⟩

/-- Two verifies read the code before one of them has deleted it. -/
def atOnce : List Happening :=
  .send .generate "123456" :: goes 0 6 ++ .verify "123456" :: .verify "123456" :: goes 1 2 ++
    goes 2 2 ++ goes 1 3 ++ goes 2 2

def guess (position : Nat) : List Happening := .verify "" :: goes position 5

/-- The counter was begun for the last code, and runs out in the middle of this one. -/
def acrossCodes : List Happening :=
  .send .generate "654321" :: goes 0 6 ++ .pass 30000 :: guess 1 ++ .pass 30000 ::
    .send .generate "123456" :: goes 2 6 ++ guess 3 ++ guess 4 ++ guess 5 ++ .pass 30000 ::
    guess 6 ++ guess 7 ++ guess 8

/-- Seven codes in three minutes, each by a generate. -/
def generatedAnew : List Happening :=
  (List.range 7).flatMap fun position =>
    .send .generate "123456" :: goes position 6 ++ [.pass 30000]

theorem not_guarded_atOnce :
    ¬(run (World.step digest) anew atOnce).Guarded ∧
      ¬(run (World.step digest) anew acrossCodes).Guarded ∧
        ¬(run (World.step digest) anew generatedAnew).Guarded := by
  refine ⟨?_, ?_, ?_⟩
  · intro guarded
    have singleUse := guarded.singleUse 0
    revert singleUse
    decide +kernel
  · intro guarded
    have guesses := guarded.guesses 1
    revert guesses
    decide +kernel
  · intro guarded
    have sends := guarded.sends 0 (by decide +kernel)
    revert sends
    decide +kernel

end Soulzaa.Otp
