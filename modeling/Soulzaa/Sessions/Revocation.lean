/-
What is left of a user's sessions once every session of the user has been revoked.

The rows are revoked by one update, the cache entries by the index as it was read before that.  A
session that is on its way while this happens may be missed by either.
-/

import Soulzaa.Lib.Runs
import Soulzaa.Sessions.Refresh

namespace Soulzaa.Sessions

open Runs

variable {Hash : Type} {rows after : List (UserSession Hash)} {blobs remaining : List SessionId}
  {listed updated settled : List Nat} {calls : List (Call Hash)} {call next : Call Hash}

/-- The session's chain began before the revocation of this number. -/
def Before (rows : List (UserSession Hash)) (number : Nat) (sid : SessionId) : Prop :=
  ∃ session ∈ rows[sid]?, session.since < number

instance (rows : List (UserSession Hash)) (number : Nat) (sid : SessionId) :
    Decidable (Before rows number sid) :=
  inferInstanceAs (Decidable (∃ session ∈ (_ : Option _), _))

/-! ### What is promised -/

namespace World

/-- No token of a chain that began before a revocation is accepted once that has returned. -/
def Complete (world : World Hash) : Prop :=
  ∀ number ∈ world.settled, ∀ sid session, world.rows[sid]? = some session →
    session.since < number → session.revokedAt.isSome = true ∧ sid ∉ world.blobs

/-- No session gets its row after the bulk update of a revocation that its chain began before, nor
its cache entry after that has read the index, and the index lists those that have theirs. -/
def PermitsCall (world : World Hash) : Call Hash → Prop
  | .inserting purpose _ _ => ∀ number ∈ world.updated, number ≤ purpose.since
  | .caching purpose _ _ => ∀ number ∈ world.listed, number ≤ purpose.since
  | .snapshotting _ number => ∀ sid ∈ world.blobs, Before world.rows number sid → sid ∈ world.index
  | _ => True

def Permits (world : World Hash) : Happening → Prop
  | .goOn position => ∀ call ∈ world.calls[position]?, world.PermitsCall call
  | _ => True

instance (world : World Hash) (call : Call Hash) : Decidable (world.PermitsCall call) :=
  match call with
  | .inserting _ _ _ | .caching _ _ _ => inferInstanceAs (Decidable (∀ number ∈ _, number ≤ _))
  | .snapshotting _ number =>
      inferInstanceAs (Decidable (∀ sid ∈ world.blobs, Before world.rows number sid →
        sid ∈ world.index))
  | .epochReading _ | .indexing _ _ _ | .marking _ _ _ | .unindexing _ _ _ | .uncaching _ _ _
  | .reading _ | .deciding _ _ | .graceReading _ _ | .graceDeciding _ _ _ | .graceSigning _ _
  | .updating _ _ _ | .destroying _ _ _ | .clearing _ _ | .bumping _ _ | .finished =>
      inferInstanceAs (Decidable True)

instance (world : World Hash) (happening : Happening) : Decidable (world.Permits happening) :=
  match happening with
  | .goOn _ => inferInstanceAs (Decidable (∀ call ∈ (_ : Option (Call Hash)), _))
  | .createSession | .refresh _ _ | .revokeAllForUser | .lapse _ | .lapseEpoch | .pass _ =>
      inferInstanceAs (Decidable True)

end World

/-! ### Calls side by side -/

/-- What is left to do for a revocation, and where a session on its way is. -/
def Call.Sound (rows : List (UserSession Hash)) (blobs : List SessionId)
    (listed updated : List Nat) : Call Hash → Prop
  | .caching purpose token _ => ∃ session ∈ rows[token.sid]?, session.since = purpose.since
  | .updating _ number members =>
      number ∈ listed ∧ ∀ sid ∈ blobs, Before rows number sid → sid ∈ members
  | .destroying _ number members =>
      number ∈ listed ∧ number ∈ updated ∧ ∀ sid ∈ blobs, Before rows number sid → sid ∈ members
  | .clearing _ number | .bumping _ number =>
      number ∈ listed ∧ number ∈ updated ∧ ∀ sid ∈ blobs, ¬Before rows number sid
  | _ => True

/-- Rows stay or are changed in other columns, and of the cache entries only those that no
revocation is after are new. -/
structure Later (rows after : List (UserSession Hash)) (blobs remaining : List SessionId)
    (listed : List Nat) : Prop where
  keeps : ∀ (sid : SessionId) (session : UserSession Hash), rows[sid]? = some session →
    ∃ changed, after[sid]? = some changed ∧ changed.since = session.since
  fewer : ∀ sid ∈ remaining, ∀ number ∈ listed, Before after number sid →
    sid ∈ blobs ∧ Before rows number sid

theorem Call.Sound.later (sound : call.Sound rows blobs listed updated)
    (later : Later rows after blobs remaining listed) {moreListed moreUpdated : List Nat}
    (isListed : listed ⊆ moreListed) (isUpdated : updated ⊆ moreUpdated) :
    call.Sound after remaining moreListed moreUpdated := by
  cases call with
  | caching purpose token tv =>
      obtain ⟨session, isSession, same⟩ := sound
      obtain ⟨changed, isChanged, kept⟩ := later.keeps token.sid session isSession
      exact ⟨changed, isChanged, kept.trans same⟩
  | updating cause number members =>
      obtain ⟨isNumber, listing⟩ := sound
      refine ⟨isListed isNumber, fun sid member isBefore => ?_⟩
      obtain ⟨inside, before⟩ := later.fewer sid member number isNumber isBefore
      exact listing sid inside before
  | destroying cause number members =>
      obtain ⟨isNumber, done, listing⟩ := sound
      refine ⟨isListed isNumber, isUpdated done, fun sid member isBefore => ?_⟩
      obtain ⟨inside, before⟩ := later.fewer sid member number isNumber isBefore
      exact listing sid inside before
  | clearing cause number =>
      obtain ⟨isNumber, done, none_left⟩ := sound
      refine ⟨isListed isNumber, isUpdated done, fun sid member isBefore => ?_⟩
      obtain ⟨inside, before⟩ := later.fewer sid member number isNumber isBefore
      exact none_left sid inside before
  | bumping cause number =>
      obtain ⟨isNumber, done, none_left⟩ := sound
      refine ⟨isListed isNumber, isUpdated done, fun sid member isBefore => ?_⟩
      obtain ⟨inside, before⟩ := later.fewer sid member number isNumber isBefore
      exact none_left sid inside before
  | _ => exact trivial

structure Swept (rows : List (UserSession Hash)) (blobs : List SessionId)
    (listed updated settled : List Nat) (calls : List (Call Hash)) : Prop where
  calls : ∀ call ∈ calls, call.Sound rows blobs listed updated
  known : ∀ sid ∈ blobs, sid < rows.length
  revoked : ∀ number ∈ updated, ∀ (sid : SessionId) (session : UserSession Hash),
    rows[sid]? = some session → session.since < number → session.revokedAt.isSome = true
  settled : ∀ number ∈ settled, number ∈ listed ∧ number ∈ updated ∧
    ∀ sid ∈ blobs, ¬Before rows number sid

theorem later_filter {kept : List SessionId} (fewer : kept ⊆ blobs) :
    Later rows rows blobs kept listed where
  keeps := fun _ session isSession => ⟨session, isSession, rfl⟩
  fewer := fun _ member _ _ isBefore => ⟨fewer member, isBefore⟩

/-- Rows that keep when their chain began. -/
theorem later_of_since (since : ∀ sid : SessionId,
    after[sid]?.map UserSession.since = rows[sid]?.map UserSession.since) :
    Later rows after blobs blobs listed where
  keeps := by
    intro sid session isSession
    have same := since sid
    rw [isSession] at same
    obtain ⟨changed, isChanged, kept⟩ := Option.map_eq_some_iff.mp same
    exact ⟨changed, isChanged, kept⟩
  fewer := by
    rintro sid member number _ ⟨changed, isChanged, below⟩
    have same := since sid
    rw [isChanged] at same
    obtain ⟨session, isSession, kept⟩ := Option.map_eq_some_iff.mp same.symm
    exact ⟨member, session, isSession, kept ▸ below⟩

/-- Nothing that the revocations are about changes but one call. -/
theorem Swept.puts (swept : Swept rows blobs listed updated settled calls) {position : Nat}
    (sound : next.Sound rows blobs listed updated) :
    Swept rows blobs listed updated settled (calls.set position next) := by
  refine { swept with calls := ?_ }
  intro other member
  rcases List.mem_or_eq_of_mem_set member with older | rfl
  · exact swept.calls other older
  · exact sound

theorem Swept.spawns (swept : Swept rows blobs listed updated settled calls)
    (sound : next.Sound rows blobs listed updated) :
    Swept rows blobs listed updated settled (calls ++ [next]) := by
  refine { swept with calls := ?_ }
  intro other member
  rcases List.mem_append.mp member with older | isNew
  · exact swept.calls other older
  · rw [List.mem_singleton.mp isNew]
    exact sound

/-- Cache entries go. -/
theorem Swept.removes (swept : Swept rows blobs listed updated settled calls)
    {kept : List SessionId} (fewer : kept ⊆ blobs) :
    Swept rows kept listed updated settled calls where
  calls := fun call member =>
    (swept.calls call member).later (later_filter fewer) (fun _ => id) fun _ => id
  known := fun sid member => swept.known sid (fewer member)
  revoked := swept.revoked
  settled := fun number member =>
    ⟨(swept.settled number member).1, (swept.settled number member).2.1,
      fun sid inside => (swept.settled number member).2.2 sid (fewer inside)⟩

/-- Rows change in other columns, and none that was revoked is not. -/
theorem Swept.changes (swept : Swept rows blobs listed updated settled calls)
    (since : ∀ sid : SessionId,
      after[sid]?.map UserSession.since = rows[sid]?.map UserSession.since)
    (length : after.length = rows.length) {moreUpdated : List Nat} (isUpdated : updated ⊆ moreUpdated)
    (revoked : ∀ number ∈ moreUpdated, ∀ (sid : SessionId) (session : UserSession Hash),
      after[sid]? = some session → session.since < number → session.revokedAt.isSome = true) :
    Swept after blobs listed moreUpdated settled calls where
  calls := fun call member =>
    (swept.calls call member).later (later_of_since since) (fun _ => id) isUpdated
  known := fun sid member => length ▸ swept.known sid member
  revoked := revoked
  settled := by
    intro number member
    obtain ⟨isListed, done, gone⟩ := swept.settled number member
    refine ⟨isListed, isUpdated done, fun sid inside isBefore => gone sid inside ?_⟩
    exact ((later_of_since since).fewer sid inside number isListed isBefore).2

/-- A session gets its row. -/
theorem Swept.inserts (swept : Swept rows blobs listed updated settled calls)
    {session : UserSession Hash} (timely : ∀ number ∈ updated, number ≤ session.since) :
    Swept (rows ++ [session]) blobs listed updated settled calls := by
  have inside : ∀ sid ∈ blobs, (rows ++ [session])[sid]? = rows[sid]? := fun sid member =>
    List.getElem?_append_left (swept.known sid member)
  have later : Later rows (rows ++ [session]) blobs blobs listed := by
    constructor
    · intro sid older isOlder
      refine ⟨older, ?_, rfl⟩
      rw [List.getElem?_append_left (List.getElem?_eq_some_iff.mp isOlder).1]
      exact isOlder
    · rintro sid member number _ ⟨found, isFound, below⟩
      rw [inside sid member] at isFound
      exact ⟨member, found, isFound, below⟩
  constructor
  · exact fun call member => (swept.calls call member).later later (fun _ => id) fun _ => id
  · intro sid member
    rw [List.length_append]
    exact Nat.lt_add_right 1 (swept.known sid member)
  · intro number isUpdated sid found isFound below
    rw [List.getElem?_append] at isFound
    split at isFound
    · exact swept.revoked number isUpdated sid found isFound below
    · have isNew := List.mem_singleton.mp (List.mem_of_getElem? isFound)
      rw [isNew] at below
      exact absurd (timely number isUpdated) (Nat.not_le_of_lt below)
  · intro number member
    obtain ⟨isListed, done, gone⟩ := swept.settled number member
    refine ⟨isListed, done, fun sid isBlob isBefore => gone sid isBlob ?_⟩
    exact (later.fewer sid isBlob number isListed isBefore).2

/-- A session gets its cache entry. -/
theorem Swept.caches (swept : Swept rows blobs listed updated settled calls) {sid : SessionId}
    {session : UserSession Hash} (isSession : rows[sid]? = some session)
    (timely : ∀ number ∈ listed, number ≤ session.since) :
    Swept rows (sid :: blobs) listed updated settled calls := by
  have never : ∀ number ∈ listed, ¬Before rows number sid := by
    rintro number isListed ⟨found, isFound, below⟩
    obtain rfl : found = session := Option.some.inj (isFound.symm.trans isSession)
    exact absurd (timely number isListed) (Nat.not_le_of_lt below)
  have later : Later rows rows blobs (sid :: blobs) listed := by
    refine ⟨fun _ older isOlder => ⟨older, isOlder, rfl⟩, ?_⟩
    intro other member number isListed isBefore
    rcases List.mem_cons.mp member with rfl | older
    · exact absurd isBefore (never number isListed)
    · exact ⟨older, isBefore⟩
  constructor
  · exact fun call member => (swept.calls call member).later later (fun _ => id) fun _ => id
  · exact List.forall_mem_cons.mpr ⟨(List.getElem?_eq_some_iff.mp isSession).1, swept.known⟩
  · exact swept.revoked
  · intro number member
    obtain ⟨isListed, done, gone⟩ := swept.settled number member
    exact ⟨isListed, done, List.forall_mem_cons.mpr ⟨never number isListed, gone⟩⟩

/-- A revocation reads the index. -/
theorem Swept.lists (swept : Swept rows blobs listed updated settled calls) (number : Nat) :
    Swept rows blobs (number :: listed) updated settled calls where
  calls := by
    intro call member
    have sound := swept.calls call member
    cases call with
    | updating cause other members => exact ⟨List.mem_cons_of_mem _ sound.1, sound.2⟩
    | destroying cause other members => exact ⟨List.mem_cons_of_mem _ sound.1, sound.2⟩
    | clearing cause other => exact ⟨List.mem_cons_of_mem _ sound.1, sound.2⟩
    | bumping cause other => exact ⟨List.mem_cons_of_mem _ sound.1, sound.2⟩
    | caching purpose token tv => exact sound
    | _ => exact trivial
  known := swept.known
  revoked := swept.revoked
  settled := fun other member =>
    ⟨List.mem_cons_of_mem _ (swept.settled other member).1, (swept.settled other member).2⟩

/-- A revocation has come to its end. -/
theorem Swept.settles (swept : Swept rows blobs listed updated settled calls) {number : Nat}
    (isListed : number ∈ listed) (isUpdated : number ∈ updated)
    (gone : ∀ sid ∈ blobs, ¬Before rows number sid) :
    Swept rows blobs listed updated (number :: settled) calls := by
  refine { swept with settled := ?_ }
  exact List.forall_mem_cons.mpr ⟨⟨isListed, isUpdated, gone⟩, swept.settled⟩

/-! ### Steps -/

theorem since_modify (rows : List (UserSession Hash))
    (update : UserSession Hash → UserSession Hash) (same : ∀ session, (update session).since = session.since) (place sid : SessionId) :
    (rows.modify place update)[sid]?.map UserSession.since = rows[sid]?.map UserSession.since := by
  rw [List.getElem?_modify]
  split
  · cases rows[sid]? with
    | none => rfl
    | some session => exact congrArg some (same session)
  · cases rows[sid]? with
    | none => rfl
    | some session => rfl

theorem since_map (rows : List (UserSession Hash))
    (update : UserSession Hash → UserSession Hash) (same : ∀ session, (update session).since = session.since) (sid : SessionId) :
    (rows.map update)[sid]?.map UserSession.since = rows[sid]?.map UserSession.since := by
  rw [List.getElem?_map]
  cases rows[sid]? with
  | none => rfl
  | some session => exact congrArg some (same session)

/-- The session that was rotated away is marked. -/
theorem Swept.marks (swept : Swept rows blobs listed updated settled calls)
    (place replacement : SessionId) (now : Nat) :
    Swept (rows.modify place fun session => session.markRotated now replacement) blobs listed
      updated settled calls := by
  have since :=
    since_modify rows (fun session => session.markRotated now replacement) (fun _ => rfl) place
  refine swept.changes since (List.length_modify _ _ _) (fun _ => id) ?_
  intro number isUpdated sid session isSession below
  rw [List.getElem?_modify] at isSession
  split at isSession
  · obtain ⟨older, _, rfl⟩ := Option.map_eq_some_iff.mp isSession
    rfl
  · obtain ⟨older, isOlder, rfl⟩ := Option.map_eq_some_iff.mp isSession
    exact swept.revoked number isUpdated sid older isOlder below

/-- Every row is revoked at once. -/
theorem Swept.updates (swept : Swept rows blobs listed updated settled calls) (number now : Nat) :
    Swept (rows.map fun session => session.revoke now) blobs listed (number :: updated) settled
      calls := by
  have since := since_map rows (fun session => session.revoke now) fun _ => rfl
  refine swept.changes since (List.length_map _) (List.subset_cons_self _ _) ?_
  intro other _ sid session isSession _
  rw [List.getElem?_map] at isSession
  obtain ⟨older, _, rfl⟩ := Option.map_eq_some_iff.mp isSession
  rfl

namespace World

/-- What is kept while any number of calls are under way. -/
def Sweeping (world : World Hash) : Prop :=
  Swept world.rows world.blobs world.listed world.updated world.settled world.calls

theorem sweeping_graceDecide {world : World Hash} {position : Nat} (sweeping : world.Sweeping)
    (presenting : Presenting) (replacement : SessionId) (row : Option (UserSession Hash)) :
    (world.graceDecide position presenting replacement row).Sweeping := by
  rw [graceDecide]
  split
  · exact sweeping.puts trivial
  · exact sweeping.puts trivial

section Steps

variable [DecidableEq Hash] {sha256 : Token → Hash} {world : World Hash} {position : Nat}

theorem sweeping_decide (sweeping : world.Sweeping) (presenting : Presenting)
    (row : Option (UserSession Hash)) :
    (world.decide sha256 position presenting row).Sweeping := by
  cases row with
  | none => exact sweeping.puts trivial
  | some session =>
      rw [decide]
      split
      · exact sweeping.puts trivial
      · split
        · split
          · exact sweeping.puts trivial
          · exact sweeping.puts trivial
        · split
          · exact sweeping.puts trivial
          · exact sweeping.puts trivial

theorem sweeping_goOn (sweeping : world.Sweeping) {call : Call Hash}
    (found : world.calls[position]? = some call) (permits : world.PermitsCall call) :
    (world.goOn sha256 position call).Sweeping := by
  have sound := sweeping.calls call (List.mem_of_getElem? found)
  cases call with
  | epochReading purpose => exact sweeping.puts trivial
  | inserting purpose tv expiresAt =>
      refine Swept.puts (sweeping.inserts ?_) ?_
      · exact permits
      · exact ⟨_, List.getElem?_concat_length, rfl⟩
  | caching purpose token tv =>
      obtain ⟨session, isSession, same⟩ := sound
      have timely : ∀ number ∈ world.listed, number ≤ session.since := by
        rw [same]
        exact permits
      exact Swept.puts (sweeping.caches isSession timely) trivial
  | indexing purpose token tv =>
      cases purpose with
      | login since => exact sweeping.puts trivial
      | rotation presenting since => exact sweeping.puts trivial
  | marking presenting token tv =>
      exact Swept.puts (sweeping.marks presenting.token.sid token.sid world.now) trivial
  | unindexing presenting token tv => exact sweeping.puts trivial
  | uncaching presenting token tv =>
      exact Swept.puts (sweeping.removes (List.filter_subset_self _)) trivial
  | reading presenting => exact sweeping.puts trivial
  | deciding presenting row => exact sweeping_decide sweeping presenting row
  | graceReading presenting replacement => exact sweeping.puts trivial
  | graceDeciding presenting replacement row =>
      exact sweeping_graceDecide sweeping presenting replacement row
  | graceSigning presenting replacement => exact sweeping.puts trivial
  | snapshotting cause number =>
      exact Swept.puts (sweeping.lists number) ⟨List.mem_cons_self, permits⟩
  | updating cause number members =>
      refine Swept.puts (sweeping.updates number world.now) ?_
      obtain ⟨isListed, listing⟩ := sound
      refine ⟨isListed, List.mem_cons_self, ?_⟩
      intro sid inside isBefore
      have since := since_map world.rows (fun session => session.revoke world.now) fun _ => rfl
      exact listing sid inside ((later_of_since since).fewer sid inside number isListed isBefore).2
  | destroying cause number members =>
      obtain ⟨isListed, isUpdated, listing⟩ := sound
      cases members with
      | nil =>
          refine sweeping.puts ⟨isListed, isUpdated, ?_⟩
          intro sid inside isBefore
          exact nomatch listing sid inside isBefore
      | cons sid rest =>
          refine Swept.puts (sweeping.removes (List.filter_subset_self _))
            ⟨isListed, isUpdated, ?_⟩
          intro other inside isBefore
          obtain ⟨wasInside, different⟩ := List.mem_filter.mp inside
          rcases List.mem_cons.mp (listing other wasInside isBefore) with rfl | inRest
          · exact absurd rfl (of_decide_eq_true different)
          · exact inRest
  | clearing cause number => exact sweeping.puts sound
  | bumping cause number =>
      exact Swept.puts (sweeping.settles sound.1 sound.2.1 sound.2.2) trivial
  | finished => exact sweeping

theorem sweeping_step (sweeping : world.Sweeping) {happening : Happening}
    (permits : world.Permits happening) : (world.step sha256 happening).Sweeping := by
  cases happening with
  | createSession => exact sweeping.spawns trivial
  | refresh token foreign =>
      rw [step]
      split
      · exact sweeping.spawns trivial
      · exact sweeping
  | revokeAllForUser => exact sweeping.spawns trivial
  | goOn position =>
      rw [step]
      split
      · exact sweeping
      · rename_i call found
        exact sweeping_goOn sweeping found (permits call found)
  | lapse sid => exact sweeping.removes (List.filter_subset_self _)
  | lapseEpoch => exact sweeping
  | pass elapsed => exact sweeping

end Steps

theorem sweeping_of_unused {world : World Hash} (unused : world.Unused) : world.Sweeping := by
  obtain ⟨noRows, noBlobs, noCalls, -, noListed, noUpdated, noSettled⟩ := unused
  constructor
  · rw [noCalls]
    exact List.forall_mem_nil _
  · rw [noBlobs]
    exact List.forall_mem_nil _
  · rw [noUpdated]
    exact List.forall_mem_nil _
  · rw [noSettled]
    exact List.forall_mem_nil _

theorem complete_of_sweeping {world : World Hash} (sweeping : world.Sweeping) :
    world.Complete := by
  intro number isSettled sid session isSession below
  obtain ⟨_, isUpdated, gone⟩ := sweeping.settled number isSettled
  refine ⟨sweeping.revoked number isUpdated sid session isSession below, ?_⟩
  intro inside
  exact gone sid inside ⟨session, isSession, below⟩

theorem complete_always [DecidableEq Hash] (sha256 : Token → Hash) (world : World Hash)
    (unused : world.Unused) (happenings : List Happening)
    (permitted : Each (World.step sha256) World.Permits world happenings) :
    Always (World.step sha256) World.Complete world happenings := by
  have kept : ∀ (state : World Hash) (happening : Happening), state.Sweeping →
      state.Permits happening → (state.step sha256 happening).Sweeping :=
    fun _ _ sweeping permits => sweeping_step sweeping permits
  have always := always_of_each kept world (sweeping_of_unused unused) happenings permitted
  exact always.imp fun _ => complete_of_sweeping

end World

def fresh : World Token where
  now := 0

def goes (position steps : Nat) : List Happening := List.replicate steps (.goOn position)

/-- The token that the first session is created with. -/
def firstToken : Token where
  sid := 0
  serial := 0
  expiresAt := 2592000000

/-- A session is refreshed, every session is revoked, and the user logs in again. -/
def loggedOut : List Happening :=
  .createSession :: goes 0 4 ++ .refresh firstToken false :: goes 1 9 ++
    .revokeAllForUser :: goes 2 6 ++ .createSession :: goes 3 4

theorem complete_loggedOut :
    Always (World.step id) World.Complete fresh loggedOut ∧
      (run (World.step id) fresh loggedOut).rows.map (·.revokedAt) = [some 0, some 0, none] ∧
        (run (World.step id) fresh loggedOut).blobs = [2] :=
  ⟨World.complete_always id fresh ⟨rfl, rfl, rfl, ⟨rfl, rfl, rfl⟩, ⟨rfl, rfl, rfl⟩⟩ loggedOut
    (by decide +kernel), by decide +kernel, by decide +kernel⟩

/-- Every session is revoked between a rotation's reading the epoch and its insert. -/
def escaped : List Happening :=
  .createSession :: goes 0 4 ++ .refresh firstToken false :: goes 1 3 ++
    .revokeAllForUser :: goes 2 6 ++ goes 1 6

theorem not_complete_escaped : ¬(run (World.step id) fresh escaped).Complete := by
  intro complete
  have revoked : ∀ session ∈ (run (World.step id) fresh escaped).rows[1]?,
      session.revokedAt.isSome = true := by
    intro session isSession
    have begun : ∀ other ∈ (run (World.step id) fresh escaped).rows[1]?, other.since < 1 := by
      decide +kernel
    exact (complete 1 (by decide +kernel) 1 session isSession (begun session isSession)).1
  revert revoked
  decide +kernel

end Soulzaa.Sessions
