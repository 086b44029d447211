/-
What a refresh token gets that is presented.

A rotation reads the row, inserts the next one and marks the old one in steps of their own.  In
the grace period tokens are signed whose hash no row stores.
-/

import Mathlib.Algebra.Order.Group.Int
import Soulzaa.Lib.Interleaving
import Soulzaa.Sessions.Revocation

namespace Soulzaa.Sessions

open Interleaving Runs

variable {Hash : Type} {sha256 : Token → Hash} {rows after : List (UserSession Hash)}
  {presented more : List Token} {token : Token}

/-- The sessions below this are revoked. -/
def Closed (rows : List (UserSession Hash)) (known : Nat) : Prop :=
  known ≤ rows.length ∧
    ∀ sid < known, ∀ session ∈ rows[sid]?, session.revokedAt.isSome = true

/-- A token that is presented in time is accepted at first.  When it is presented again outside
the grace period, every session is revoked. -/
structure Presentation.Fair (presentation : Presentation) (rows : List (UserSession Hash)) :
    Prop where
  first : presentation.presenting.again = false → presentation.presenting.expired = false →
    presentation.outcome = .accepted
  replayed : presentation.presenting.again = true → presentation.presenting.outsideGrace = true →
    presentation.outcome = .reuse ∧ Closed rows presentation.presenting.known

/-- The session of the token stores its hash. -/
def Stored (sha256 : Token → Hash) (rows : List (UserSession Hash)) (token : Token) : Prop :=
  ∃ session ∈ rows[token.sid]?, session.refreshTokenHash = sha256 token

/-- The call has found the session of the token not revoked, and has not inserted the next. -/
def Call.Rotates (token : Token) : Call Hash → Prop
  | .deciding presenting row =>
      presenting.token = token ∧ ∃ session ∈ row, session.revokedAt = none
  | .epochReading purpose | .inserting purpose _ _ => purpose.source = some token
  | _ => False

instance (token : Token) (call : Call Hash) : Decidable (call.Rotates token) :=
  match call with
  | .deciding _ row => inferInstanceAs (Decidable (_ = token ∧ ∃ session ∈ row, _ = none))
  | .epochReading _ | .inserting _ _ _ => inferInstanceAs (Decidable (_ = some token))
  | .caching _ _ _ | .indexing _ _ _ | .marking _ _ _ | .unindexing _ _ _ | .uncaching _ _ _
  | .reading _ | .graceReading _ _ | .graceDeciding _ _ _ | .graceSigning _ _
  | .snapshotting _ _ | .updating _ _ _ | .destroying _ _ _ | .clearing _ _ | .bumping _ _
  | .finished => inferInstanceAs (Decidable False)

namespace World

structure Chained (world : World Hash) : Prop where
  fair : ∀ presentation ∈ world.presentations, presentation.Fair world.rows
  once : ∀ token, (world.rows.map UserSession.source).count (some token) ≤ 1

/-- The token is not one that was signed in a grace period.  At its first presentation no replay
has revoked its session, and a session that is not revoked is not being rotated by another call. -/
structure PermitsReading (sha256 : Token → Hash) (world : World Hash) (token : Token) :
    Prop where
  stored : Stored sha256 world.rows token
  kept : token ∉ world.presented → world.sweptTo ≤ token.sid
  alone : ∀ session ∈ world.rows[token.sid]?, session.revokedAt = none →
    some token ∉ world.rows.map UserSession.source ∧ ∀ call ∈ world.calls, ¬call.Rotates token

/-- A token that was presented before has not expired. -/
def PermitsDeciding (world : World Hash) (presenting : Presenting) : Prop :=
  presenting.again = true → world.now ≤ presenting.token.expiresAt

def PermitsRotation (sha256 : Token → Hash) (world : World Hash) : Call Hash → Prop
  | .reading presenting => world.PermitsReading sha256 presenting.token
  | .deciding presenting _ => world.PermitsDeciding presenting
  | _ => True

def PermitsRefresh (sha256 : Token → Hash) (world : World Hash) : Happening → Prop
  | .goOn position => ∀ call ∈ world.calls[position]?, world.PermitsRotation sha256 call
  | _ => True

end World

instance [DecidableEq Hash] (sha256 : Token → Hash) (rows : List (UserSession Hash))
    (token : Token) : Decidable (Stored sha256 rows token) :=
  inferInstanceAs (Decidable (∃ session ∈ (_ : Option _), _ = _))

instance [DecidableEq Hash] (sha256 : Token → Hash) (world : World Hash) (token : Token) :
    Decidable (world.PermitsReading sha256 token) :=
  decidable_of_iff
    (Stored sha256 world.rows token ∧
      (token ∉ world.presented → world.sweptTo ≤ token.sid) ∧
        ∀ session ∈ world.rows[token.sid]?, session.revokedAt = none →
          some token ∉ world.rows.map UserSession.source ∧
            ∀ call ∈ world.calls, ¬call.Rotates token)
    ⟨fun ⟨stored, kept, alone⟩ => ⟨stored, kept, alone⟩,
      fun ⟨stored, kept, alone⟩ => ⟨stored, kept, alone⟩⟩

instance (world : World Hash) (presenting : Presenting) :
    Decidable (world.PermitsDeciding presenting) :=
  inferInstanceAs (Decidable (_ = true → _ ≤ _))

instance [DecidableEq Hash] (sha256 : Token → Hash) (world : World Hash) (call : Call Hash) :
    Decidable (world.PermitsRotation sha256 call) :=
  match call with
  | .reading _ => inferInstanceAs (Decidable (world.PermitsReading _ _))
  | .deciding _ _ => inferInstanceAs (Decidable (world.PermitsDeciding _))
  | .epochReading _ | .inserting _ _ _ | .caching _ _ _ | .indexing _ _ _ | .marking _ _ _
  | .unindexing _ _ _ | .uncaching _ _ _ | .graceReading _ _ | .graceDeciding _ _ _
  | .graceSigning _ _ | .snapshotting _ _ | .updating _ _ _ | .destroying _ _ _ | .clearing _ _
  | .bumping _ _ | .finished => inferInstanceAs (Decidable True)

instance [DecidableEq Hash] (sha256 : Token → Hash) (world : World Hash) (happening : Happening) :
    Decidable (world.PermitsRefresh sha256 happening) :=
  match happening with
  | .goOn _ => inferInstanceAs (Decidable (∀ call ∈ (_ : Option (Call Hash)), _))
  | .createSession | .refresh _ _ | .revokeAllForUser | .lapse _ | .lapseEpoch | .pass _ =>
      inferInstanceAs (Decidable True)

/-- From the bound device, and nobody logs out. -/
def Happening.Honest : Happening → Prop
  | .refresh _ foreign => foreign = false
  | .revokeAllForUser => False
  | _ => True

instance (happening : Happening) : Decidable happening.Honest :=
  match happening with
  | .refresh _ foreign => inferInstanceAs (Decidable (foreign = false))
  | .revokeAllForUser => inferInstanceAs (Decidable False)
  | .createSession | .goOn _ | .lapse _ | .lapseEpoch | .pass _ =>
      inferInstanceAs (Decidable True)

/-! ### Rows -/

/-- Sessions stay, and none that was revoked is not. -/
def Grown (rows after : List (UserSession Hash)) : Prop :=
  ∀ (sid : SessionId) (session : UserSession Hash), rows[sid]? = some session →
    ∃ changed, after[sid]? = some changed ∧
      changed.refreshTokenHash = session.refreshTokenHash ∧
        (session.revokedAt.isSome = true → changed.revokedAt.isSome = true)

theorem grown_rfl (rows : List (UserSession Hash)) : Grown rows rows :=
  fun _ session isSession => ⟨session, isSession, rfl, id⟩

theorem Stored.grown (stored : Stored sha256 rows token) (grown : Grown rows after) :
    Stored sha256 after token := by
  obtain ⟨session, isSession, isHash⟩ := stored
  obtain ⟨changed, isChanged, sameHash, _⟩ := grown token.sid session isSession
  exact ⟨changed, isChanged, sameHash.trans isHash⟩

theorem Grown.length_le (grown : Grown rows after) : rows.length ≤ after.length := by
  by_contra shorter
  have inside : after.length < rows.length := Nat.lt_of_not_le shorter
  obtain ⟨changed, isChanged, _⟩ := grown after.length _ (List.getElem?_eq_getElem inside)
  rw [List.getElem?_eq_none (Nat.le_refl _)] at isChanged
  cases isChanged

theorem Closed.grown {known : Nat} (closed : Closed rows known) (grown : Grown rows after) :
    Closed after known := by
  obtain ⟨below, revoked⟩ := closed
  refine ⟨below.trans grown.length_le, ?_⟩
  intro sid isBelow changed isChanged
  have inside : sid < rows.length := Nat.lt_of_lt_of_le isBelow below
  obtain ⟨found, isFound, _, stays⟩ := grown sid _ (List.getElem?_eq_getElem inside)
  obtain rfl : found = changed := Option.some.inj (isFound.symm.trans isChanged)
  exact stays (revoked sid isBelow _ (List.getElem?_eq_getElem inside))

theorem closed_revoke {known : Nat} (below : known ≤ rows.length) (now : Nat) :
    Closed (rows.map fun session => session.revoke now) known := by
  refine ⟨below.trans (Nat.le_of_eq (List.length_map _).symm), ?_⟩
  intro sid _ session isSession
  rw [List.getElem?_map] at isSession
  obtain ⟨older, _, rfl⟩ := Option.map_eq_some_iff.mp isSession
  rfl

theorem Presentation.Fair.grown {presentation : Presentation} (fair : presentation.Fair rows)
    (grown : Grown rows after) : presentation.Fair after where
  first := fair.first
  replayed := fun again outside =>
    ⟨(fair.replayed again outside).1, (fair.replayed again outside).2.grown grown⟩

/-! ### Calls side by side -/

/-- The call will give the token a new pair. -/
structure Presenting.Honoured (sha256 : Token → Hash) (rows : List (UserSession Hash))
    (presented : List Token) (presenting : Presenting) : Prop where
  inGrace : presenting.outsideGrace = false
  presented : presenting.token ∈ presented
  stored : Stored sha256 rows presenting.token

/-- What a call that looked the token up has found. -/
structure Presenting.Found (sha256 : Token → Hash) (rows : List (UserSession Hash))
    (presented : List Token) (presenting : Presenting) (session : UserSession Hash) : Prop where
  bound : presenting.foreign = false
  known : presenting.known ≤ rows.length
  presented : presenting.token ∈ presented
  stored : Stored sha256 rows presenting.token
  hash : session.refreshTokenHash = sha256 presenting.token
  expiresAt : session.expiresAt = presenting.token.expiresAt
  first : presenting.again = false → session.revokedAt = none

def Purpose.Fair (sha256 : Token → Hash) (rows : List (UserSession Hash))
    (presented : List Token) : Purpose → Prop
  | .login _ => True
  | .rotation presenting _ => presenting.Honoured sha256 rows presented

/-- A replay, as which only a token counts that was presented before. -/
def Presentation.Replay (presentation : Presentation) : Prop :=
  presentation.outcome = .reuse ∧ presentation.presenting.again = true

def Call.Fair (sha256 : Token → Hash) (rows : List (UserSession Hash)) (presented : List Token) :
    Call Hash → Prop
  | .reading presenting => presenting.foreign = false
  | .deciding presenting row =>
      ∃ session, row = some session ∧ presenting.Found sha256 rows presented session
  | .epochReading purpose | .inserting purpose _ _ | .caching purpose _ _
  | .indexing purpose _ _ => purpose.Fair sha256 rows presented
  | .marking presenting _ _ | .unindexing presenting _ _ | .uncaching presenting _ _ =>
      presenting.Honoured sha256 rows presented
  | .graceReading presenting _ | .graceDeciding presenting _ _ | .graceSigning presenting _ =>
      presenting.outsideGrace = false ∧ presenting.again = true ∧ presenting.known ≤ rows.length
  | .snapshotting cause _ | .updating cause _ _ =>
      ∀ presentation ∈ cause, presentation.Replay ∧ presentation.presenting.known ≤ rows.length
  | .destroying cause _ _ | .clearing cause _ | .bumping cause _ =>
      ∀ presentation ∈ cause, presentation.Replay ∧ Closed rows presentation.presenting.known
  | .finished => True

theorem Presenting.Honoured.grown {presenting : Presenting}
    (honoured : presenting.Honoured sha256 rows presented) (grown : Grown rows after)
    (wider : presented ⊆ more) : presenting.Honoured sha256 after more where
  inGrace := honoured.inGrace
  presented := wider honoured.presented
  stored := honoured.stored.grown grown

theorem Purpose.Fair.grown {purpose : Purpose} (fair : purpose.Fair sha256 rows presented)
    (grown : Grown rows after) (wider : presented ⊆ more) : purpose.Fair sha256 after more := by
  cases purpose with
  | login since => exact trivial
  | rotation presenting since => exact Presenting.Honoured.grown fair grown wider

theorem Call.Fair.grown {call : Call Hash} (fair : call.Fair sha256 rows presented)
    (grown : Grown rows after) (wider : presented ⊆ more) : call.Fair sha256 after more := by
  cases call with
  | reading presenting => exact fair
  | deciding presenting row =>
      obtain ⟨session, isSession, found⟩ := fair
      exact ⟨session, isSession,
        { found with
          known := found.known.trans grown.length_le
          presented := wider found.presented
          stored := found.stored.grown grown }⟩
  | epochReading purpose => exact Purpose.Fair.grown fair grown wider
  | inserting purpose tv expiresAt => exact Purpose.Fair.grown fair grown wider
  | caching purpose token tv => exact Purpose.Fair.grown fair grown wider
  | indexing purpose token tv => exact Purpose.Fair.grown fair grown wider
  | marking presenting token tv => exact Presenting.Honoured.grown fair grown wider
  | unindexing presenting token tv => exact Presenting.Honoured.grown fair grown wider
  | uncaching presenting token tv => exact Presenting.Honoured.grown fair grown wider
  | graceReading presenting replacement =>
      exact ⟨fair.1, fair.2.1, fair.2.2.trans grown.length_le⟩
  | graceDeciding presenting replacement row =>
      exact ⟨fair.1, fair.2.1, fair.2.2.trans grown.length_le⟩
  | graceSigning presenting replacement =>
      exact ⟨fair.1, fair.2.1, fair.2.2.trans grown.length_le⟩
  | snapshotting cause number =>
      exact fun presentation member =>
        ⟨(fair presentation member).1, (fair presentation member).2.trans grown.length_le⟩
  | updating cause number members =>
      exact fun presentation member =>
        ⟨(fair presentation member).1, (fair presentation member).2.trans grown.length_le⟩
  | destroying cause number members =>
      exact fun presentation member =>
        ⟨(fair presentation member).1, (fair presentation member).2.grown grown⟩
  | clearing cause number =>
      exact fun presentation member =>
        ⟨(fair presentation member).1, (fair presentation member).2.grown grown⟩
  | bumping cause number =>
      exact fun presentation member =>
        ⟨(fair presentation member).1, (fair presentation member).2.grown grown⟩
  | finished => exact trivial

/-- A session is bound to a token of its own, and what is revoked was rotated or swept. -/
structure Bound (sha256 : Token → Hash) (rows : List (UserSession Hash)) (presented : List Token)
    (sweptTo : Nat) : Prop where
  own : ∀ (sid : SessionId) (session : UserSession Hash), rows[sid]? = some session →
    ∃ token : Token, token.sid = sid ∧ session.refreshTokenHash = sha256 token ∧
      session.expiresAt = token.expiresAt
  revoked : ∀ (sid : SessionId) (session : UserSession Hash), rows[sid]? = some session →
    session.revokedAt.isSome = true → sid < sweptTo ∨
      ∃ token ∈ presented, session.refreshTokenHash = sha256 token

def rotating (token : Token) (call : Call Hash) : Int := if call.Rotates token then 1 else 0

/-- Sessions and calls that have made, or will make, a session of the token. -/
def made (token : Token) (rows : List (UserSession Hash)) (calls : List (Call Hash)) : Int :=
  (rows.map UserSession.source).count (some token) + underWay (rotating token) calls

structure Refreshed (sha256 : Token → Hash) (rows : List (UserSession Hash))
    (presented : List Token) (sweptTo : Nat) (presentations : List Presentation)
    (calls : List (Call Hash)) : Prop where
  bound : Bound sha256 rows presented sweptTo
  each : ∀ call ∈ calls, call.Fair sha256 rows presented
  once : ∀ token, made token rows calls ≤ 1
  fair : ∀ presentation ∈ presentations, presentation.Fair rows

theorem made_set {calls : List (Call Hash)} {position : Nat} {call : Call Hash}
    (found : calls[position]? = some call) (next : Call Hash) (token : Token)
    (rows : List (UserSession Hash)) :
    made token rows (calls.set position next) + rotating token call =
      made token rows calls + rotating token next := by
  have moved := underWay_set (rotating token) found next
  unfold made
  omega

namespace Refreshed

variable {sweptTo : Nat} {presentations : List Presentation} {calls : List (Call Hash)}
  {position : Nat} {call next : Call Hash}

/-- Nothing changes but one call. -/
theorem puts (refreshed : Refreshed sha256 rows presented sweptTo presentations calls)
    (found : calls[position]? = some call) (fair : next.Fair sha256 rows presented)
    (fewer : ∀ token, next.Rotates token → call.Rotates token) :
    Refreshed sha256 rows presented sweptTo presentations (calls.set position next) := by
  refine { refreshed with each := ?_, once := ?_ }
  · intro other member
    rcases List.mem_or_eq_of_mem_set member with older | rfl
    · exact refreshed.each other older
    · exact fair
  · intro token
    have moved := made_set found next token rows
    have before := refreshed.once token
    have isFewer : rotating token next ≤ rotating token call := by
      unfold rotating
      by_cases rotates : next.Rotates token
      · rw [if_pos rotates, if_pos (fewer token rotates)]
      · rw [if_neg rotates]
        split
        · exact Int.one_nonneg
        · exact Int.le_refl 0
    omega

theorem finishes (refreshed : Refreshed sha256 rows presented sweptTo presentations calls)
    (found : calls[position]? = some call) :
    Refreshed sha256 rows presented sweptTo presentations (calls.set position .finished) :=
  refreshed.puts found trivial fun _ => False.elim

theorem spawns (refreshed : Refreshed sha256 rows presented sweptTo presentations calls)
    (fair : next.Fair sha256 rows presented) (never : ∀ token, ¬next.Rotates token) :
    Refreshed sha256 rows presented sweptTo presentations (calls ++ [next]) := by
  refine { refreshed with each := ?_, once := ?_ }
  · intro other member
    rcases List.mem_append.mp member with older | isNew
    · exact refreshed.each other older
    · rw [List.mem_singleton.mp isNew]
      exact fair
  · intro token
    have before := refreshed.once token
    unfold made at before ⊢
    rw [underWay_spawn, rotating, if_neg (never token), add_zero]
    exact before

theorem answers (refreshed : Refreshed sha256 rows presented sweptTo presentations calls)
    {presentation : Presentation} (fair : presentation.Fair rows) :
    Refreshed sha256 rows presented sweptTo (presentation :: presentations) calls :=
  { refreshed with fair := List.forall_mem_cons.mpr ⟨fair, refreshed.fair⟩ }

/-- Sessions are marked or revoked. -/
theorem changes (refreshed : Refreshed sha256 rows presented sweptTo presentations calls)
    {upTo : Nat} (grown : Grown rows after)
    (source : after.map UserSession.source = rows.map UserSession.source)
    (bound : Bound sha256 after presented upTo) :
    Refreshed sha256 after presented upTo presentations calls where
  bound := bound
  each := fun call member => (refreshed.each call member).grown grown fun _ => id
  once := by
    intro token
    unfold made
    rw [source]
    exact refreshed.once token
  fair := fun presentation member => (refreshed.fair presentation member).grown grown

/-- The session of a token that was presented is marked. -/
theorem marks (refreshed : Refreshed sha256 rows presented sweptTo presentations calls)
    {presenting : Presenting} (honoured : presenting.Honoured sha256 rows presented)
    (now : Nat) (replacement : SessionId) :
    Refreshed sha256
      (rows.modify presenting.token.sid fun session => session.markRotated now replacement)
      presented sweptTo presentations calls := by
  have found : ∀ (sid : SessionId) (changed : UserSession Hash),
      (rows.modify presenting.token.sid fun session => session.markRotated now replacement)[sid]? =
        some changed →
      ∃ session, rows[sid]? = some session ∧
        changed.refreshTokenHash = session.refreshTokenHash ∧
          changed.expiresAt = session.expiresAt ∧
            (sid = presenting.token.sid ∨ changed = session) := by
    intro sid changed isChanged
    rw [List.getElem?_modify] at isChanged
    split at isChanged
    · rename_i same
      obtain ⟨session, isSession, rfl⟩ := Option.map_eq_some_iff.mp isChanged
      exact ⟨session, isSession, rfl, rfl, Or.inl same.symm⟩
    · obtain ⟨session, isSession, rfl⟩ := Option.map_eq_some_iff.mp isChanged
      exact ⟨session, isSession, rfl, rfl, Or.inr rfl⟩
  refine refreshed.changes ?_ ?_ ⟨?_, ?_⟩
  · intro sid session isSession
    rw [List.getElem?_modify, isSession]
    split
    · exact ⟨_, rfl, rfl, fun _ => rfl⟩
    · exact ⟨_, rfl, rfl, id⟩
  · apply List.ext_getElem?
    intro sid
    rw [List.getElem?_map, List.getElem?_map, List.getElem?_modify]
    split
    · cases rows[sid]? with
      | none => rfl
      | some session => rfl
    · cases rows[sid]? with
      | none => rfl
      | some session => rfl
  · intro sid changed isChanged
    obtain ⟨session, isSession, sameHash, sameExpiry, _⟩ := found sid changed isChanged
    obtain ⟨token, isHere, isHash, isExpiry⟩ := refreshed.bound.own sid session isSession
    exact ⟨token, isHere, sameHash.trans isHash, sameExpiry.trans isExpiry⟩
  · intro sid changed isChanged isRevoked
    obtain ⟨session, isSession, sameHash, _, isMarked | rfl⟩ := found sid changed isChanged
    · obtain ⟨stored, isStored, isHash⟩ := honoured.stored
      rw [← isMarked, isSession] at isStored
      obtain rfl := Option.some.inj isStored
      exact Or.inr ⟨presenting.token, honoured.presented, sameHash.trans isHash⟩
    · exact refreshed.bound.revoked sid changed isSession isRevoked

/-- Every session is revoked. -/
theorem updates (refreshed : Refreshed sha256 rows presented sweptTo presentations calls)
    (now : Nat) :
    Refreshed sha256 (rows.map fun session => session.revoke now) presented rows.length
      presentations calls := by
  refine refreshed.changes ?_ ?_ ⟨?_, ?_⟩
  · intro sid session isSession
    rw [List.getElem?_map, isSession]
    exact ⟨_, rfl, rfl, fun _ => rfl⟩
  · rw [List.map_map]
    rfl
  · intro sid changed isChanged
    rw [List.getElem?_map] at isChanged
    obtain ⟨session, isSession, rfl⟩ := Option.map_eq_some_iff.mp isChanged
    exact refreshed.bound.own sid session isSession
  · intro sid changed isChanged _
    have inside := (List.getElem?_eq_some_iff.mp isChanged).1
    rw [List.length_map] at inside
    exact Or.inl inside

/-- A session gets its row. -/
theorem inserts (refreshed : Refreshed sha256 rows presented sweptTo presentations calls)
    {purpose : Purpose} {tv expiresAt : Nat}
    (found : calls[position]? = some (.inserting purpose tv expiresAt))
    {session : UserSession Hash} (isHere : token.sid = rows.length)
    (isHash : session.refreshTokenHash = sha256 token)
    (isExpiry : session.expiresAt = token.expiresAt) (isLive : session.revokedAt = none)
    (isSource : session.source = purpose.source) :
    Refreshed sha256 (rows ++ [session]) presented sweptTo presentations
      (calls.set position (.caching purpose token tv)) := by
  have grown : Grown rows (rows ++ [session]) := by
    intro sid older isOlder
    refine ⟨older, ?_, rfl, id⟩
    rw [List.getElem?_append_left (List.getElem?_eq_some_iff.mp isOlder).1]
    exact isOlder
  have cases : ∀ (sid : Nat) (found : UserSession Hash),
      (rows ++ [session])[sid]? = some found →
        rows[sid]? = some found ∨ (sid = rows.length ∧ found = session) := by
    intro sid found isFound
    rw [List.getElem?_append] at isFound
    split at isFound
    · exact Or.inl isFound
    · have inside := (List.getElem?_eq_some_iff.mp isFound).1
      rw [List.length_singleton] at inside
      exact Or.inr ⟨by omega, List.mem_singleton.mp (List.mem_of_getElem? isFound)⟩
  refine ⟨⟨?_, ?_⟩, ?_, ?_, ?_⟩
  · intro sid changed isChanged
    rcases cases sid changed isChanged with older | ⟨isLast, rfl⟩
    · exact refreshed.bound.own sid changed older
    · exact ⟨token, isHere.trans isLast.symm, isHash, isExpiry⟩
  · intro sid changed isChanged isRevoked
    rcases cases sid changed isChanged with older | ⟨_, rfl⟩
    · exact refreshed.bound.revoked sid changed older isRevoked
    · rw [isLive] at isRevoked
      cases isRevoked
  · intro other member
    rcases List.mem_or_eq_of_mem_set member with older | rfl
    · exact (refreshed.each other older).grown grown fun _ => id
    · have fair := refreshed.each _ (List.mem_of_getElem? found)
      exact Purpose.Fair.grown fair grown fun _ => id
  · intro other
    have moved := made_set found (.caching purpose token tv) other rows
    have before := refreshed.once other
    have counted : (((rows ++ [session]).map UserSession.source).count (some other) : Int) =
        (rows.map UserSession.source).count (some other) +
          rotating other (.inserting purpose tv expiresAt : Call Hash) := by
      rw [List.map_append, List.map_singleton, List.count_append, List.count_singleton, isSource]
      by_cases same : purpose.source = some other
      · have counts : rotating other (.inserting purpose tv expiresAt : Call Hash) = 1 := if_pos same
        rw [if_pos (beq_iff_eq.mpr same), counts]
        rfl
      · have counts : rotating other (.inserting purpose tv expiresAt : Call Hash) = 0 := if_neg same
        rw [if_neg (mt beq_iff_eq.mp same), counts]
        rfl
    have isOver : rotating other (.caching purpose token tv : Call Hash) = 0 := if_neg id
    unfold made at moved before ⊢
    omega
  · exact fun presentation member => (refreshed.fair presentation member).grown grown

/-- A token is looked up. -/
theorem reads (injective : Function.Injective sha256)
    (refreshed : Refreshed sha256 rows presented sweptTo presentations calls)
    {presenting : Presenting} (found : calls[position]? = some (.reading presenting))
    (stored : Stored sha256 rows presenting.token)
    (kept : presenting.token ∉ presented → sweptTo ≤ presenting.token.sid)
    (alone : ∀ session ∈ rows[presenting.token.sid]?, session.revokedAt = none →
      some presenting.token ∉ rows.map UserSession.source ∧
        ∀ call ∈ calls, ¬call.Rotates presenting.token) :
    Refreshed sha256 rows (presenting.token :: presented) sweptTo presentations
      (calls.set position
        (.deciding
          { presenting with
            again := Decidable.decide (presenting.token ∈ presented)
            known := rows.length }
          rows[presenting.token.sid]?)) := by
  have wider : presented ⊆ presenting.token :: presented := List.subset_cons_self _ _
  obtain ⟨session, isSession, isHash⟩ := stored
  refine ⟨⟨refreshed.bound.own, ?_⟩, ?_, ?_, refreshed.fair⟩
  · intro sid other isOther isRevoked
    rcases refreshed.bound.revoked sid other isOther isRevoked with swept | ⟨token, member, same⟩
    · exact Or.inl swept
    · exact Or.inr ⟨token, wider member, same⟩
  · intro other member
    rcases List.mem_or_eq_of_mem_set member with older | rfl
    · exact (refreshed.each other older).grown (grown_rfl rows) wider
    · have bound : presenting.foreign = false := refreshed.each _ (List.mem_of_getElem? found)
      refine ⟨session, isSession, bound, Nat.le_refl _, List.mem_cons_self,
        ⟨session, isSession, isHash⟩, isHash, ?_, ?_⟩
      · obtain ⟨own, _, isOwn, isExpiry⟩ := refreshed.bound.own _ session isSession
        obtain rfl := injective (isOwn.symm.trans isHash)
        exact isExpiry
      · intro isFirst
        have unseen : presenting.token ∉ presented := of_decide_eq_false isFirst
        by_contra isRevoked
        rcases refreshed.bound.revoked _ session isSession
          (Option.isSome_iff_ne_none.mpr isRevoked) with swept | ⟨token, member, same⟩
        · exact absurd (kept unseen) (Nat.not_le_of_lt swept)
        · -- Only its own token has a session marked.
          obtain rfl := injective (isHash.symm.trans same)
          exact unseen member
  · intro token
    have moved := made_set found
      (.deciding
        { presenting with
          again := Decidable.decide (presenting.token ∈ presented)
          known := rows.length }
        rows[presenting.token.sid]?) token rows
    have before := refreshed.once token
    have wasNone : rotating token (.reading presenting : Call Hash) = 0 := if_neg id
    rw [wasNone, add_zero] at moved
    rw [moved]
    unfold rotating
    split
    · rename_i rotates
      obtain ⟨isToken, live, isLive, isUnrevoked⟩ := rotates
      obtain rfl : presenting.token = token := isToken
      obtain ⟨unmade, unrotated⟩ := alone live isLive isUnrevoked
      have noneMade : (rows.map UserSession.source).count (some presenting.token) = 0 :=
        List.count_eq_zero.mpr unmade
      have noneUnderWay : underWay (rotating presenting.token) calls = 0 :=
        underWay_eq_zero fun call member => if_neg (unrotated call member)
      unfold made
      omega
    · omega

end Refreshed

/-! ### Steps -/

namespace World

variable {world : World Hash} {position : Nat}

def Refreshing (sha256 : Token → Hash) (world : World Hash) : Prop :=
  Refreshed sha256 world.rows world.presented world.sweptTo world.presentations world.calls

theorem refreshing_revoking (refreshing : world.Refreshing sha256) {call : Call Hash}
    (found : world.calls[position]? = some call) {presentation : Presentation}
    (replay : presentation.Replay) (known : presentation.presenting.known ≤ world.rows.length) :
    (world.revoking position (some presentation)).Refreshing sha256 := by
  refine refreshing.puts found ?_ fun _ => False.elim
  intro other isOther
  obtain rfl := Option.some.inj isOther
  exact ⟨replay, known⟩

theorem refreshing_decide [DecidableEq Hash] (refreshing : world.Refreshing sha256)
    {presenting : Presenting} {row : Option (UserSession Hash)}
    (found : world.calls[position]? = some (.deciding presenting row))
    (permits : world.PermitsDeciding presenting) :
    (world.decide sha256 position presenting row).Refreshing sha256 := by
  obtain ⟨session, rfl, looked⟩ := refreshing.each _ (List.mem_of_getElem? found)
  dsimp only [decide]
  rw [looked.expiresAt]
  split
  · rename_i expired
    refine Refreshed.answers (refreshing.finishes found) ⟨?_, ?_⟩
    · intro _ inTime
      exact absurd expired (of_decide_eq_false inTime)
    · intro again _
      exact absurd expired (Nat.not_lt_of_le (permits again))
  · split
    · rename_i invalid
      have isRevoked : session.revokedAt.isSome = true :=
        invalid.resolve_right fun different => different looked.hash
      have again : presenting.again = true := by
        by_contra isFirst
        rw [looked.first (eq_false_of_ne_true isFirst)] at isRevoked
        cases isRevoked
      split
      · rename_i inGrace
        refine refreshing.puts found ⟨?_, again, looked.known⟩ fun _ => False.elim
        obtain ⟨-, -, revokedAt, isAt, recent⟩ := inGrace
        rw [Option.mem_def.mp isAt]
        exact decide_eq_false (Nat.not_le_of_lt recent)
      · exact refreshing_revoking refreshing found ⟨rfl, again⟩ looked.known
    · rename_i valid
      rw [if_neg (by rw [looked.bound]; exact Bool.false_ne_true)]
      have isLive : session.revokedAt = none := by
        by_contra isRevoked
        exact valid (Or.inl (Option.isSome_iff_ne_none.mpr isRevoked))
      refine refreshing.puts found ⟨?_, looked.presented, looked.stored⟩ ?_
      · rw [isLive]
        rfl
      · intro token rotates
        exact ⟨Option.some.inj rotates, session, rfl, isLive⟩

theorem refreshing_goOn [DecidableEq Hash] (injective : Function.Injective sha256)
    (refreshing : world.Refreshing sha256) {call : Call Hash}
    (found : world.calls[position]? = some call)
    (permits : world.PermitsRotation sha256 call) :
    (world.goOn sha256 position call).Refreshing sha256 := by
  have fair := refreshing.each call (List.mem_of_getElem? found)
  cases call with
  | epochReading purpose => exact refreshing.puts found fair fun _ => id
  | inserting purpose tv expiresAt => exact refreshing.inserts found rfl rfl rfl rfl rfl
  | caching purpose token tv => exact refreshing.puts found fair fun _ => id
  | indexing purpose token tv =>
      cases purpose with
      | login since => exact refreshing.finishes found
      | rotation presenting since => exact refreshing.puts found fair fun _ => id
  | marking presenting token tv =>
      have marked := refreshing.marks fair world.now token.sid
      have stillFair := marked.each _ (List.mem_of_getElem? found)
      exact Refreshed.puts marked found stillFair fun _ => id
  | unindexing presenting token tv => exact refreshing.puts found fair fun _ => id
  | uncaching presenting token tv =>
      refine Refreshed.answers (refreshing.finishes found) ⟨fun _ _ => rfl, ?_⟩
      intro _ outside
      rw [fair.inGrace] at outside
      cases outside
  | reading presenting =>
      exact refreshing.reads injective found permits.stored permits.kept permits.alone
  | deciding presenting row => exact refreshing_decide refreshing found permits
  | graceReading presenting replacement => exact refreshing.puts found fair fun _ => id
  | graceDeciding presenting replacement row =>
      rw [goOn, graceDecide]
      split
      · exact refreshing.puts found fair fun _ => id
      · exact refreshing_revoking refreshing found ⟨rfl, fair.2.1⟩ fair.2.2
  | graceSigning presenting replacement =>
      refine Refreshed.answers (refreshing.finishes found) ⟨fun _ _ => rfl, ?_⟩
      intro _ outside
      rw [fair.1] at outside
      cases outside
  | snapshotting cause number => exact refreshing.puts found fair fun _ => id
  | updating cause number members =>
      have updated := refreshing.updates world.now
      refine Refreshed.puts updated found ?_ fun _ => id
      intro presentation isCause
      obtain ⟨replay, known⟩ := fair presentation isCause
      exact ⟨replay, closed_revoke known world.now⟩
  | destroying cause number members =>
      cases members with
      | nil => exact refreshing.puts found fair fun _ => id
      | cons sid rest => exact refreshing.puts found fair fun _ => id
  | clearing cause number => exact refreshing.puts found fair fun _ => id
  | bumping cause number =>
      cases cause with
      | none => exact refreshing.finishes found
      | some presentation =>
          obtain ⟨⟨isReuse, again⟩, closed⟩ := fair presentation rfl
          refine Refreshed.answers (refreshing.finishes found) ⟨?_, ?_⟩
          · intro isFirst
            rw [again] at isFirst
            cases isFirst
          · exact fun _ _ => ⟨isReuse, closed⟩
  | finished => exact refreshing

theorem refreshing_step [DecidableEq Hash] (injective : Function.Injective sha256)
    (refreshing : world.Refreshing sha256) {happening : Happening} (honest : happening.Honest)
    (permits : world.PermitsRefresh sha256 happening) :
    (world.step sha256 happening).Refreshing sha256 := by
  cases happening with
  | createSession => exact refreshing.spawns trivial fun _ => nofun
  | refresh token foreign =>
      rw [step]
      split
      · exact refreshing.spawns honest fun _ => id
      · exact refreshing
  | revokeAllForUser => exact honest.elim
  | goOn position =>
      rw [step]
      split
      · exact refreshing
      · rename_i call found
        exact refreshing_goOn injective refreshing found (permits call found)
  | lapse sid => exact refreshing
  | lapseEpoch => exact refreshing
  | pass elapsed => exact refreshing

theorem refreshing_of_unused (unused : world.Unused) : world.Refreshing sha256 := by
  obtain ⟨noRows, -, noCalls, ⟨-, -, noPresentations⟩, -⟩ := unused
  constructor
  · rw [noRows]
    constructor
    · intro sid session isSession
      cases isSession
    · intro sid session isSession
      cases isSession
  · rw [noCalls]
    exact List.forall_mem_nil _
  · intro token
    rw [noRows, noCalls]
    exact Int.one_nonneg
  · rw [noPresentations]
    exact List.forall_mem_nil _

theorem chained_of_refreshing (refreshing : world.Refreshing sha256) : world.Chained where
  fair := refreshing.fair
  once := by
    intro token
    have once := refreshing.once token
    have waiting : 0 ≤ underWay (rotating token) world.calls := by
      refine underWay_nonneg ?_ world.calls
      intro call
      unfold rotating
      split
      · exact Int.one_nonneg
      · exact Int.le_refl 0
    unfold made at once
    omega

theorem chained_always [DecidableEq Hash] (sha256 : Token → Hash)
    (injective : Function.Injective sha256) (world : World Hash) (unused : world.Unused)
    (happenings : List Happening) (honest : ∀ happening ∈ happenings, happening.Honest)
    (permitted : Each (World.step sha256) (World.PermitsRefresh sha256) world happenings) :
    Always (World.step sha256) World.Chained world happenings := by
  have kept : ∀ (state : World Hash) (happening : Happening), state.Refreshing sha256 →
      happening.Honest ∧ state.PermitsRefresh sha256 happening →
        (state.step sha256 happening).Refreshing sha256 :=
    fun _ _ refreshing permits => refreshing_step injective refreshing permits.1 permits.2
  have honestly : Each (World.step sha256) (fun _ happening => happening.Honest) world happenings :=
    each_of_forall_mem (fun happening member _ => honest happening member) world
  have always := always_of_each kept world (refreshing_of_unused unused) happenings
    (honestly.and permitted)
  exact always.imp fun _ => chained_of_refreshing

end World

/-- The token that the first session is replaced with. -/
def secondToken : Token where
  sid := 1
  serial := 1
  expiresAt := 2592000000

/-- A refresh that was already answered is sent again, at once and after a minute. -/
def replayed : List Happening :=
  .createSession :: goes 0 4 ++ .refresh firstToken false :: goes 1 9 ++
    .refresh firstToken false :: goes 2 5 ++ .refresh secondToken false :: goes 3 9 ++
    .pass 60000 :: .refresh firstToken false :: goes 4 9

theorem chained_replayed :
    Always (World.step id) World.Chained fresh replayed ∧
      (run (World.step id) fresh replayed).presentations.map (·.outcome) =
        [.reuse, .accepted, .accepted, .accepted] :=
  ⟨World.chained_always id Function.injective_id fresh
    ⟨rfl, rfl, rfl, ⟨rfl, rfl, rfl⟩, ⟨rfl, rfl, rfl⟩⟩ replayed (by decide +kernel)
    (by decide +kernel), by decide +kernel⟩

/-- The token that is signed in the grace period is presented. -/
def inGrace : List Happening :=
  .createSession :: goes 0 4 ++ .refresh firstToken false :: goes 1 9 ++
    .refresh firstToken false :: goes 2 5 ++
    .refresh { secondToken with serial := 2 } false :: goes 3 9

/-- Two refreshes with one token read its row before either has marked it. -/
def inParallel : List Happening :=
  .createSession :: goes 0 4 ++ .refresh firstToken false :: .refresh firstToken false ::
    goes 1 1 ++ goes 2 1 ++ goes 1 8 ++ goes 2 8

theorem not_chained_inGrace :
    ¬(run (World.step id) fresh inGrace).Chained ∧
      ¬(run (World.step id) fresh inParallel).Chained := by
  constructor
  · intro chained
    have first : ∀ presentation ∈ (run (World.step id) fresh inGrace).presentations,
        presentation.presenting.again = false → presentation.presenting.expired = false →
          presentation.outcome = .accepted :=
      fun presentation member => (chained.fair presentation member).first
    revert first
    decide +kernel
  · intro chained
    have once := chained.once firstToken
    revert once
    decide +kernel

end Soulzaa.Sessions
