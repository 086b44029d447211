/-
One ladder a room and a day.

A call that has found no session of today goes on to create one, and another that
creates one meanwhile makes it two.  The lock of the room keeps apart the calls that
take it.  A gift goes to a session of its day where none of an earlier day is taken for
it, and where midnight does not come between the two.
-/

import Soulzaa.Treasure.Days

namespace Soulzaa.Treasure.Days

open Interleaving

/-! ### What is claimed -/

structure Store.OneLadder (store : Store) : Prop where
  single : ∀ first ∈ store.sessions, ∀ second ∈ store.sessions, first.status = .active →
    second.status = .active → first.id = second.id
  sameDay : ∀ application ∈ store.applications, ∃ row ∈ store.sessions,
    row.id = application.sessionId ∧ dayStart row.createdAt = application.day

/-! ### Roles -/

/-- What a call knows of sessions and days. -/
inductive Role where
  | idle
  /-- A gift of the day, without a session yet. -/
  | dated (day : Nat)
  /-- No session is active but the stale one; a new one is to be created. -/
  | forming (stale : Option SessionId) (day : Option Nat)
  /-- Created in a transaction that is not committed. -/
  | founding (stale : Option SessionId) (day createdAt : Nat)
  | pouring (day : Nat) (sessionId : SessionId)
  deriving DecidableEq, Repr

/-- With or without the day of a gift, before a session is looked for. -/
def Role.seeking : Option Nat → Role
  | some day => .dated day
  | none => .idle

/-- With the session that was created. -/
def Role.taking (sessionId : SessionId) : Option Nat → Role
  | some day => .pouring day sessionId
  | none => .idle

/-- Between finding no session of today and creating one. -/
def Role.forms : Role → Bool
  | .forming _ _ => true
  | .founding _ _ _ => true
  | _ => false

/-- The day of a gift that has no session yet. -/
def Role.day : Role → Option Nat
  | .dated day => some day
  | .forming _ day => day
  | _ => none

def Caller.day : Caller → Option Nat
  | .gift day => some day
  | _ => none

def Work.role (work : Work) : Role :=
  match work.target with
  | .existing sessionId => .pouring work.todayStart sessionId
  | .opened stale createdAt => .founding stale work.todayStart createdAt

namespace SessionCall

def role : SessionCall → Role
  | .rollingOver _ stale => .forming (some stale) none
  | .checkingStarted _ => .forming none none
  | .readingConfigs => .forming none none
  | .startingToday => .forming none none
  | .checkingEvent day => .dated day
  | .finding caller _ => .seeking caller.day
  | .checkingCompleted caller _ => .forming none caller.day
  | .creating caller => .forming none caller.day
  | .filling day sessionId => .pouring day sessionId
  | .leveling day sessionId => .pouring day sessionId
  | .looking day => .dated day
  | .retiring day stale => .forming (some stale) (some day)
  | .checkingToday day stale => .forming stale (some day)
  | .readingEnabled day stale => .forming stale (some day)
  | .opening day stale => .forming stale (some day)
  | .contributing work => work.role
  | .advancing work => work.role
  | .committing work => work.role
  | _ => .idle

/-- The day for which `applyGiftProgress` takes any active session. -/
def takesAny : SessionCall → Option Nat
  | .finding caller _ => caller.day
  | _ => none

end SessionCall

/-! ### The condition -/

namespace Room

/-- No session of today is found and none is about to be created by another call, unless
both hold the lock of the room; `applyGiftProgress` finds no session of an earlier day;
and midnight does not come for a gift that has no session yet. -/
def Punctual (room : Room) : RoomEvent → Prop
  | .resume position reply =>
      ∀ call ∈ room.calls[position]?,
        (call.role.forms = false → (call.advance reply room.store).2.role.forms = true →
          ∀ other ∈ room.calls, other.role.forms = true →
            .room ∈ call.locks ∧ .room ∈ other.locks) ∧
        ∀ day ∈ call.takesAny, ∀ session ∈ room.store.getActive, day ≤ session.createdAt
  | .pass milliseconds =>
      dayStart (room.store.now + milliseconds) = room.store.todayStart ∨
        ∀ call ∈ room.calls, call.role.day = none
  | _ => True

instance (room : Room) : (event : RoomEvent) → Decidable (room.Punctual event)
  | .resume position _ => inferInstanceAs (Decidable (∀ call ∈ room.calls[position]?, _ ∧ _))
  | .pass _ => inferInstanceAs (Decidable (_ ∨ _))
  | .autoStartTodaySession => inferInstanceAs (Decidable True)
  | .applyGiftProgress => inferInstanceAs (Decidable True)
  | .processTreasureContribution => inferInstanceAs (Decidable True)
  | .getRoomStatus => inferInstanceAs (Decidable True)
  | .resetRoomTreasure => inferInstanceAs (Decidable True)
  | .archiveStaleActiveSessions => inferInstanceAs (Decidable True)

end Room

/-! ### The invariant -/

structure Store.Regular (store : Store) : Prop extends Store.OneLadder store where
  numbered : store.sessions.map SessionRow.id = List.range store.sessions.length
  past : ∀ row ∈ store.sessions, row.createdAt ≤ store.now

/-- No session is active but the one. -/
def Store.OnlyActive (store : Store) (only : Option SessionId) : Prop :=
  ∀ row ∈ store.sessions, row.status = .active → only = some row.id

def Store.HasDay (store : Store) (sessionId : SessionId) (day : Nat) : Prop :=
  ∃ row ∈ store.sessions, row.id = sessionId ∧ dayStart row.createdAt = day

def Role.Relies (store : Store) : Role → Prop
  | .idle => True
  | .dated day => day = store.todayStart
  | .forming stale day => store.OnlyActive stale ∧ ∀ own ∈ day, own = store.todayStart
  | .founding stale day createdAt =>
      store.OnlyActive stale ∧ createdAt ≤ store.now ∧ dayStart createdAt = day
  | .pouring day sessionId => store.HasDay sessionId day

variable {store after last : Store} {role next other : Role} {stale : Option SessionId}
  {sessionId : SessionId} {day createdAt : Nat} {status : TreasureSessionStatus}

/-! ### What the statements leave -/

/-- Sessions stay, with their days. -/
structure Store.Follows (store after : Store) : Prop where
  rows : ∀ row ∈ store.sessions, ∃ later ∈ after.sessions,
    later.id = row.id ∧ later.createdAt = row.createdAt
  now : after.now = store.now

/-- And none is active that was not. -/
structure Store.Finishes (store after : Store) : Prop extends Store.Follows store after where
  active : ∀ row ∈ after.sessions, row.status = .active →
    ∃ earlier ∈ store.sessions, earlier.status = .active ∧ earlier.id = row.id

theorem Store.Follows.trans (first : store.Follows after) (second : after.Follows last) :
    store.Follows last where
  rows := by
    intro row member
    obtain ⟨later, isLater, sameId, sameTime⟩ := first.rows row member
    obtain ⟨latest, isLatest, latestId, latestTime⟩ := second.rows later isLater
    exact ⟨latest, isLatest, latestId.trans sameId, latestTime.trans sameTime⟩
  now := second.now.trans first.now

theorem follows_of_sessions (sessions : after.sessions = store.sessions)
    (now : after.now = store.now) : store.Follows after where
  rows := by
    intro row member
    rw [sessions]
    exact ⟨row, member, rfl, rfl⟩
  now := now

theorem finishes_of_sessions (sessions : after.sessions = store.sessions)
    (now : after.now = store.now) : store.Finishes after where
  toFollows := follows_of_sessions sessions now
  active := by
    intro row member isActive
    rw [sessions] at member
    exact ⟨row, member, isActive, rfl⟩

theorem mem_finishSession {row : SessionRow}
    (member : row ∈ (store.finishSession sessionId status).sessions) :
    ∃ earlier ∈ store.sessions, row.id = earlier.id ∧ row.createdAt = earlier.createdAt ∧
      row.status = if earlier.id = sessionId then status else earlier.status := by
  obtain ⟨earlier, inside, written⟩ := KeyedRows.mem_update member
  refine ⟨earlier, inside, ?_⟩
  rw [written]
  split
  · exact ⟨rfl, rfl, rfl⟩
  · exact ⟨rfl, rfl, rfl⟩

theorem finishes_finishSession (store : Store) (sessionId : SessionId)
    (inactive : status ≠ .active) : store.Finishes (store.finishSession sessionId status) where
  rows := by
    intro row member
    refine ⟨_, List.mem_map_of_mem member, ?_⟩
    split
    · exact ⟨rfl, rfl⟩
    · exact ⟨rfl, rfl⟩
  now := rfl
  active := by
    intro row member isActive
    obtain ⟨earlier, inside, sameId, -, sameStatus⟩ := mem_finishSession member
    rw [isActive] at sameStatus
    split at sameStatus
    · exact absurd sameStatus.symm inactive
    · exact ⟨earlier, inside, sameStatus.symm, sameId.symm⟩

theorem follows_createSession (store : Store) (status : TreasureSessionStatus) (createdAt : Nat) :
    store.Follows (store.createSession status createdAt) where
  rows := fun row member => ⟨row, List.mem_append_left _ member, rfl, rfl⟩
  now := rfl

theorem hasDay_of_follows (follows : store.Follows after) (has : store.HasDay sessionId day) :
    after.HasDay sessionId day := by
  obtain ⟨row, member, isRow, sameDay⟩ := has
  obtain ⟨later, isLater, sameId, sameTime⟩ := follows.rows row member
  refine ⟨later, isLater, sameId.trans isRow, ?_⟩
  rw [sameTime]
  exact sameDay

theorem onlyActive_of_finishes (finishes : store.Finishes after) (only : store.OnlyActive stale) :
    after.OnlyActive stale := by
  intro row member isActive
  obtain ⟨earlier, inside, wasActive, sameId⟩ := finishes.active row member isActive
  rw [only earlier inside wasActive, sameId]

/-- The only active session is finished. -/
theorem onlyActive_of_finished (only : store.OnlyActive (some sessionId))
    (inactive : status ≠ .active) :
    (store.finishSession sessionId status).OnlyActive none := by
  intro row member isActive
  obtain ⟨earlier, inside, -, -, sameStatus⟩ := mem_finishSession member
  rw [isActive] at sameStatus
  split at sameStatus
  · exact absurd sameStatus.symm inactive
  · rename_i different
    have isOnly := only earlier inside sameStatus.symm
    exact absurd (Option.some_inj.mp isOnly).symm different

theorem onlyActive_settle (only : store.OnlyActive stale) :
    (store.settle stale).OnlyActive none := by
  cases stale with
  | none => exact only
  | some sessionId => exact onlyActive_of_finished only TreasureSessionStatus.noConfusion

theorem finishes_settle (store : Store) (stale : Option SessionId) :
    store.Finishes (store.settle stale) := by
  cases stale with
  | none => exact finishes_of_sessions rfl rfl
  | some sessionId =>
      exact finishes_finishSession store sessionId TreasureSessionStatus.noConfusion

theorem length_settle (store : Store) (stale : Option SessionId) :
    (store.settle stale).sessions.length = store.sessions.length := by
  cases stale with
  | none => rfl
  | some sessionId => exact List.length_map _

/-! ### What the sessions keep -/

theorem ids_finishSession (store : Store) (sessionId : SessionId)
    (status : TreasureSessionStatus) :
    (store.finishSession sessionId status).sessions.map SessionRow.id =
      store.sessions.map SessionRow.id :=
  KeyedRows.keys_update fun _ => rfl

theorem regular_finishSession (regular : store.Regular) (sessionId : SessionId)
    (inactive : status ≠ .active) : (store.finishSession sessionId status).Regular := by
  have finishes := finishes_finishSession store sessionId inactive
  refine ⟨⟨?_, ?_⟩, ?_, ?_⟩
  · intro first isFirst second isSecond firstActive secondActive
    obtain ⟨one, isOne, oneActive, oneId⟩ := finishes.active first isFirst firstActive
    obtain ⟨two, isTwo, twoActive, twoId⟩ := finishes.active second isSecond secondActive
    rw [← oneId, ← twoId]
    exact regular.single one isOne two isTwo oneActive twoActive
  · intro application member
    exact hasDay_of_follows finishes.toFollows (regular.sameDay application member)
  · rw [ids_finishSession, regular.numbered]
    exact congrArg List.range (List.length_map _).symm
  · intro row member
    obtain ⟨earlier, inside, -, sameTime, -⟩ := mem_finishSession member
    rw [sameTime]
    exact regular.past earlier inside

theorem regular_settle (regular : store.Regular) (stale : Option SessionId) :
    (store.settle stale).Regular := by
  cases stale with
  | none => exact regular
  | some sessionId =>
      exact regular_finishSession regular sessionId TreasureSessionStatus.noConfusion

/-- A session is created where none is active. -/
theorem regular_createSession (regular : store.Regular) (alone : store.OnlyActive none)
    (status : TreasureSessionStatus) (past : createdAt ≤ store.now) :
    (store.createSession status createdAt).Regular := by
  have older : ∀ row ∈ (store.createSession status createdAt).sessions, row.status = .active →
      row.id = store.sessions.length := by
    intro row member isActive
    rcases List.mem_append.mp member with inside | isNew
    · exact nomatch alone row inside isActive
    · rw [List.mem_singleton.mp isNew]
  refine ⟨⟨?_, ?_⟩, ?_, ?_⟩
  · intro first isFirst second isSecond firstActive secondActive
    exact (older first isFirst firstActive).trans (older second isSecond secondActive).symm
  · intro application member
    exact hasDay_of_follows (follows_createSession store status createdAt)
      (regular.sameDay application member)
  · unfold Store.createSession
    rw [List.map_append, List.length_append, List.length_singleton, List.range_succ,
      regular.numbered]
    rfl
  · intro row member
    rcases List.mem_append.mp member with inside | isNew
    · exact regular.past row inside
    · rw [List.mem_singleton.mp isNew]
      exact past

theorem hasDay_createSession (store : Store) (status : TreasureSessionStatus) (createdAt : Nat) :
    (store.createSession status createdAt).HasDay store.sessions.length (dayStart createdAt) :=
  ⟨_, List.mem_append_right _ (List.mem_singleton_self _), rfl, rfl⟩

theorem regular_apply (regular : store.Regular) (has : store.HasDay sessionId day) :
    (store.apply sessionId day).Regular where
  single := regular.single
  sameDay := by
    intro application member
    rcases List.mem_append.mp member with inside | isNew
    · exact regular.sameDay application inside
    · rw [List.mem_singleton.mp isNew]
      exact has
  numbered := regular.numbered
  past := regular.past

/-! ### What a step does -/

/-- The call knows what it knew, or nothing any more. -/
def Role.Stays (role next : Role) : Prop := next = role ∨ next = .idle

inductive Moves (store : Store) : Role → Store → Role → Prop where
  | quiet {role next : Role} (stays : role.Stays next) : Moves store role store next
  | dates : Moves store .idle store (.dated store.todayStart)
  | finds {day : Nat} {row : SessionRow} (member : row ∈ store.sessions)
      (today : day ≤ row.createdAt) : Moves store (.dated day) store (.pouring day row.id)
  | misses (day : Option Nat) {stale : Option SessionId} (only : store.OnlyActive stale) :
      Moves store (.seeking day) store (.forming stale day)
  | finishes {role next : Role} (sessionId : SessionId) {status : TreasureSessionStatus}
      (inactive : status ≠ .active) (stays : role.Stays next) :
      Moves store role (store.finishSession sessionId status) next
  | rollsOver {stale : SessionId} {day : Option Nat} :
      Moves store (.forming (some stale) day) (store.finishSession stale .completed)
        (.forming none day)
  | creates (day : Option Nat) :
      Moves store (.forming none day) (store.createSession .active store.now)
        (.taking store.sessions.length day)
  | opens {stale : Option SessionId} {day : Nat} :
      Moves store (.forming stale (some day)) store (.founding stale day store.now)
  | pours {day : Nat} {sessionId : SessionId} {next : Role}
      (stays : Role.Stays (.pouring day sessionId) next) :
      Moves store (.pouring day sessionId) (store.apply sessionId day) next
  | commits {work : Work} : Moves store work.role (work.commit store) .idle

theorem getActive_eq_some {row : SessionRow} (found : store.getActive = some row) :
    row ∈ store.sessions ∧ row.status = .active := by
  unfold Store.getActive at found
  have matched := List.find?_some found
  exact ⟨List.mem_of_find?_eq_some found, of_decide_eq_true matched⟩

theorem onlyActive_of_getActive (regular : store.Regular) :
    store.OnlyActive (store.getActive.map SessionRow.id) := by
  intro row member isActive
  cases found : store.getActive with
  | none =>
      have missed := List.find?_eq_none.mp found row member
      exact absurd (decide_eq_true isActive) missed
  | some other =>
      obtain ⟨inside, otherActive⟩ := getActive_eq_some found
      exact congrArg some (regular.single other inside row member otherActive isActive)

theorem onlyActive_of_getActive_none (regular : store.Regular) (none : store.getActive = none) :
    store.OnlyActive .none := by
  have only := onlyActive_of_getActive regular
  rw [none] at only
  exact only

theorem onlyActive_of_getActive_some (regular : store.Regular) {row : SessionRow}
    (found : store.getActive = some row) : store.OnlyActive (some row.id) := by
  have only := onlyActive_of_getActive regular
  rw [found] at only
  exact only

theorem role_takes (caller : Caller) (sessionId : SessionId) :
    (caller.takes sessionId).role = .taking sessionId caller.day := by
  cases caller with
  | gift day => rfl
  | status => rfl
  | reset => rfl

theorem role_next (sweep : Sweep) (rest : List SessionId) : (sweep.next store rest).role = .idle := by
  cases rest with
  | cons sessionId rest => rfl
  | nil =>
      cases sweep with
      | resetRoomTreasure => rfl
      | archiveStaleActiveSessions => rfl

theorem status_ne_active (sweep : Sweep) : sweep.status ≠ .active := by
  cases sweep with
  | resetRoomTreasure => exact TreasureSessionStatus.noConfusion
  | archiveStaleActiveSessions => exact TreasureSessionStatus.noConfusion

/-- Every step is one of these. -/
theorem moves_advance (regular : store.Regular) (reply : Reply) (call : SessionCall)
    (today : ∀ day ∈ call.takesAny, ∀ session ∈ store.getActive, day ≤ session.createdAt) :
    Moves store call.role (call.advance reply store).1 (call.advance reply store).2.role := by
  have completed : TreasureSessionStatus.completed ≠ .active := TreasureSessionStatus.noConfusion
  cases call with
  | autoStarting => exact .quiet (Or.inl rfl)
  | rejoining todayStart =>
      unfold SessionCall.advance
      dsimp only
      cases found : store.getActive with
      | none => exact .misses none (onlyActive_of_getActive_none regular found)
      | some session =>
          dsimp only
          split
          · exact .quiet (Or.inl rfl)
          · exact .misses none (onlyActive_of_getActive_some regular found)
  | rollingOver todayStart stale => exact .rollsOver
  | checkingStarted todayStart =>
      unfold SessionCall.advance
      dsimp only
      split
      · exact .quiet (Or.inr rfl)
      · exact .quiet (Or.inl rfl)
  | readingConfigs =>
      unfold SessionCall.advance
      dsimp only
      split
      · exact .quiet (Or.inl rfl)
      · exact .quiet (Or.inr rfl)
  | startingToday => exact .creates none
  | applyingGift => exact .quiet (Or.inl rfl)
  | deduplicating =>
      unfold SessionCall.advance
      dsimp only
      split
      · exact .quiet (Or.inl rfl)
      · exact .dates
  | checkingEvent day =>
      unfold SessionCall.advance
      dsimp only
      split
      · exact .quiet (Or.inr rfl)
      · exact .quiet (Or.inl rfl)
  | finding caller todayStart =>
      unfold SessionCall.advance
      dsimp only
      cases found : store.getActive with
      | none => exact .misses caller.day (onlyActive_of_getActive_none regular found)
      | some session =>
          cases caller with
          | gift day => exact .finds (getActive_eq_some found).1 (today day rfl session found)
          | status => exact .quiet (Or.inl rfl)
          | reset => exact .quiet (Or.inl rfl)
  | checkingCompleted caller todayStart =>
      unfold SessionCall.advance
      dsimp only
      split
      · exact .quiet (Or.inr rfl)
      · exact .quiet (Or.inl rfl)
  | creating caller =>
      unfold SessionCall.advance
      dsimp only
      rw [role_takes]
      exact .creates caller.day
  | filling day sessionId =>
      unfold SessionCall.advance
      dsimp only
      split
      · exact .pours (Or.inl rfl)
      · exact .pours (Or.inr rfl)
  | leveling day sessionId =>
      unfold SessionCall.advance
      dsimp only
      split
      · exact .finishes sessionId completed (Or.inr rfl)
      · dsimp only
        split
        · exact .quiet (Or.inl rfl)
        · exact .quiet (Or.inr rfl)
  | sendingGift => exact .quiet (Or.inl rfl)
  | deduplicatingSend =>
      unfold SessionCall.advance
      dsimp only
      split
      · exact .quiet (Or.inl rfl)
      · exact .dates
  | looking todayStart =>
      unfold SessionCall.advance
      dsimp only
      cases found : store.getActive with
      | none => exact .misses (some todayStart) (onlyActive_of_getActive_none regular found)
      | some session =>
          dsimp only
          split
          · exact .misses (some todayStart) (onlyActive_of_getActive_some regular found)
          · rename_i isToday
            exact .finds (getActive_eq_some found).1 (Nat.not_lt.mp isToday)
  | retiring todayStart stale => exact .quiet (Or.inl rfl)
  | checkingToday todayStart stale =>
      unfold SessionCall.advance
      dsimp only
      split
      · exact .quiet (Or.inr rfl)
      · exact .quiet (Or.inl rfl)
  | readingEnabled todayStart stale =>
      unfold SessionCall.advance
      dsimp only
      split
      · exact .quiet (Or.inl rfl)
      · exact .quiet (Or.inr rfl)
  | opening todayStart stale => exact .opens
  | settling stale =>
      cases stale with
      | none => exact .quiet (Or.inl rfl)
      | some sessionId => exact .finishes sessionId completed (Or.inl rfl)
  | contributing work =>
      unfold SessionCall.advance
      dsimp only
      split
      · split
        · exact .quiet (Or.inl rfl)
        · exact .quiet (Or.inl rfl)
      · exact .quiet (Or.inl rfl)
  | advancing work =>
      unfold SessionCall.advance
      dsimp only
      split
      · exact .quiet (Or.inl rfl)
      · exact .quiet (Or.inl rfl)
  | committing work => exact .commits
  | collecting sweep =>
      unfold SessionCall.advance
      dsimp only
      rw [role_next]
      exact .quiet (Or.inl rfl)
  | archiving sweep sessionId rest =>
      unfold SessionCall.advance
      dsimp only
      rw [role_next]
      exact .finishes sessionId (status_ne_active sweep) (Or.inl rfl)
  | ended => exact .quiet (Or.inl rfl)

/-! ### What a step keeps -/

theorem dayStart_eq {time later : Nat} (after : dayStart later ≤ time) (past : time ≤ later) :
    dayStart time = dayStart later := by
  have sameDay : dayStart (dayStart later) = dayStart later := by
    have positive : 0 < millisecondsPerDay := by decide
    unfold dayStart
    rw [Nat.mul_div_cancel _ positive]
  have lower := dayStart_mono after
  have upper := dayStart_mono past
  omega

theorem relies_of_finishes (finishes : store.Finishes after) (relies : role.Relies store) :
    role.Relies after := by
  have sameDay : after.todayStart = store.todayStart := congrArg dayStart finishes.now
  cases role with
  | idle => trivial
  | dated day => exact relies.trans sameDay.symm
  | forming stale day =>
      refine ⟨onlyActive_of_finishes finishes relies.1, ?_⟩
      rw [sameDay]
      exact relies.2
  | founding stale day createdAt =>
      refine ⟨onlyActive_of_finishes finishes relies.1, ?_, relies.2.2⟩
      rw [finishes.now]
      exact relies.2.1
  | pouring day sessionId => exact hasDay_of_follows finishes.toFollows relies

/-- A session may be created, unless the call is to create one too. -/
theorem relies_of_follows (follows : store.Follows after) (relies : role.Relies store)
    (unformed : role.forms = false) : role.Relies after := by
  have sameDay : after.todayStart = store.todayStart := congrArg dayStart follows.now
  cases role with
  | idle => trivial
  | dated day => exact relies.trans sameDay.symm
  | forming stale day => cases unformed
  | founding stale day createdAt => cases unformed
  | pouring day sessionId => exact hasDay_of_follows follows relies

theorem relies_of_stays (stays : role.Stays next) (relies : role.Relies store) :
    next.Relies store := by
  rcases stays with rfl | rfl
  · exact relies
  · trivial

theorem forms_of_stays (stays : role.Stays next) (forms : next.forms = true) :
    role.forms = true := by
  rcases stays with rfl | rfl
  · exact forms
  · cases forms

theorem forms_taking (sessionId : SessionId) (day : Option Nat) :
    (Role.taking sessionId day).forms = false := by
  cases day with
  | none => rfl
  | some day => rfl

/-- Not both about to create a session. -/
def Role.Elsewhere (one two : Role) : Prop :=
  one.forms = true → two.forms = false

theorem Role.Elsewhere.symm {one two : Role} (elsewhere : one.Elsewhere two) :
    two.Elsewhere one := by
  intro forms
  cases both : one.forms with
  | false => rfl
  | true =>
      rw [elsewhere both] at forms
      cases forms

structure Keeps (store : Store) (role : Role) (after : Store) (next : Role) : Prop where
  regular : after.Regular
  own : next.Relies after
  others : ∀ other : Role, other.Relies store → role.Elsewhere other →
    (role.forms = false → next.Elsewhere other) → other.Relies after ∧ next.Elsewhere other

/-- Nothing is created. -/
theorem keeps_of_finishes (regular : after.Regular) (finishes : store.Finishes after)
    (own : next.Relies after) (forms : next.forms = true → role.forms = true) :
    Keeps store role after next where
  regular := regular
  own := own
  others := fun _ relies elsewhere _ =>
    ⟨relies_of_finishes finishes relies, fun nextForms => elsewhere (forms nextForms)⟩

theorem finishes_refl (store : Store) : store.Finishes store := finishes_of_sessions rfl rfl

theorem finishes_pour (work : Work) (sessionId : SessionId) (store : Store) :
    store.Finishes (work.pour sessionId store) := by
  unfold Work.pour
  split
  · exact finishes_of_sessions rfl rfl
  · exact finishes_refl store

theorem regular_pour (work : Work) (regular : store.Regular)
    (has : store.HasDay sessionId work.todayStart) : (work.pour sessionId store).Regular := by
  unfold Work.pour
  split
  · exact regular_apply regular has
  · exact regular

theorem Store.Finishes.trans (first : store.Finishes after) (second : after.Finishes last) :
    store.Finishes last where
  toFollows := first.toFollows.trans second.toFollows
  active := by
    intro row member isActive
    obtain ⟨later, isLater, laterActive, laterId⟩ := second.active row member isActive
    obtain ⟨earlier, inside, wasActive, sameId⟩ := first.active later isLater laterActive
    exact ⟨earlier, inside, wasActive, sameId.trans laterId⟩

/-- The commit of a gift that found its session. -/
theorem keeps_of_existing (regular : store.Regular) (work : Work)
    (has : store.HasDay sessionId work.todayStart) :
    Keeps store (.pouring work.todayStart sessionId)
      (work.pour sessionId
        (if work.completed then store.finishSession sessionId .completed else store)) .idle := by
  have completed : TreasureSessionStatus.completed ≠ .active := TreasureSessionStatus.noConfusion
  split
  · have finishes := finishes_finishSession store sessionId completed
    refine keeps_of_finishes ?_ (finishes.trans (finishes_pour _ _ _)) trivial ?_
    · exact regular_pour work (regular_finishSession regular sessionId completed)
        (hasDay_of_follows finishes.toFollows has)
    · exact nofun
  · exact keeps_of_finishes (regular_pour work regular has) (finishes_pour _ _ _) trivial nofun

/-- The commit of a gift that created its session. -/
theorem keeps_of_opened (regular : store.Regular) (work : Work) (only : store.OnlyActive stale)
    (past : createdAt ≤ store.now) (sameDay : dayStart createdAt = work.todayStart)
    (status : TreasureSessionStatus) :
    Keeps store (.founding stale work.todayStart createdAt)
      (work.pour store.sessions.length ((store.settle stale).createSession status createdAt))
      .idle := by
  have finishes := finishes_settle store stale
  have created := follows_createSession (store.settle stale) status createdAt
  refine ⟨?_, trivial, ?_⟩
  · refine regular_pour work ?_ ?_
    · refine regular_createSession (regular_settle regular stale) (onlyActive_settle only) status ?_
      rw [finishes.now]
      exact past
    · have has := hasDay_createSession (store.settle stale) status createdAt
      rw [length_settle, sameDay] at has
      exact has
  · intro other relies elsewhere _
    refine ⟨?_, nofun⟩
    apply relies_of_finishes (finishes_pour _ _ _)
    exact relies_of_follows (finishes.toFollows.trans created) relies (elsewhere rfl)

theorem keeps_of_moves (regular : store.Regular) (relies : role.Relies store)
    (moves : Moves store role after next) : Keeps store role after next := by
  cases moves with
  | quiet stays =>
      exact keeps_of_finishes regular (finishes_refl store) (relies_of_stays stays relies)
        (forms_of_stays stays)
  | dates => exact keeps_of_finishes regular (finishes_refl store) rfl nofun
  | @finds day row member today =>
      refine keeps_of_finishes regular (finishes_refl store) ⟨row, member, rfl, ?_⟩ nofun
      have isToday : day = store.todayStart := relies
      rw [isToday] at today ⊢
      exact dayStart_eq today (regular.past row member)
  | @misses day stale only =>
      refine ⟨regular, ⟨only, ?_⟩, ?_⟩
      · cases day with
        | none => exact nofun
        | some own =>
            intro other isOwn
            rw [← Option.some_inj.mp isOwn]
            exact relies
      · intro other otherRelies _ alone
        refine ⟨otherRelies, alone ?_⟩
        cases day with
        | none => rfl
        | some own => rfl
  | finishes sessionId inactive stays =>
      have finishes := finishes_finishSession store sessionId inactive
      exact keeps_of_finishes (regular_finishSession regular sessionId inactive) finishes
        (relies_of_finishes finishes (relies_of_stays stays relies)) (forms_of_stays stays)
  | @rollsOver stale day =>
      have completed : TreasureSessionStatus.completed ≠ .active :=
        TreasureSessionStatus.noConfusion
      refine keeps_of_finishes (regular_finishSession regular stale completed)
        (finishes_finishSession store stale completed) ⟨?_, relies.2⟩ (fun _ => rfl)
      exact onlyActive_of_finished relies.1 completed
  | creates day =>
      have created := follows_createSession store .active store.now
      refine ⟨regular_createSession regular relies.1 .active (Nat.le_refl _), ?_, ?_⟩
      · cases day with
        | none => trivial
        | some own =>
            have isToday := relies.2 own rfl
            rw [isToday]
            exact hasDay_createSession store .active store.now
      · intro other otherRelies elsewhere _
        refine ⟨relies_of_follows created otherRelies (elsewhere rfl), ?_⟩
        intro forms
        rw [forms_taking] at forms
        cases forms
  | @opens stale day =>
      have isToday := relies.2 day rfl
      exact keeps_of_finishes regular (finishes_refl store)
        ⟨relies.1, Nat.le_refl _, isToday.symm⟩ (fun _ => rfl)
  | @pours day sessionId next stays =>
      have applied : store.Finishes (store.apply sessionId day) := finishes_of_sessions rfl rfl
      exact keeps_of_finishes (regular_apply regular relies) applied
        (relies_of_finishes applied (relies_of_stays stays relies)) (forms_of_stays stays)
  | @commits work =>
      obtain ⟨todayStart, target, poured, advanced, completed⟩ := work
      cases target with
      | existing sessionId => exact keeps_of_existing regular _ relies
      | opened stale createdAt => exact keeps_of_opened regular _ relies.1 relies.2.1 relies.2.2 _

/-! ### Locks -/

theorem locks_takes (caller : Caller) (sessionId : SessionId) :
    ∀ key ∈ (caller.takes sessionId).locks, key ∈ (SessionCall.creating caller).locks := by
  cases caller with
  | gift day => exact fun key held => held
  | status => exact nofun
  | reset => exact nofun

theorem locks_finding (caller : Caller) (todayStart : Nat) :
    (SessionCall.finding caller todayStart).locks = (SessionCall.creating caller).locks := by
  cases caller with
  | gift day => rfl
  | status => rfl
  | reset => rfl

theorem locks_checkingCompleted (caller : Caller) (todayStart : Nat) :
    (SessionCall.checkingCompleted caller todayStart).locks =
      (SessionCall.creating caller).locks := by
  cases caller with
  | gift day => rfl
  | status => rfl
  | reset => rfl

theorem locks_next (sweep : Sweep) (rest : List SessionId) : (sweep.next store rest).locks = [] := by
  cases rest with
  | cons sessionId rest => rfl
  | nil =>
      cases sweep with
      | resetRoomTreasure => rfl
      | archiveStaleActiveSessions => rfl

/-- A call takes no lock but the one it waited for. -/
def Takes (call next : SessionCall) : Prop :=
  ∀ key ∈ next.locks, key ∈ call.awaits ∨ key ∈ call.locks

theorem takes_of_locks {call next : SessionCall} (fewer : ∀ key ∈ next.locks, key ∈ call.locks) :
    Takes call next :=
  fun key held => Or.inr (fewer key held)

theorem takes_of_none {call next : SessionCall} (none : next.locks = []) : Takes call next := by
  intro key held
  rw [none] at held
  cases held

theorem locks_advanced (work : Work) (completed : Bool) :
    ∀ key ∈ ({ work with advanced := true, completed := completed } : Work).locks,
      key ∈ work.awaits ∨ key ∈ work.locks := by
  intro key held
  obtain ⟨todayStart, target, poured, advanced, wasCompleted⟩ := work
  cases target with
  | opened stale createdAt => exact Or.inr held
  | existing sessionId =>
      cases advanced with
      | true => exact Or.inr held
      | false =>
          rcases List.mem_cons.mp held with isRoom | isRow
          · rw [isRoom]
            exact Or.inr List.mem_cons_self
          · rw [List.mem_singleton.mp isRow]
            exact Or.inl rfl

theorem takes_advance (reply : Reply) (store : Store) (call : SessionCall) :
    Takes call (call.advance reply store).2 := by
  have same : ∀ call next : SessionCall, next.locks = call.locks → Takes call next := by
    intro call next same
    apply takes_of_locks
    rw [same]
    exact fun key held => held
  cases call with
  | autoStarting => exact fun key held => Or.inl (congrArg some (List.mem_singleton.mp held).symm)
  | rejoining todayStart =>
      unfold SessionCall.advance
      dsimp only
      split
      · split
        · exact takes_of_none rfl
        · exact same _ _ rfl
      · exact same _ _ rfl
  | rollingOver todayStart stale => exact same _ _ rfl
  | checkingStarted todayStart =>
      unfold SessionCall.advance
      dsimp only
      split
      · exact takes_of_none rfl
      · exact same _ _ rfl
  | readingConfigs =>
      unfold SessionCall.advance
      dsimp only
      split
      · exact same _ _ rfl
      · exact takes_of_none rfl
  | startingToday => exact takes_of_none rfl
  | applyingGift => exact fun key held => Or.inl (congrArg some (List.mem_singleton.mp held).symm)
  | deduplicating =>
      unfold SessionCall.advance
      dsimp only
      split
      · exact takes_of_none rfl
      · exact same _ _ rfl
  | checkingEvent day =>
      unfold SessionCall.advance
      dsimp only
      split
      · exact takes_of_none rfl
      · exact same _ _ rfl
  | finding caller todayStart =>
      unfold SessionCall.advance
      dsimp only
      split
      · apply takes_of_locks
        rw [locks_finding]
        exact locks_takes caller _
      · apply same
        rw [locks_checkingCompleted, locks_finding]
  | checkingCompleted caller todayStart =>
      unfold SessionCall.advance
      dsimp only
      split
      · exact takes_of_none rfl
      · exact same _ _ (locks_checkingCompleted caller todayStart).symm
  | creating caller => exact takes_of_locks (locks_takes caller _)
  | filling day sessionId =>
      unfold SessionCall.advance
      dsimp only
      split
      · exact same _ _ rfl
      · exact takes_of_none rfl
  | leveling day sessionId =>
      unfold SessionCall.advance
      dsimp only
      split
      · exact takes_of_none rfl
      · dsimp only
        split
        · exact same _ _ rfl
        · exact takes_of_none rfl
  | sendingGift => exact fun key held => Or.inl (congrArg some (List.mem_singleton.mp held).symm)
  | deduplicatingSend =>
      unfold SessionCall.advance
      dsimp only
      split
      · exact takes_of_none rfl
      · exact same _ _ rfl
  | looking todayStart =>
      unfold SessionCall.advance
      dsimp only
      split
      · split
        · exact same _ _ rfl
        · exact same _ _ rfl
      · exact same _ _ rfl
  | retiring todayStart stale =>
      intro key held
      rcases List.mem_cons.mp held with isRoom | isRow
      · rw [isRoom]
        exact Or.inr List.mem_cons_self
      · rw [List.mem_singleton.mp isRow]
        exact Or.inl rfl
  | checkingToday todayStart stale =>
      unfold SessionCall.advance
      dsimp only
      split
      · exact same _ _ rfl
      · exact same _ _ rfl
  | readingEnabled todayStart stale =>
      unfold SessionCall.advance
      dsimp only
      split
      · exact same _ _ rfl
      · exact same _ _ rfl
  | opening todayStart stale => exact same _ _ rfl
  | settling stale => exact takes_of_none rfl
  | contributing work =>
      unfold SessionCall.advance
      dsimp only
      split
      · split
        · exact same _ _ rfl
        · exact same _ _ rfl
      · exact same _ _ rfl
  | advancing work =>
      unfold SessionCall.advance
      dsimp only
      split
      · exact locks_advanced work reply.last
      · exact locks_advanced work reply.last
  | committing work => exact takes_of_none rfl
  | collecting sweep => exact takes_of_none (locks_next sweep _)
  | archiving sweep sessionId rest => exact takes_of_none (locks_next sweep rest)
  | ended => exact takes_of_none rfl

/-! ### Runs -/

/-- The calls of one room. -/
def serial : Outline Store SessionCall where
  world := Store.Regular
  asserts := fun store call => call.role.Relies store
  apart := fun one two => Apart SessionCall.locks one two ∧ one.role.Elsewhere two.role

namespace Room

/-- The sessions are in order, and so are the calls. -/
def Sound (room : Room) : Prop := serial.Holds room.store room.calls

variable {room : Room}

theorem Sound.spawn (sound : room.Sound) {call : SessionCall} (idle : call.role = .idle)
    (unlocked : call.locks = []) : (room.spawn call).Sound := by
  refine Outline.Holds.spawn sound ?_ ?_
  · change call.role.Relies room.store
    rw [idle]
    trivial
  · intro other _
    have apart : Apart SessionCall.locks call other := apart_of_none unlocked
    have elsewhere : call.role.Elsewhere other.role := by
      rw [idle]
      exact nofun
    exact ⟨⟨apart, elsewhere⟩, apart.symm, elsewhere.symm⟩

theorem Sound.fail (sound : room.Sound) {position : Nat} {call : SessionCall}
    (found : room.calls[position]? = some call) :
    Room.Sound { room with calls := room.calls.set position .ended } := by
  refine Outline.Holds.goOn sound found sound.world trivial ?_
  intro other _ relies _ _
  have apart : Apart SessionCall.locks .ended other := apart_of_none rfl
  have elsewhere : SessionCall.ended.role.Elsewhere other.role := nofun
  exact ⟨relies, ⟨apart, elsewhere⟩, apart.symm, elsewhere.symm⟩

/-- The lock of the room keeps two calls that hold it apart. -/
theorem unformed_of_locks {call other : SessionCall} (apart : Apart SessionCall.locks call other)
    (locked : other.role.forms = true → .room ∈ call.locks ∧ .room ∈ other.locks) :
    other.role.forms = false := by
  cases forms : other.role.forms with
  | false => rfl
  | true =>
      obtain ⟨one, two⟩ := locked forms
      exact absurd two (apart _ one)

theorem Sound.advance (sound : room.Sound) {position : Nat} {call : SessionCall}
    (found : room.calls[position]? = some call) (reply : Reply) (free : ¬room.Blocked call)
    (punctual : (call.role.forms = false →
        (call.advance reply room.store).2.role.forms = true →
          ∀ other ∈ room.calls, other.role.forms = true →
            .room ∈ call.locks ∧ .room ∈ other.locks) ∧
      ∀ day ∈ call.takesAny, ∀ session ∈ room.store.getActive, day ≤ session.createdAt) :
    Room.Sound
      { store := (call.advance reply room.store).1
        calls := room.calls.set position (call.advance reply room.store).2 } := by
  have relies : call.role.Relies room.store := sound.asserts call (List.mem_of_getElem? found)
  have keeps := keeps_of_moves sound.world relies
    (moves_advance sound.world reply call punctual.2)
  refine Outline.Holds.goOn sound found keeps.regular keeps.own ?_
  intro other member otherRelies callApart _
  have untaken : ∀ key ∈ call.awaits, key ∉ other.locks := by
    intro key awaited held
    apply free
    refine ⟨key, awaited, ?_⟩
    intro isFree
    exact isFree other member held
  have apart : Apart SessionCall.locks (call.advance reply room.store).2 other :=
    callApart.1.of_taken (takes_advance reply room.store call) untaken
  obtain ⟨reliesAfter, elsewhere⟩ := keeps.others other.role otherRelies callApart.2 (by
    intro unformed forms
    exact unformed_of_locks callApart.1 (punctual.1 unformed forms other member))
  exact ⟨reliesAfter, ⟨apart, elsewhere⟩, apart.symm, elsewhere.symm⟩

/-- Time passes, and midnight comes for no gift that has no session yet. -/
theorem Sound.pass (sound : room.Sound) (milliseconds : Nat)
    (punctual : dayStart (room.store.now + milliseconds) = room.store.todayStart ∨
      ∀ call ∈ room.calls, call.role.day = none) :
    Room.Sound { room with store := { room.store with now := room.store.now + milliseconds } } := by
  have regular := sound.world
  refine Outline.Holds.disturb sound ?_ ?_
  · refine ⟨⟨regular.single, regular.sameDay⟩, regular.numbered, ?_⟩
    intro row member
    exact Nat.le_trans (regular.past row member) (Nat.le_add_right _ _)
  · intro call member relies
    change call.role.Relies room.store at relies
    change call.role.Relies { room.store with now := room.store.now + milliseconds }
    have undated : ∀ day, call.role.day = some day →
        dayStart (room.store.now + milliseconds) = room.store.todayStart := by
      intro day isDay
      rcases punctual with sameDay | none
      · exact sameDay
      · rw [none call member] at isDay
        cases isDay
    generalize call.role = role at relies undated
    cases role with
    | idle => trivial
    | dated day => exact relies.trans (undated day rfl).symm
    | forming stale day =>
        refine ⟨relies.1, ?_⟩
        intro own isOwn
        exact (relies.2 own isOwn).trans (undated own isOwn).symm
    | founding stale day createdAt =>
        exact ⟨relies.1, Nat.le_trans relies.2.1 (Nat.le_add_right _ _), relies.2.2⟩
    | pouring day sessionId => exact relies

theorem sound_step (sound : room.Sound) (event : RoomEvent) (punctual : room.Punctual event) :
    (room.step event).Sound := by
  cases event with
  | autoStartTodaySession => exact sound.spawn rfl rfl
  | applyGiftProgress => exact sound.spawn rfl rfl
  | processTreasureContribution => exact sound.spawn rfl rfl
  | getRoomStatus => exact sound.spawn rfl rfl
  | resetRoomTreasure => exact sound.spawn rfl rfl
  | archiveStaleActiveSessions => exact sound.spawn rfl rfl
  | pass milliseconds => exact sound.pass milliseconds punctual
  | resume position reply =>
      unfold step
      dsimp only
      split
      · exact sound
      · rename_i call found
        unfold resume
        split
        · exact sound.fail found
        · split
          · exact sound
          · rename_i free
            exact sound.advance found reply free (punctual call found)

/-- Any calls in any order, and any time between: a room has one active session at most,
and gifts go to a session of their day, when every step is punctual. -/
theorem oneLadder_of_punctual (opening : Room) (regular : opening.store.Regular)
    (idle : opening.calls = []) (events : List RoomEvent)
    (punctual : Runs.Each step Punctual opening events) :
    Runs.Always step (fun room => room.store.OneLadder) opening events := by
  have kept : ∀ (room : Room) (event : RoomEvent), room.Sound → room.Punctual event →
      (room.step event).Sound := fun _ event sound punctual => sound_step sound event punctual
  have sound : opening.Sound := by
    unfold Sound
    rw [idle]
    exact Outline.holds_nil regular
  have always := Runs.always_of_each kept opening sound events punctual
  exact always.imp fun _ sound => sound.world.toOneLadder

end Room

/-! ### Two days of a room -/

def newRoom : Room := { store := { now := 0 } }

theorem regular_newRoom : newRoom.store.Regular where
  single := List.forall_mem_nil _
  sameDay := List.forall_mem_nil _
  numbered := rfl
  past := List.forall_mem_nil _

/-- The call goes on this often, and each box it fills opens. -/
def goOn (position times : Nat) : List RoomEvent :=
  List.replicate times (.resume position { opens := true })

/-- A gift on the first day, and one on the second that finishes the first day's session. -/
def twoDays : List RoomEvent :=
  [.autoStartTodaySession] ++ goOn 0 5 ++ [.applyGiftProgress] ++ goOn 1 6 ++
  [.pass millisecondsPerDay, .processTreasureContribution] ++ goOn 2 10

theorem oneLadder_twoDays :
    Runs.Always Room.step (fun room => room.store.OneLadder) newRoom twoDays :=
  Room.oneLadder_of_punctual newRoom regular_newRoom rfl twoDays (by decide +kernel)

/-- A reset has found no session, and the room starts its day before the reset does. -/
def startedMeanwhile : List RoomEvent :=
  [.resetRoomTreasure, .autoStartTodaySession] ++ goOn 0 3 ++ goOn 1 5 ++ goOn 0 1

/-- The session of the first day is left for a gift of the second. -/
def leftOver : List RoomEvent :=
  [.autoStartTodaySession] ++ goOn 0 5 ++ [.pass millisecondsPerDay, .applyGiftProgress] ++ goOn 1 5

/-- Two sessions are active, and a gift goes to the session of another day. -/
theorem oneLadder_fails :
    ¬Runs.Always Room.step (fun room => room.store.OneLadder) newRoom startedMeanwhile ∧
      ¬Runs.Always Room.step (fun room => room.store.OneLadder) newRoom leftOver := by
  constructor
  · intro always
    have two : (Runs.run Room.step newRoom startedMeanwhile).store.sessions =
        [{ id := 0, createdAt := 0 }, { id := 1, createdAt := 0 }] := by decide +kernel
    have single := always.final.single
    rw [two] at single
    exact absurd (single _ List.mem_cons_self _ (List.mem_cons_of_mem _ List.mem_cons_self) rfl rfl)
      (by decide)
  · intro always
    have only : (Runs.run Room.step newRoom leftOver).store.sessions =
        [{ id := 0, createdAt := 0 }] := by decide +kernel
    have applied : (Runs.run Room.step newRoom leftOver).store.applications =
        [{ sessionId := 0, day := millisecondsPerDay }] := by decide +kernel
    have sameDay := always.final.sameDay
    rw [only, applied] at sameDay
    obtain ⟨row, member, -, isDay⟩ := sameDay _ List.mem_cons_self
    rw [List.mem_singleton.mp member] at isDay
    exact absurd isDay (by decide)

end Soulzaa.Treasure.Days
