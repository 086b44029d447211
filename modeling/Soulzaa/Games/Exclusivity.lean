/-
Where a user is: in one bucket, in one open ready-check, or in the hand of one call.

A user may be in two of them when `joinQueue` adds a caller who has got somewhere since
its checks, and a ready-check that is being dissolved is still stored while its players
are put back.  Nothing else brings a user to two places.
-/

import Soulzaa.Games.ReadyChecks

namespace Soulzaa.Games.Matchmaking

open Interleaving

/-- A ready-check is open until its dissolution begins, or until it is deleted. -/
inductive OpenUntil where
  | dissolution
  | deletion
  deriving DecidableEq, Repr

def Store.Open (store : Store) (till : OpenUntil) (state : ReadyCheckState) : Prop :=
  store.readyChecks state.matchId = some state ∧
    (till = .dissolution → store.outcomesOf state.matchId = [])

instance (store : Store) (till : OpenUntil) (state : ReadyCheckState) :
    Decidable (store.Open till state) :=
  inferInstanceAs (Decidable (_ ∧ _))

structure Store.Exclusive (store : Store) (till : OpenUntil) : Prop where
  oneBucket : ∀ (userId : UserId) (one two : BucketKey), userId ∈ store.queues.members one →
    userId ∈ store.queues.members two → one = two
  oneReadyCheck : ∀ (userId : UserId) (one two : ReadyCheckState), store.Open till one →
    store.Open till two → userId ∈ one.players → userId ∈ two.players → one = two
  notBoth : ∀ (userId : UserId) (bucketKey : BucketKey) (state : ReadyCheckState),
    userId ∈ store.queues.members bucketKey → store.Open till state → userId ∉ state.players

/-- The players in the hand of a call: popped from a bucket, of a ready-check that is about
to be written back, or yet to be put back into the bucket. -/
def Role.carries : Role → List UserId
  | .forming _ players => players
  | .persisting state => state.players
  | .dissolving _ _ players => players
  | _ => []

namespace Matchmaker

/-- The caller of a join is in no other bucket, in no open ready-check, and in no call's
hand. -/
def Unengaged (maker : Matchmaker) (till : OpenUntil) (input : JoinQueueInput) : Prop :=
  (∀ entry ∈ maker.store.queues.entries, entry.member = input.actor →
      entry.key = input.bucketKey) ∧
    (∀ matchId < maker.store.nextMatchId, ∀ state ∈ maker.store.readyChecks matchId,
      maker.store.Open till state → input.actor ∉ state.players) ∧
    ∀ other ∈ maker.calls, input.actor ∉ (other.role maker.config).carries

instance (maker : Matchmaker) (till : OpenUntil) (input : JoinQueueInput) :
    Decidable (maker.Unengaged till input) :=
  inferInstanceAs (Decidable (_ ∧ _ ∧ _))

/-- Calls keep apart at ready-checks, a join adds a caller who is nowhere else, and where a
ready-check is open until it is deleted, nobody is put back before. -/
def Separates (till : OpenUntil) (maker : Matchmaker) (event : MatchmakerEvent) : Prop :=
  maker.KeepsApart event ∧
    ∀ call ∈ maker.goesOn event,
      (∀ input ∈ call.enqueues, maker.Unengaged till input) ∧
        (call.putsBack.isSome = true → till = .dissolution)

instance (till : OpenUntil) (maker : Matchmaker) (event : MatchmakerEvent) :
    Decidable (maker.Separates till event) :=
  inferInstanceAs (Decidable (_ ∧ _))

end Matchmaker

/-! ### The invariant -/

def Store.Distinct (store : Store) : Prop :=
  ∀ matchId state, store.readyChecks matchId = some state → state.players.Nodup

/-- Nowhere, unless in the ready-check that the call is at work on. -/
def Store.Aside (store : Store) (till : OpenUntil) (engaged : Option MatchId) (userId : UserId) :
    Prop :=
  (∀ bucketKey, userId ∉ store.queues.members bucketKey) ∧
    ∀ state, store.Open till state → userId ∈ state.players → engaged = some state.matchId

structure Role.Separate (store : Store) (till : OpenUntil) (role : Role) : Prop where
  distinct : role.carries.Nodup
  aside : ∀ userId ∈ role.carries, store.Aside till role.engaged userId
  chosen : ∀ bucketKey players, role = .choosing bucketKey players →
    players.Nodup ∧ ∀ userId ∈ players, userId ∈ store.queues.members bucketKey
  dissolved : ∀ matchId, role.Dissolves matchId → store.outcomesOf matchId ≠ []

def separating (config : MatchmakingConfig) (till : OpenUntil) : Outline Store QueueCall where
  world := fun store => store.Exclusive till ∧ store.Distinct
  asserts := fun store call => (call.role config).Separate store till
  apart := fun one two => (one.role config).carries.Disjoint (two.role config).carries

/-- Another call, as the locks and the permission of a step leave it. -/
structure Beside (config : MatchmakingConfig) (call other : QueueCall) : Prop where
  locks : Apart QueueCall.locks call other
  unread : ∀ matchId, call.reads = some matchId → (other.role config).engaged ≠ some matchId
  disjoint : (call.role config).carries.Disjoint (other.role config).carries
  unjoined : ∀ input ∈ call.enqueues, input.actor ∉ (other.role config).carries

variable {config : MatchmakingConfig} {till : OpenUntil} {store after : Store}
  {call next other : QueueCall} {role : Role}

/-! ### Fewer places -/

/-- No user is at a new place. -/
structure Store.Shrinks (till : OpenUntil) (store after : Store) : Prop where
  members : ∀ (bucketKey : BucketKey) (userId : UserId),
    userId ∈ after.queues.members bucketKey → userId ∈ store.queues.members bucketKey
  opened : ∀ state, after.Open till state → store.Open till state
  concluded : ∀ matchId, store.outcomesOf matchId ≠ [] → after.outcomesOf matchId ≠ []

theorem shrinks_refl (store : Store) : store.Shrinks till store :=
  ⟨fun _ _ => id, fun _ => id, fun _ => id⟩

theorem shrinks_of_same (same : store.SameMatches after) : store.Shrinks till after where
  members := by
    rw [same.queues]
    exact fun _ _ => id
  opened := by
    unfold Store.Open Store.outcomesOf
    rw [same.readyChecks, same.outcomes]
    exact fun _ => id
  concluded := by
    unfold Store.outcomesOf
    rw [same.outcomes]
    exact fun _ => id

theorem shrinks_of_sortedRemove (store : Store) (bucketKey : BucketKey) (gone : List UserId) :
    store.Shrinks till (store.sortedRemove bucketKey gone) where
  members := fun _ _ member => (SortedSets.mem_members_remove.mp member).1
  opened := fun _ => id
  concluded := fun _ => id

theorem shrinks_of_removed (store : Store) (matchId : MatchId) :
    store.Shrinks till (store.setReadyCheck matchId none) where
  members := fun _ _ => id
  opened := by
    rintro state ⟨stored, unresolved⟩
    by_cases same : state.matchId = matchId
    · rw [same, readyChecks_set_self] at stored
      cases stored
    · rw [readyChecks_set_of_ne same] at stored
      exact ⟨stored, unresolved⟩
  concluded := fun _ => id

theorem outcomesOf_conclude_ne_nil (store : Store) (matchId : MatchId) (outcome : MatchOutcome) :
    (store.conclude matchId outcome).outcomesOf matchId ≠ [] := by
  rw [outcomesOf_conclude_self]
  exact List.append_ne_nil_of_right_ne_nil _ (List.cons_ne_nil _ _)

theorem shrinks_of_conclude (store : Store) (matchId : MatchId) (outcome : MatchOutcome) :
    store.Shrinks till (store.conclude matchId outcome) where
  members := fun _ _ => id
  opened := by
    rintro state ⟨stored, unresolved⟩
    refine ⟨stored, fun early => ?_⟩
    have later := unresolved early
    by_cases same : state.matchId = matchId
    · rw [same] at later
      exact absurd later (outcomesOf_conclude_ne_nil store matchId outcome)
    · rwa [outcomesOf_conclude_of_ne same] at later
  concluded := by
    intro other concluded
    by_cases same : other = matchId
    · rw [same]
      exact outcomesOf_conclude_ne_nil store matchId outcome
    · rwa [outcomesOf_conclude_of_ne same]

theorem exclusive_of_shrinks (exclusive : store.Exclusive till)
    (shrinks : store.Shrinks till after) : after.Exclusive till where
  oneBucket := fun userId one two inOne inTwo =>
    exclusive.oneBucket userId one two (shrinks.members one userId inOne)
      (shrinks.members two userId inTwo)
  oneReadyCheck := fun userId one two openOne openTwo =>
    exclusive.oneReadyCheck userId one two (shrinks.opened one openOne)
      (shrinks.opened two openTwo)
  notBoth := fun userId bucketKey state queued isOpen =>
    exclusive.notBoth userId bucketKey state (shrinks.members bucketKey userId queued)
      (shrinks.opened state isOpen)

theorem aside_of_shrinks {engaged : Option MatchId} {userId : UserId}
    (aside : store.Aside till engaged userId) (shrinks : store.Shrinks till after) :
    after.Aside till engaged userId :=
  ⟨fun bucketKey queued => aside.1 bucketKey (shrinks.members bucketKey userId queued),
    fun state isOpen => aside.2 state (shrinks.opened state isOpen)⟩

theorem separate_of_shrinks (separate : role.Separate store till)
    (shrinks : store.Shrinks till after)
    (stays : ∀ bucketKey players, role = .choosing bucketKey players → ∀ userId ∈ players,
      userId ∈ store.queues.members bucketKey → userId ∈ after.queues.members bucketKey) :
    role.Separate after till where
  distinct := separate.distinct
  aside := fun userId carried => aside_of_shrinks (separate.aside userId carried) shrinks
  chosen := by
    intro bucketKey players chose
    obtain ⟨distinct, queued⟩ := separate.chosen bucketKey players chose
    exact ⟨distinct, fun userId member =>
      stays bucketKey players chose userId member (queued userId member)⟩
  dissolved := fun matchId dissolves =>
    shrinks.concluded matchId (separate.dissolved matchId dissolves)

/-- Roles with nobody in hand. -/
def Role.isFree : Role → Bool
  | .idle => true
  | .joined _ => true
  | .filled _ => true
  | .finalizing _ => true
  | .starting _ => true
  | _ => false

theorem separate_of_free (free : role.isFree = true) : role.Separate store till := by
  cases role with
  | idle | joined | filled | finalizing | starting =>
      exact
        { distinct := List.nodup_nil
          aside := nofun
          chosen := nofun
          dissolved := nofun }
  | _ => cases free

theorem carries_of_free (free : role.isFree = true) : role.carries = [] := by
  cases role with
  | idle | joined | filled | finalizing | starting => rfl
  | _ => cases free

/-! ### A new place -/

section Queueing

variable {bucketKey : BucketKey} {userId : UserId}

theorem exclusive_of_setScore (exclusive : store.Exclusive till)
    (elsewhere : ∀ other, userId ∈ store.queues.members other → other = bucketKey)
    (unchecked : ∀ state, store.Open till state → userId ∉ state.players) (now : Int) :
    (store.setScore bucketKey userId now).Exclusive till where
  oneBucket := by
    intro user one two inOne inTwo
    rcases SortedSets.mem_members_setScore.mp inOne with ⟨rfl, rfl⟩ | wasOne
    · rcases SortedSets.mem_members_setScore.mp inTwo with ⟨rfl, _⟩ | wasTwo
      · rfl
      · exact (elsewhere two wasTwo).symm
    · rcases SortedSets.mem_members_setScore.mp inTwo with ⟨rfl, rfl⟩ | wasTwo
      · exact elsewhere one wasOne
      · exact exclusive.oneBucket user one two wasOne wasTwo
  oneReadyCheck := exclusive.oneReadyCheck
  notBoth := by
    intro user other state queued isOpen
    rcases SortedSets.mem_members_setScore.mp queued with ⟨_, rfl⟩ | wasQueued
    · exact unchecked state isOpen
    · exact exclusive.notBoth user other state wasQueued isOpen

theorem separate_of_setScore (separate : role.Separate store till)
    (uncarried : userId ∉ role.carries) (now : Int) :
    role.Separate (store.setScore bucketKey userId now) till where
  distinct := separate.distinct
  aside := by
    intro user carried
    obtain ⟨unqueued, only⟩ := separate.aside user carried
    refine ⟨fun key queued => ?_, only⟩
    rcases SortedSets.mem_members_setScore.mp queued with ⟨_, rfl⟩ | wasQueued
    · exact uncarried carried
    · exact unqueued key wasQueued
  chosen := by
    intro key players chose
    obtain ⟨distinct, queued⟩ := separate.chosen key players chose
    exact ⟨distinct, fun user member =>
      SortedSets.mem_members_setScore.mpr (Or.inr (queued user member))⟩
  dissolved := separate.dissolved

end Queueing

section Checking

variable {state : ReadyCheckState}

theorem open_of_set {found : ReadyCheckState}
    (isOpen : (store.setReadyCheck state.matchId (some state)).Open till found) :
    found = state ∨ found.matchId ≠ state.matchId ∧ store.Open till found := by
  obtain ⟨stored, unresolved⟩ := isOpen
  by_cases same : found.matchId = state.matchId
  · rw [same, readyChecks_set_self] at stored
    exact Or.inl (Option.some_inj.mp stored).symm
  · rw [readyChecks_set_of_ne same] at stored
    exact Or.inr ⟨same, stored, unresolved⟩

theorem exclusive_of_set (exclusive : store.Exclusive till)
    (aside : ∀ userId ∈ state.players, store.Aside till (some state.matchId) userId) :
    (store.setReadyCheck state.matchId (some state)).Exclusive till where
  oneBucket := exclusive.oneBucket
  oneReadyCheck := by
    have onlyHere : ∀ (userId : UserId) (found : ReadyCheckState), userId ∈ state.players →
        userId ∈ found.players → store.Open till found → found.matchId = state.matchId :=
      fun userId found here there isOpen =>
        (Option.some_inj.mp ((aside userId here).2 found isOpen there)).symm
    intro userId one two openOne openTwo inOne inTwo
    rcases open_of_set openOne with rfl | ⟨differs, wasOne⟩
    · rcases open_of_set openTwo with rfl | ⟨differs, wasTwo⟩
      · rfl
      · exact absurd (onlyHere userId two inOne inTwo wasTwo) differs
    · rcases open_of_set openTwo with rfl | ⟨_, wasTwo⟩
      · exact absurd (onlyHere userId one inTwo inOne wasOne) differs
      · exact exclusive.oneReadyCheck userId one two wasOne wasTwo inOne inTwo
  notBoth := by
    intro userId bucketKey found queued isOpen
    rcases open_of_set isOpen with rfl | ⟨_, wasOpen⟩
    · exact fun player => (aside userId player).1 bucketKey queued
    · exact exclusive.notBoth userId bucketKey found queued wasOpen

theorem separate_of_set (separate : role.Separate store till)
    (uncarried : ∀ userId ∈ state.players, userId ∉ role.carries) :
    role.Separate (store.setReadyCheck state.matchId (some state)) till where
  distinct := separate.distinct
  aside := by
    intro userId carried
    obtain ⟨unqueued, only⟩ := separate.aside userId carried
    refine ⟨unqueued, fun found isOpen player => ?_⟩
    rcases open_of_set isOpen with rfl | ⟨_, wasOpen⟩
    · exact absurd carried (uncarried userId player)
    · exact only found wasOpen player
  chosen := separate.chosen
  dissolved := separate.dissolved

theorem distinct_of_set (distinct : store.Distinct) (players : state.players.Nodup) :
    (store.setReadyCheck state.matchId (some state)).Distinct := by
  intro matchId found stored
  by_cases same : matchId = state.matchId
  · rw [same, readyChecks_set_self] at stored
    cases stored
    exact players
  · rw [readyChecks_set_of_ne same] at stored
    exact distinct matchId found stored

theorem distinct_of_removed (distinct : store.Distinct) (matchId : MatchId) :
    (store.setReadyCheck matchId none).Distinct := by
  intro other found stored
  by_cases same : other = matchId
  · rw [same, readyChecks_set_self] at stored
    cases stored
  · rw [readyChecks_set_of_ne same] at stored
    exact distinct other found stored

/-- The players of an open ready-check are nowhere else. -/
theorem aside_of_open (exclusive : store.Exclusive till) (isOpen : store.Open till state)
    {userId : UserId} (player : userId ∈ state.players) :
    store.Aside till (some state.matchId) userId := by
  refine ⟨fun bucketKey queued => ?_, fun found foundOpen also => ?_⟩
  · exact exclusive.notBoth userId bucketKey state queued isOpen player
  · rw [exclusive.oneReadyCheck userId state found isOpen foundOpen player also]

/-- Nor are they in the hand of a call that is not at work on it. -/
theorem disjoint_of_open (isOpen : store.Open till state) (separate : role.Separate store till)
    (elsewhere : role.engaged ≠ some state.matchId) : state.players.Disjoint role.carries := by
  intro userId player carried
  exact elsewhere ((separate.aside userId carried).2 state isOpen player)

end Checking

/-! ### One step -/

/-- What a step does for the outline. -/
structure Parts (config : MatchmakingConfig) (till : OpenUntil) (store after : Store)
    (call next : QueueCall) : Prop where
  exclusive : after.Exclusive till
  distinct : after.Distinct
  own : (next.role config).Separate after till
  others : ∀ other, Beside config call other → (other.role config).Separate store till →
    (other.role config).Separate after till ∧
      (next.role config).carries.Disjoint (other.role config).carries

/-- Where a step leaves the chosen players of the other calls in their bucket. -/
def Stays (config : MatchmakingConfig) (store after : Store) (call : QueueCall) : Prop :=
  ∀ other, Beside config call other → ∀ bucketKey players,
    other.role config = .choosing bucketKey players → ∀ userId ∈ players,
      userId ∈ store.queues.members bucketKey → userId ∈ after.queues.members bucketKey

theorem stays_of_queues (same : after.queues = store.queues) : Stays config store after call := by
  intro other beside bucketKey players chose userId member
  rw [same]
  exact id

theorem stays_of_sortedRemove {bucketKey : BucketKey} (locked : .bucket bucketKey ∈ call.locks)
    (gone : List UserId) : Stays config store (store.sortedRemove bucketKey gone) call := by
  intro other beside chosenKey players chose userId member queued
  refine SortedSets.mem_members_remove.mpr ⟨queued, fun removed => ?_⟩
  have otherLocked := locked_bucket chose
  rw [removed.1] at otherLocked
  exact beside.locks _ locked otherLocked

/-- No user is at a new place, and the call has nobody new in hand. -/
theorem parts_of_shrinks (exclusive : store.Exclusive till) (shrinks : store.Shrinks till after)
    (stays : Stays config store after call) (distinct : after.Distinct)
    (own : (next.role config).Separate after till)
    (fewer : ∀ userId ∈ (next.role config).carries, userId ∈ (call.role config).carries) :
    Parts config till store after call next where
  exclusive := exclusive_of_shrinks exclusive shrinks
  distinct := distinct
  own := own
  others := by
    intro other beside separate
    refine ⟨separate_of_shrinks separate shrinks (stays other beside), ?_⟩
    exact fun userId carried => beside.disjoint (fewer userId carried)

theorem parts_of_free (exclusive : store.Exclusive till) (shrinks : store.Shrinks till after)
    (stays : Stays config store after call) (distinct : after.Distinct)
    (free : (next.role config).isFree = true) : Parts config till store after call next := by
  refine parts_of_shrinks exclusive shrinks stays distinct (separate_of_free free) ?_
  rw [carries_of_free free]
  exact nofun

theorem parts_of_quiet (exclusive : store.Exclusive till) (distinct : store.Distinct)
    (separate : (call.role config).Separate store till) (same : store.SameMatches after)
    (role : next.role config = call.role config) : Parts config till store after call next := by
  have shrinks : store.Shrinks till after := shrinks_of_same same
  refine parts_of_shrinks exclusive shrinks (stays_of_queues same.queues) ?_ ?_ ?_
  · unfold Store.Distinct
    rw [same.readyChecks]
    exact distinct
  · rw [role]
    apply separate_of_shrinks separate shrinks
    rw [same.queues]
    exact fun _ _ _ _ _ => id
  · rw [role]
    exact fun _ => id

theorem parts_of_join (exclusive : store.Exclusive till) (distinct : store.Distinct)
    {input : JoinQueueInput} {now : Int} (isCall : call = .queueing input now)
    (elsewhere : ∀ other, input.actor ∈ store.queues.members other → other = input.bucketKey)
    (unchecked : ∀ state, store.Open till state → input.actor ∉ state.players) :
    Parts config till store (store.setScore input.bucketKey input.actor now) call
      (.pointing input now) where
  exclusive := exclusive_of_setScore exclusive elsewhere unchecked now
  distinct := distinct
  own := separate_of_free rfl
  others := by
    intro other beside separate
    have isJoin : input ∈ call.enqueues := by
      rw [isCall]
      rfl
    exact ⟨separate_of_setScore separate (beside.unjoined input isJoin) now,
      List.disjoint_nil_left _⟩

theorem parts_of_choose (exclusive : store.Exclusive till) (distinct : store.Distinct)
    {bucketKey : BucketKey}
    (role : next.role config =
      .choosing bucketKey (store.queues.lowest bucketKey bucketKey.size)) :
    Parts config till store store call next := by
  refine parts_of_shrinks exclusive (shrinks_refl store) (stays_of_queues rfl) distinct ?_ ?_
  · rw [role]
    constructor
    · exact List.nodup_nil
    · exact nofun
    · rintro _ _ chose
      cases chose
      exact ⟨SortedSets.nodup_lowest _ _ _, fun _ => SortedSets.mem_of_lowest⟩
    · exact nofun
  · rw [role]
    exact nofun

theorem parts_of_pop (exclusive : store.Exclusive till) (distinct : store.Distinct)
    {bucketKey : BucketKey} {players : List UserId}
    (separate : (call.role config).Separate store till)
    (chose : call.role config = .choosing bucketKey players)
    (role : next.role config = .forming bucketKey players) :
    Parts config till store (store.sortedRemove bucketKey players) call next := by
  obtain ⟨playersDistinct, queued⟩ := separate.chosen bucketKey players chose
  have shrinks : store.Shrinks till (store.sortedRemove bucketKey players) :=
    shrinks_of_sortedRemove store bucketKey players
  constructor
  · exact exclusive_of_shrinks exclusive shrinks
  · exact distinct
  · rw [role]
    constructor
    · exact playersDistinct
    · intro userId member
      refine ⟨fun other stillQueued => ?_, fun state isOpen player => ?_⟩
      · obtain ⟨wasQueued, notRemoved⟩ := SortedSets.mem_members_remove.mp stillQueued
        have same := exclusive.oneBucket userId other bucketKey wasQueued (queued userId member)
        exact notRemoved ⟨same, member⟩
      · exact absurd player
          (exclusive.notBoth userId bucketKey state (queued userId member) isOpen)
    · exact nofun
    · exact nofun
  · intro other beside otherSeparate
    constructor
    · exact separate_of_shrinks otherSeparate shrinks
        (stays_of_sortedRemove (locked_bucket chose) players other beside)
    · rw [role]
      intro userId member carried
      exact (otherSeparate.aside userId carried).1 bucketKey (queued userId member)

theorem parts_of_opened (exclusive : store.Exclusive till) (distinct : store.Distinct)
    {state : ReadyCheckState} (separate : (call.role config).Separate store till)
    (forms : call.role config = .forming state.bucketKey state.players)
    (role : next.role config = .idle) :
    Parts config till store (store.openReadyCheck state) call next := by
  have carried : (call.role config).carries = state.players := congrArg Role.carries forms
  have aside : ∀ userId ∈ state.players, store.Aside till (some state.matchId) userId := by
    intro userId player
    obtain ⟨unqueued, only⟩ := separate.aside userId (carried ▸ player)
    rw [forms] at only
    exact ⟨unqueued, fun found isOpen also => nomatch only found isOpen also⟩
  -- The next id to be given out is of no account here.
  have counted : Store.Shrinks till (store.setReadyCheck state.matchId (some state))
      (store.openReadyCheck state) := ⟨fun _ _ => id, fun _ => id, fun _ => id⟩
  constructor
  · exact exclusive_of_shrinks (exclusive_of_set exclusive aside) counted
  · exact distinct_of_set distinct (carried ▸ separate.distinct)
  · rw [role]
    exact separate_of_free rfl
  · intro other beside otherSeparate
    constructor
    · have apart : ∀ userId ∈ state.players, userId ∉ (other.role config).carries :=
        carried ▸ beside.disjoint
      exact separate_of_shrinks (separate_of_set otherSeparate apart) counted
        fun _ _ _ _ _ => id
    · rw [role]
      exact List.disjoint_nil_left _

theorem parts_of_persist (exclusive : store.Exclusive till) (distinct : store.Distinct)
    {state : ReadyCheckState} (separate : (call.role config).Separate store till)
    (persists : call.role config = .persisting state) (role : next.role config = .idle) :
    Parts config till store (store.setReadyCheck state.matchId (some state)) call next := by
  rw [persists] at separate
  constructor
  · exact exclusive_of_set exclusive separate.aside
  · exact distinct_of_set distinct separate.distinct
  · rw [role]
    exact separate_of_free rfl
  · intro other beside otherSeparate
    have apart := beside.disjoint
    rw [persists] at apart
    rw [role]
    exact ⟨separate_of_set otherSeparate apart, List.disjoint_nil_left _⟩

theorem accept_players (state : ReadyCheckState) (actor : UserId) :
    (state.accept actor).players = state.players := by
  unfold ReadyCheckState.accept
  split <;> rfl

theorem parts_of_accept (exclusive : store.Exclusive till) (distinct : store.Distinct)
    {state : ReadyCheckState} (actor : UserId) (isOpen : store.Open till state)
    (reads : call.reads = some state.matchId)
    (role : next.role config = .persisting (state.accept actor) ∨
      next.role config = .finalizing state.matchId) :
    Parts config till store store call next := by
  rcases role with persists | finalizes
  · have carried : (next.role config).carries = state.players := by
      rw [persists]
      exact accept_players state actor
    have engaged : (next.role config).engaged = some state.matchId := by
      rw [persists]
      exact congrArg some (accept_matchId state actor)
    constructor
    · exact exclusive
    · exact distinct
    · constructor
      · rw [carried]
        exact distinct _ state isOpen.1
      · rw [carried, engaged]
        exact fun _ player => aside_of_open exclusive isOpen player
      · rw [persists]
        exact nofun
      · rw [persists]
        exact nofun
    · intro other beside separate
      refine ⟨separate, ?_⟩
      rw [carried]
      exact disjoint_of_open isOpen separate (beside.unread _ reads)
  · apply parts_of_free exclusive (shrinks_refl store) (stays_of_queues rfl) distinct
    rw [finalizes]
    rfl

theorem parts_of_dissolve (exclusive : store.Exclusive till) (distinct : store.Distinct)
    (dissolution : Dissolution) (isOpen : store.Open till dissolution.state)
    (reads : call.reads = some dissolution.state.matchId)
    (role : next.role config = dissolution.role config dissolution.state.players) :
    Parts config till store (store.conclude dissolution.state.matchId .dissolved) call next := by
  have shrinks : store.Shrinks till (store.conclude dissolution.state.matchId .dissolved) :=
    shrinks_of_conclude store _ _
  have ofPlayers : ∀ userId ∈ (next.role config).carries, userId ∈ dissolution.state.players := by
    intro userId carried
    rw [role] at carried
    exact (List.mem_filter.mp carried).1
  constructor
  · exact exclusive_of_shrinks exclusive shrinks
  · exact distinct
  · constructor
    · rw [role]
      exact (distinct _ dissolution.state isOpen.1).filter _
    · intro userId carried
      have aside := aside_of_open exclusive isOpen (ofPlayers userId carried)
      rw [role]
      exact aside_of_shrinks aside shrinks
    · rw [role]
      exact nofun
    · rw [role]
      rintro _ rfl
      exact outcomesOf_conclude_ne_nil store _ _
  · intro other beside separate
    constructor
    · exact separate_of_shrinks separate shrinks fun _ _ _ _ _ => id
    · intro userId carried
      exact disjoint_of_open isOpen separate (beside.unread _ reads) (ofPlayers userId carried)

/-- A player is put back who is in no open ready-check any more. -/
theorem parts_of_requeue (exclusive : store.Exclusive till) (distinct : store.Distinct)
    {dissolution : Dissolution} {playerId : UserId} {rest : List UserId}
    (separate : (call.role config).Separate store till)
    (isCall : call = .requeueing dissolution playerId rest) (early : till = .dissolution)
    (role : next.role config = dissolution.role config rest) :
    Parts config till store
      (store.setScore dissolution.state.bucketKey playerId dissolution.now) call next := by
  have isDissolving : call.role config =
      .dissolving dissolution.state.matchId dissolution.state.bucketKey
        (playerId :: rest.filter (dissolution.requeues config)) := by
    rw [isCall]
    rfl
  rw [isDissolving] at separate
  obtain ⟨unqueued, only⟩ := separate.aside playerId List.mem_cons_self
  have concluded := separate.dissolved dissolution.state.matchId rfl
  obtain ⟨notLater, later⟩ := List.nodup_cons.mp separate.distinct
  have nextSeparate : (next.role config).Separate store till := by
    rw [role]
    exact
      { distinct := later
        aside := fun userId carried => separate.aside userId (List.mem_cons_of_mem _ carried)
        chosen := nofun
        dissolved := separate.dissolved }
  constructor
  · apply exclusive_of_setScore exclusive
    · exact fun other queued => absurd queued (unqueued other)
    · intro state isOpen player
      have isMatch := Option.some_inj.mp (only state isOpen player)
      rw [isMatch] at concluded
      exact concluded (isOpen.2 early)
  · exact distinct
  · apply separate_of_setScore nextSeparate
    rw [role]
    exact notLater
  · intro other beside otherSeparate
    have apart := beside.disjoint
    rw [isDissolving] at apart
    constructor
    · exact separate_of_setScore otherSeparate (apart List.mem_cons_self) _
    · rw [role]
      exact fun userId carried => apart (List.mem_cons_of_mem _ carried)

theorem parts_of_effect (effect : Effect config store call after next)
    (exclusive : store.Exclusive till) (distinct : store.Distinct) (keyed : store.Keyed)
    (separate : (call.role config).Separate store till)
    (unresolved : ∀ matchId, call.reads = some matchId → store.readyChecks matchId ≠ none →
      store.outcomesOf matchId = [])
    (elsewhere : ∀ input ∈ call.enqueues, ∀ other, input.actor ∈ store.queues.members other →
      other = input.bucketKey)
    (unchecked : ∀ input ∈ call.enqueues, ∀ state, store.Open till state →
      input.actor ∉ state.players)
    (early : call.putsBack.isSome = true → till = .dissolution) :
    Parts config till store after call next := by
  have openAt : ∀ {matchId : MatchId} {state : ReadyCheckState}, call.reads = some matchId →
      store.readyChecks matchId = some state →
        store.Open till state ∧ call.reads = some state.matchId := by
    intro matchId state reads stored
    have isMatch := keyed matchId state stored
    have isStored : store.readyChecks matchId ≠ none := by
      rw [stored]
      exact nofun
    rw [← isMatch] at reads stored isStored
    exact ⟨⟨stored, fun _ => unresolved _ reads isStored⟩, reads⟩
  have freeOf : ∀ {role : Role}, next.role config = role → role.isFree = true →
      (next.role config).isFree = true := by
    intro role isRole free
    rw [isRole]
    exact free
  cases effect with
  | quiet same role => exact parts_of_quiet exclusive distinct separate same role
  | join input now isCall =>
      have isJoin : input ∈ call.enqueues := by
        rw [isCall]
        rfl
      exact parts_of_join exclusive distinct isCall (elsewhere input isJoin)
        (unchecked input isJoin)
  | wait bucketKey isJoined few role =>
      exact parts_of_free exclusive (shrinks_refl store) (stays_of_queues rfl) distinct
        (freeOf role rfl)
  | fill bucketKey isJoined full role =>
      exact parts_of_free exclusive (shrinks_refl store) (stays_of_queues rfl) distinct
        (freeOf role rfl)
  | choose bucketKey isFull role => exact parts_of_choose exclusive distinct role
  | pop bucketKey players chose role =>
      exact parts_of_pop exclusive distinct separate chose role
  | opened state new forms role => exact parts_of_opened exclusive distinct separate forms role
  | eject bucketKey gone isIdle locked role =>
      exact parts_of_free exclusive (shrinks_of_sortedRemove store _ _)
        (stays_of_sortedRemove locked gone) distinct (freeOf role rfl)
  | accept matchId actor state isIdle reads stored role =>
      obtain ⟨isOpen, readsIt⟩ := openAt reads stored
      exact parts_of_accept exclusive distinct actor isOpen readsIt role
  | persist state persists role =>
      exact parts_of_persist exclusive distinct separate persists role
  | close matchId finalizes role =>
      exact parts_of_free exclusive (shrinks_of_removed store _) (stays_of_queues rfl)
        (distinct_of_removed distinct _) (freeOf role rfl)
  | start matchId starts role =>
      exact parts_of_free exclusive (shrinks_of_conclude store _ _) (stays_of_queues rfl)
        distinct (freeOf role rfl)
  | dissolve matchId dissolution isIdle reads stored role =>
      obtain ⟨isOpen, readsIt⟩ := openAt reads stored
      exact parts_of_dissolve exclusive distinct dissolution isOpen readsIt role
  | requeue dissolution playerId rest isCall role =>
      have putsBack : call.putsBack.isSome = true := by
        rw [isCall]
        rfl
      exact parts_of_requeue exclusive distinct separate isCall (early putsBack) role
  | discard matchId bucketKey dissolves role =>
      exact parts_of_free exclusive (shrinks_of_removed store _) (stays_of_queues rfl)
        (distinct_of_removed distinct _) (freeOf role rfl)

/-! ### Runs -/

namespace Matchmaker

variable {maker : Matchmaker}

structure Orderly (maker : Matchmaker) (till : OpenUntil) : Prop where
  sound : maker.Sound
  holds : (separating maker.config till).Holds maker.store maker.calls

theorem Orderly.spawn (orderly : maker.Orderly till) {call : QueueCall} (noLocks : call.locks = [])
    (isIdle : call.role maker.config = .idle) : (maker.spawn call).Orderly till where
  sound := orderly.sound.spawn noLocks isIdle
  holds := by
    have carried : (call.role maker.config).carries = [] := congrArg Role.carries isIdle
    apply orderly.holds.spawn
    · change (call.role maker.config).Separate maker.store till
      rw [isIdle]
      exact separate_of_free rfl
    · intro other member
      change (call.role maker.config).carries.Disjoint _ ∧
        List.Disjoint _ (call.role maker.config).carries
      rw [carried]
      exact ⟨List.disjoint_nil_left _, List.disjoint_nil_right _⟩

/-- No user is at a new place, whatever has become of the store. -/
theorem Orderly.disturb (orderly : maker.Orderly till) {after : Store}
    (sound : ({ maker with store := after } : Matchmaker).Sound)
    (shrinks : maker.store.Shrinks till after) (distinct : after.Distinct)
    (queues : after.queues = maker.store.queues) :
    ({ maker with store := after } : Matchmaker).Orderly till where
  sound := sound
  holds := by
    apply orderly.holds.disturb
    · exact ⟨exclusive_of_shrinks orderly.holds.world.1 shrinks, distinct⟩
    · intro call _ separate
      apply separate_of_shrinks separate shrinks
      rw [queues]
      exact fun _ _ _ _ _ => id

theorem Orderly.fail (orderly : maker.Orderly till) {position : Nat} {call : QueueCall}
    (found : maker.calls[position]? = some call)
    (keeps : ∀ matchId, ¬(call.role maker.config).Dissolves matchId) :
    ({ maker with calls := maker.calls.set position call.caught } : Matchmaker).Orderly till where
  sound := orderly.sound.fail found keeps
  holds := by
    have isIdle : call.caught.role maker.config = .idle := role_caught call
    have carried : (call.caught.role maker.config).carries = [] := congrArg Role.carries isIdle
    apply orderly.holds.goOn found orderly.holds.world
    · change (call.caught.role maker.config).Separate maker.store till
      rw [isIdle]
      exact separate_of_free rfl
    · intro other member separate _ _
      refine ⟨separate, ?_⟩
      change (call.caught.role maker.config).carries.Disjoint _ ∧
        List.Disjoint _ (call.caught.role maker.config).carries
      rw [carried]
      exact ⟨List.disjoint_nil_left _, List.disjoint_nil_right _⟩

theorem Orderly.advance (orderly : maker.Orderly till) {position : Nat} {call : QueueCall}
    (found : maker.calls[position]? = some call) (free : ¬maker.Blocked call)
    (undrained : maker.Undrained call)
    (unengaged : ∀ input ∈ call.enqueues, maker.Unengaged till input)
    (early : call.putsBack.isSome = true → till = .dissolution) {after : Store} {next : QueueCall}
    (effect : Effect maker.config maker.store call after next) (relocks : Relocks call next) :
    ({ maker with
       store := after
       calls := maker.calls.set position next } : Matchmaker).Orderly till where
  sound := orderly.sound.advance found free undrained effect relocks
  holds := by
    have regular := orderly.sound.holds.world
    have separate := orderly.holds.asserts call (List.mem_of_getElem? found)
    have parts : Parts maker.config till maker.store after call next := by
      apply parts_of_effect effect orderly.holds.world.1 orderly.holds.world.2 regular.keyed separate
      · exact fun matchId reads stored => orderly.sound.unresolved found undrained reads stored
      · intro input isJoin other queued
        obtain ⟨entry, stored, rfl, isActor⟩ := SortedSets.mem_members.mp queued
        exact (unengaged input isJoin).1 entry stored isActor
      · intro input isJoin state isOpen
        exact (unengaged input isJoin).2.1 state.matchId (regular.stored _ state isOpen.1) state
          isOpen.1 isOpen
      · exact early
    apply orderly.holds.goOn_at found ⟨parts.exclusive, parts.distinct⟩ parts.own
    intro place other differs foundOther otherSeparate disjoint _
    have member : other ∈ maker.calls := List.mem_of_getElem? foundOther
    have apart := orderly.sound.holds.apart position place call other found foundOther differs.symm
    have beside : Beside maker.config call other :=
      { locks := apart.1
        unread := fun matchId reads =>
          unengaged_of_reads reads apart.1 (undrained matchId reads other member)
        disjoint := disjoint
        unjoined := fun input isJoin => (unengaged input isJoin).2.2 other member }
    obtain ⟨kept, nextDisjoint⟩ := parts.others other beside otherSeparate
    exact ⟨kept, nextDisjoint, fun _ there here => nextDisjoint here there⟩

theorem orderly_step (orderly : maker.Orderly till) (event : MatchmakerEvent)
    (separates : maker.Separates till event) : (maker.step event).Orderly till := by
  obtain ⟨keepsApart, admits⟩ := separates
  have distinct := orderly.holds.world.2
  have sound := sound_step orderly.sound event keepsApart
  cases event with
  | joinQueue input => exact orderly.spawn rfl rfl
  | leaveQueue actor => exact orderly.spawn rfl rfl
  | acceptMatch actor matchId => exact orderly.spawn rfl rfl
  | declineMatch actor matchId => exact orderly.spawn rfl rfl
  | sweepExpiredReadyChecks now => exact orderly.spawn rfl rfl
  | sweepStaleQueueEntries now => exact orderly.spawn rfl rfl
  | drainMatchmaking => exact orderly.spawn rfl rfl
  | expireMatchUser userId =>
      exact orderly.disturb sound (shrinks_of_same ⟨rfl, rfl, rfl, rfl⟩) distinct rfl
  | expireReadyUser userId =>
      exact orderly.disturb sound (shrinks_of_same ⟨rfl, rfl, rfl, rfl⟩) distinct rfl
  | expireReadyCheck matchId =>
      exact orderly.disturb sound (shrinks_of_removed _ matchId)
        (distinct_of_removed distinct matchId) rfl
  | resume position reply =>
      unfold step
      dsimp only
      split
      · exact orderly
      rename_i call found
      obtain ⟨whenFails, whenReads⟩ := keepsApart call found
      unfold resume
      split
      · rename_i fails
        apply orderly.fail found
        intro matchId dissolves
        exact whenFails fails matchId (engaged_of_dissolves dissolves) dissolves
      · rename_i goesOn
        split
        · exact orderly
        · rename_i free
          have undrained : maker.Undrained call :=
            fun matchId reads => whenReads (eq_false_of_ne_true goesOn) matchId reads
          have isNext : call ∈ maker.goesOn (.resume position reply) := by
            unfold Matchmaker.goesOn
            dsimp only
            rw [if_neg goesOn]
            exact found
          obtain ⟨unengaged, early⟩ := admits call isNext
          exact orderly.advance found free undrained unengaged early (effect_advance _ _ _)
            (relocks_advance orderly.sound.holds.world.keyed _ _)

/-- Any joins into any buckets, accepts, declines, sweeps and drains, in any order: when
calls keep apart at ready-checks and a join adds a caller who is nowhere else, each user is
in one bucket or one open ready-check at most.  For ready-checks that are open until they
are deleted, nobody may be put back before. -/
theorem exclusive_of_separates (till : OpenUntil) (opening : Matchmaker)
    (isOpening : opening.Opening) (exclusive : opening.store.Exclusive till)
    (distinct : opening.store.Distinct) (events : List MatchmakerEvent)
    (separates : Runs.Each step (Separates till) opening events) :
    Runs.Always step (fun maker => maker.store.Exclusive till) opening events := by
  have kept : ∀ (maker : Matchmaker) (event : MatchmakerEvent), maker.Orderly till →
      maker.Separates till event → (maker.step event).Orderly till :=
    fun _ event orderly separates => orderly_step orderly event separates
  have orderly : opening.Orderly till :=
    { sound := sound_of_opening isOpening
      holds := by
        rw [isOpening.calls]
        exact Outline.holds_nil ⟨exclusive, distinct⟩ }
  have always := Runs.always_of_each kept opening orderly events separates
  exact always.imp fun _ orderly => orderly.holds.world.1

end Matchmaker

theorem exclusive_emptyStore (till : OpenUntil) : emptyStore.Exclusive till where
  oneBucket := fun _ _ _ queued => absurd queued List.not_mem_nil
  oneReadyCheck := fun _ _ _ isOpen => nomatch isOpen.1
  notBoth := fun _ _ _ queued => absurd queued List.not_mem_nil

theorem distinct_emptyStore : emptyStore.Distinct := nofun

/-- Bob declines, alice is put back, and bob joins again. -/
def declined : List MatchmakerEvent :=
  matched ++ [.declineMatch "bob" 0] ++ goOn 3 12 ++
  [.joinQueue { actor := "bob", bucketKey := duel }] ++ goOn 4 18

theorem exclusive_declined :
    Runs.Always Matchmaker.step (fun maker => maker.store.Exclusive .dissolution) emptyMatchmaker
      declined :=
  Matchmaker.exclusive_of_separates .dissolution emptyMatchmaker opening_emptyMatchmaker
    (exclusive_emptyStore .dissolution) distinct_emptyStore declined (by decide +kernel)

def stakedDuel : BucketKey := { duel with stake := 10 }

/-- Alice joins twice, and both calls have checked before either adds her. -/
def joinedTwice : List MatchmakerEvent :=
  [.joinQueue { actor := "alice", bucketKey := duel },
    .joinQueue { actor := "alice", bucketKey := stakedDuel }] ++
  goOn 0 2 ++ goOn 1 2 ++ goOn 0 2 ++ goOn 1 2

/-- She is in two buckets. -/
theorem exclusive_fails_when_joinedTwice :
    ¬Runs.Always Matchmaker.step (fun maker => maker.store.Exclusive .dissolution)
      emptyMatchmaker joinedTwice := by
  intro always
  have both : "alice" ∈
        (Runs.run Matchmaker.step emptyMatchmaker joinedTwice).store.queues.members duel ∧
      "alice" ∈
        (Runs.run Matchmaker.step emptyMatchmaker joinedTwice).store.queues.members stakedDuel := by
    decide +kernel
  have same := always.final.oneBucket "alice" duel stakedDuel both.1 both.2
  exact absurd same (by decide)

end Soulzaa.Games.Matchmaking
