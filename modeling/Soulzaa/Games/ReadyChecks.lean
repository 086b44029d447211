/-
What becomes of a ready-check.  While no drain is at work on it together with another
call, and a dissolution that has begun removes it, it is started or dissolved at most
once.
-/

import Soulzaa.Games.MatchmakingSteps
import Soulzaa.Lib.Runs

namespace Soulzaa.Games.Matchmaking

open Interleaving

/-- At most one of the two, and at most once. -/
def Store.ResolvedOnce (store : Store) : Prop :=
  ∀ matchId, (store.outcomesOf matchId).length ≤ 1

def Role.Dissolves (matchId : MatchId) : Role → Prop
  | .dissolving dissolved _ _ => dissolved = matchId
  | _ => False

instance (matchId : MatchId) : (role : Role) → Decidable (role.Dissolves matchId)
  | .dissolving dissolved _ _ => inferInstanceAs (Decidable (dissolved = matchId))
  | .idle => inferInstanceAs (Decidable False)
  | .joined _ => inferInstanceAs (Decidable False)
  | .filled _ => inferInstanceAs (Decidable False)
  | .choosing _ _ => inferInstanceAs (Decidable False)
  | .forming _ _ => inferInstanceAs (Decidable False)
  | .persisting _ => inferInstanceAs (Decidable False)
  | .finalizing _ => inferInstanceAs (Decidable False)
  | .starting _ => inferInstanceAs (Decidable False)

/-- Where a call reads a ready-check that another is at work on, neither is a drain; and
a dissolution does not fail before the ready-check is gone. -/
def Matchmaker.KeepsApart (maker : Matchmaker) : MatchmakerEvent → Prop
  | .resume position reply =>
      ∀ call ∈ maker.calls[position]?,
        (reply.fails = true →
          ∀ matchId ∈ (call.role maker.config).engaged,
            ¬(call.role maker.config).Dissolves matchId) ∧
        (reply.fails = false → ∀ matchId ∈ call.reads, ∀ other ∈ maker.calls,
          (other.role maker.config).engaged = some matchId →
            call.drains = false ∧ other.drains = false)
  | _ => True

instance (maker : Matchmaker) : (event : MatchmakerEvent) → Decidable (maker.KeepsApart event)
  | .resume position _ => inferInstanceAs (Decidable (∀ call ∈ maker.calls[position]?, _ ∧ _))
  | .joinQueue _ => inferInstanceAs (Decidable True)
  | .leaveQueue _ => inferInstanceAs (Decidable True)
  | .acceptMatch _ _ => inferInstanceAs (Decidable True)
  | .declineMatch _ _ => inferInstanceAs (Decidable True)
  | .sweepExpiredReadyChecks _ => inferInstanceAs (Decidable True)
  | .sweepStaleQueueEntries _ => inferInstanceAs (Decidable True)
  | .drainMatchmaking => inferInstanceAs (Decidable True)
  | .expireMatchUser _ => inferInstanceAs (Decidable True)
  | .expireReadyUser _ => inferInstanceAs (Decidable True)
  | .expireReadyCheck _ => inferInstanceAs (Decidable True)

/-! ### The invariant -/

structure Store.Regular (store : Store) : Prop where
  keyed : store.Keyed
  stored : ∀ matchId state, store.readyChecks matchId = some state → matchId < store.nextMatchId
  concluded : ∀ matchId, store.outcomesOf matchId ≠ [] → matchId < store.nextMatchId
  once : store.ResolvedOnce

/-- What a call relies on, of the ready-check it is at work on. -/
def Role.Relies (store : Store) : Role → Prop
  | .persisting state =>
      store.outcomesOf state.matchId = [] ∧ state.matchId < store.nextMatchId
  | .finalizing matchId => store.outcomesOf matchId = [] ∧ matchId < store.nextMatchId
  | .starting matchId =>
      (store.outcomesOf matchId = [] ∧ matchId < store.nextMatchId) ∧
        store.readyChecks matchId = none
  | .dissolving matchId _ _ => matchId < store.nextMatchId
  | _ => True

/-- Not both at work on one ready-check. -/
def Role.Elsewhere (one two : Role) : Prop :=
  ∀ matchId, one.engaged = some matchId → two.engaged ≠ some matchId

def resolving (config : MatchmakingConfig) : Outline Store QueueCall where
  world := Store.Regular
  asserts := fun store call => (call.role config).Relies store
  apart := fun one two =>
    Apart QueueCall.locks one two ∧ (one.role config).Elsewhere (two.role config)

structure Matchmaker.Sound (maker : Matchmaker) : Prop where
  holds : (resolving maker.config).Holds maker.store maker.calls
  /-- What is dissolved and still stored is being removed. -/
  removed : ∀ matchId, maker.store.readyChecks matchId ≠ none →
    maker.store.outcomesOf matchId ≠ [] →
      ∃ call ∈ maker.calls, (call.role maker.config).Dissolves matchId

theorem engaged_of_dissolves {role : Role} {matchId : MatchId} (dissolves : role.Dissolves matchId) :
    role.engaged = some matchId := by
  cases role with
  | dissolving dissolved bucketKey players => exact congrArg some dissolves
  | _ => cases dissolves

theorem Role.Elsewhere.symm {one two : Role} (elsewhere : one.Elsewhere two) :
    two.Elsewhere one :=
  fun matchId here there => elsewhere matchId there here

theorem elsewhere_of_none {one two : Role} (none : one.engaged = none) : one.Elsewhere two := by
  intro matchId here
  rw [none] at here
  cases here

/-! ### Outcomes and stored ready-checks -/

variable {store after : Store}

theorem outcomesOf_conclude_self (store : Store) (matchId : MatchId) (outcome : MatchOutcome) :
    (store.conclude matchId outcome).outcomesOf matchId =
      store.outcomesOf matchId ++ [outcome] := by
  unfold Store.outcomesOf Store.conclude
  dsimp only
  rw [List.filter_append, List.filter_singleton, decide_eq_true rfl, List.map_append]
  rfl

theorem outcomesOf_conclude_of_ne {matchId other : MatchId} (different : other ≠ matchId)
    (outcome : MatchOutcome) :
    (store.conclude matchId outcome).outcomesOf other = store.outcomesOf other := by
  unfold Store.outcomesOf Store.conclude
  dsimp only
  rw [List.filter_append, List.filter_singleton, decide_eq_false (Ne.symm different)]
  simp

theorem readyChecks_set_self (store : Store) (matchId : MatchId)
    (state : Option ReadyCheckState) :
    (store.setReadyCheck matchId state).readyChecks matchId = state :=
  Function.update_self _ _ _

theorem readyChecks_set_of_ne {matchId other : MatchId} (different : other ≠ matchId)
    (state : Option ReadyCheckState) :
    (store.setReadyCheck matchId state).readyChecks other = store.readyChecks other :=
  Function.update_of_ne different _ _

/-- Ready-checks and outcomes are the same, whatever has become of the queues. -/
structure Store.SameChecks (store after : Store) : Prop where
  readyChecks : after.readyChecks = store.readyChecks
  outcomes : after.outcomes = store.outcomes
  nextMatchId : after.nextMatchId = store.nextMatchId

theorem Store.SameMatches.checks (same : store.SameMatches after) : store.SameChecks after :=
  ⟨same.readyChecks, same.outcomes, same.nextMatchId⟩

theorem relies_of_same {role : Role} (relies : role.Relies store) (same : store.SameChecks after) :
    role.Relies after := by
  cases role with
  | persisting state | finalizing matchId | starting matchId =>
      unfold Role.Relies Store.outcomesOf at relies ⊢
      simpa only [same.outcomes, same.nextMatchId, same.readyChecks] using relies
  | dissolving matchId bucketKey players =>
      unfold Role.Relies at relies ⊢
      rw [same.nextMatchId]
      exact relies
  | _ => trivial

theorem regular_of_same (regular : store.Regular) (same : store.SameChecks after) :
    after.Regular := by
  have outcomes : ∀ matchId, after.outcomesOf matchId = store.outcomesOf matchId := by
    intro matchId
    unfold Store.outcomesOf
    rw [same.outcomes]
  constructor
  · unfold Store.Keyed
    rw [same.readyChecks]
    exact regular.keyed
  · rw [same.readyChecks, same.nextMatchId]
    exact regular.stored
  · intro matchId
    rw [outcomes, same.nextMatchId]
    exact regular.concluded matchId
  · intro matchId
    rw [outcomes]
    exact regular.once matchId

/-- Of a ready-check that nobody else is at work on: it goes, or comes back. -/
theorem relies_of_set {role : Role} (relies : role.Relies store) {matchId : MatchId}
    (elsewhere : role.engaged ≠ some matchId) (state : Option ReadyCheckState) :
    role.Relies (store.setReadyCheck matchId state) := by
  cases role with
  | starting other =>
      refine ⟨relies.1, ?_⟩
      rw [readyChecks_set_of_ne fun same => elsewhere (congrArg some same)]
      exact relies.2
  | persisting state => exact relies
  | finalizing other => exact relies
  | dissolving other bucketKey players => exact relies
  | _ => trivial

theorem relies_of_removed {role : Role} (relies : role.Relies store) (matchId : MatchId) :
    role.Relies (store.setReadyCheck matchId none) := by
  cases role with
  | starting other =>
      refine ⟨relies.1, ?_⟩
      by_cases same : other = matchId
      · rw [same]
        exact readyChecks_set_self store matchId none
      · rw [readyChecks_set_of_ne same]
        exact relies.2
  | persisting state => exact relies
  | finalizing other => exact relies
  | dissolving other bucketKey players => exact relies
  | _ => trivial

theorem relies_of_conclude {role : Role} (relies : role.Relies store) {matchId : MatchId}
    (elsewhere : role.engaged ≠ some matchId) (outcome : MatchOutcome) :
    role.Relies (store.conclude matchId outcome) := by
  cases role with
  | persisting state =>
      have different : state.matchId ≠ matchId := fun same => elsewhere (congrArg some same)
      refine ⟨?_, relies.2⟩
      rw [outcomesOf_conclude_of_ne different]
      exact relies.1
  | finalizing other =>
      have different : other ≠ matchId := fun same => elsewhere (congrArg some same)
      refine ⟨?_, relies.2⟩
      rw [outcomesOf_conclude_of_ne different]
      exact relies.1
  | starting other =>
      have different : other ≠ matchId := fun same => elsewhere (congrArg some same)
      refine ⟨⟨?_, relies.1.2⟩, relies.2⟩
      rw [outcomesOf_conclude_of_ne different]
      exact relies.1.1
  | dissolving other bucketKey players => exact relies
  | _ => trivial

theorem regular_of_set (regular : store.Regular) {matchId : MatchId}
    {state : Option ReadyCheckState} (isMatch : ∀ next ∈ state, next.matchId = matchId)
    (below : matchId < store.nextMatchId) : (store.setReadyCheck matchId state).Regular := by
  constructor
  · intro other stored found
    by_cases same : other = matchId
    · rw [same, readyChecks_set_self] at found
      exact (isMatch stored found).trans same.symm
    · rw [readyChecks_set_of_ne same] at found
      exact regular.keyed other stored found
  · intro other stored found
    by_cases same : other = matchId
    · rw [same]
      exact below
    · rw [readyChecks_set_of_ne same] at found
      exact regular.stored other stored found
  · exact regular.concluded
  · exact regular.once

theorem regular_of_removed (regular : store.Regular) (matchId : MatchId) :
    (store.setReadyCheck matchId none).Regular := by
  have stored : ∀ other state, (store.setReadyCheck matchId none).readyChecks other = some state →
      store.readyChecks other = some state := by
    intro other state found
    by_cases same : other = matchId
    · rw [same, readyChecks_set_self] at found
      cases found
    · rwa [readyChecks_set_of_ne same] at found
  exact
    { keyed := fun other state found => regular.keyed other state (stored other state found)
      stored := fun other state found => regular.stored other state (stored other state found)
      concluded := regular.concluded
      once := regular.once }

theorem regular_of_conclude (regular : store.Regular) {matchId : MatchId}
    (unresolved : store.outcomesOf matchId = []) (below : matchId < store.nextMatchId)
    (outcome : MatchOutcome) : (store.conclude matchId outcome).Regular := by
  constructor
  · exact regular.keyed
  · exact regular.stored
  · intro other concluded
    by_cases same : other = matchId
    · rw [same]
      exact below
    · rw [outcomesOf_conclude_of_ne same] at concluded
      exact regular.concluded other concluded
  · intro other
    by_cases same : other = matchId
    · rw [same, outcomesOf_conclude_self, unresolved]
      exact Nat.le_refl 1
    · rw [outcomesOf_conclude_of_ne same]
      exact regular.once other

theorem regular_of_opened (regular : store.Regular) {state : ReadyCheckState}
    (new : state.matchId = store.nextMatchId) : (store.openReadyCheck state).Regular := by
  constructor
  · intro other stored found
    change (store.setReadyCheck state.matchId (some state)).readyChecks other = _ at found
    by_cases same : other = state.matchId
    · rw [same, readyChecks_set_self] at found
      cases found
      exact same.symm
    · rw [readyChecks_set_of_ne same] at found
      exact regular.keyed other stored found
  · intro other stored found
    change (store.setReadyCheck state.matchId (some state)).readyChecks other = _ at found
    by_cases same : other = state.matchId
    · rw [same, new]
      exact Nat.lt_succ_self _
    · rw [readyChecks_set_of_ne same] at found
      exact Nat.lt_succ_of_lt (regular.stored other stored found)
  · exact fun other concluded => Nat.lt_succ_of_lt (regular.concluded other concluded)
  · exact regular.once

/-- An id not given out yet is nobody's. -/
theorem relies_of_opened {role : Role} (relies : role.Relies store) {state : ReadyCheckState}
    (new : state.matchId = store.nextMatchId) : role.Relies (store.openReadyCheck state) := by
  cases role with
  | persisting other => exact ⟨relies.1, Nat.lt_succ_of_lt relies.2⟩
  | finalizing other => exact ⟨relies.1, Nat.lt_succ_of_lt relies.2⟩
  | starting other =>
      refine ⟨⟨relies.1.1, Nat.lt_succ_of_lt relies.1.2⟩, ?_⟩
      have different : other ≠ state.matchId := by
        intro same
        have below := relies.1.2
        rw [same, new] at below
        exact Nat.lt_irrefl _ below
      exact (readyChecks_set_of_ne different (some state)).trans relies.2
  | dissolving other bucketKey players => exact Nat.lt_succ_of_lt relies
  | _ => trivial

/-! ### One step -/

/-- What a step does for the outline, locks aside. -/
structure Advances (config : MatchmakingConfig) (store after : Store) (call next : QueueCall) :
    Prop where
  regular : after.Regular
  own : (next.role config).Relies after
  others : ∀ role : Role, role.Relies store → (call.role config).Elsewhere role →
    (∀ matchId, call.reads = some matchId → store.readyChecks matchId ≠ none →
      role.engaged ≠ some matchId) → role.Relies after
  engages : ∀ matchId, (next.role config).engaged = some matchId →
    (call.role config).engaged = some matchId ∨
      call.reads = some matchId ∧ store.readyChecks matchId ≠ none
  removed : ∀ matchId, after.readyChecks matchId ≠ none → after.outcomesOf matchId ≠ [] →
    (next.role config).Dissolves matchId ∨
      store.readyChecks matchId ≠ none ∧ store.outcomesOf matchId ≠ [] ∧
        ¬(call.role config).Dissolves matchId

variable {config : MatchmakingConfig} {call next : QueueCall}

/-- Roles that have no ready-check in hand. -/
theorem relies_of_unengaged {role : Role} (none : role.engaged = none) : role.Relies store := by
  cases role with
  | persisting | finalizing | starting | dissolving => cases none
  | _ => trivial

theorem not_dissolves_of_unengaged {role : Role} (none : role.engaged = none) (matchId : MatchId) :
    ¬role.Dissolves matchId := by
  intro dissolves
  rw [engaged_of_dissolves dissolves] at none
  cases none

theorem advances_of_same (regular : store.Regular) (same : store.SameChecks after)
    (relies : (next.role config).Relies store)
    (engages : ∀ matchId, (next.role config).engaged = some matchId →
      (call.role config).engaged = some matchId ∨
        call.reads = some matchId ∧ store.readyChecks matchId ≠ none)
    (dissolves : ∀ matchId, (call.role config).Dissolves matchId →
      (next.role config).Dissolves matchId) : Advances config store after call next where
  regular := regular_of_same regular same
  own := relies_of_same relies same
  others := fun _ relies _ _ => relies_of_same relies same
  engages := engages
  removed := by
    intro matchId stored concluded
    rw [same.readyChecks] at stored
    unfold Store.outcomesOf at concluded
    rw [same.outcomes] at concluded
    by_cases isDissolving : (call.role config).Dissolves matchId
    · exact Or.inl (dissolves matchId isDissolving)
    · exact Or.inr ⟨stored, concluded, isDissolving⟩

/-- A step between two roles that have no ready-check in hand. -/
theorem advances_of_unengaged (regular : store.Regular) (same : store.SameChecks after)
    (before : (call.role config).engaged = none) (later : (next.role config).engaged = none) :
    Advances config store after call next := by
  apply advances_of_same regular same (relies_of_unengaged later)
  · intro matchId engaged
    rw [later] at engaged
    cases engaged
  · exact fun matchId dissolves => absurd dissolves (not_dissolves_of_unengaged before matchId)

theorem advances_of_removed (regular : store.Regular) {matchId : MatchId}
    (own : (next.role config).Relies (store.setReadyCheck matchId none))
    (same : ∀ other, (next.role config).engaged = some other →
      (call.role config).engaged = some other)
    (only : ∀ other, (call.role config).Dissolves other → other = matchId) :
    Advances config store (store.setReadyCheck matchId none) call next where
  regular := regular_of_removed regular matchId
  own := own
  others := fun _ relies _ _ => relies_of_removed relies matchId
  engages := fun other engaged => Or.inl (same other engaged)
  removed := by
    intro other stored concluded
    by_cases isMatch : other = matchId
    · rw [isMatch, readyChecks_set_self] at stored
      exact absurd rfl stored
    · rw [readyChecks_set_of_ne isMatch] at stored
      exact Or.inr ⟨stored, concluded, fun dissolves => isMatch (only other dissolves)⟩

theorem accept_matchId (state : ReadyCheckState) (actor : UserId) :
    (state.accept actor).matchId = state.matchId := by
  unfold ReadyCheckState.accept
  split <;> rfl

theorem advances_of_opened (regular : store.Regular) {state : ReadyCheckState}
    (new : state.matchId = store.nextMatchId)
    (before : (call.role config).engaged = none) (later : (next.role config).engaged = none) :
    Advances config store (store.openReadyCheck state) call next where
  regular := regular_of_opened regular new
  own := relies_of_unengaged later
  others := fun _ relies _ _ => relies_of_opened relies new
  engages := by
    intro matchId engaged
    rw [later] at engaged
    cases engaged
  removed := by
    intro matchId stored concluded
    have different : matchId ≠ state.matchId := by
      intro same
      have below := regular.concluded matchId concluded
      rw [same, new] at below
      exact Nat.lt_irrefl _ below
    have wasStored : store.readyChecks matchId ≠ none :=
      (readyChecks_set_of_ne different (some state)) ▸ stored
    exact Or.inr ⟨wasStored, concluded, not_dissolves_of_unengaged before matchId⟩

theorem advances_of_accept (regular : store.Regular) {matchId : MatchId} {state : ReadyCheckState}
    (actor : UserId) (isIdle : call.role config = .idle) (reads : call.reads = some matchId)
    (stored : store.readyChecks matchId = some state)
    (unresolved : store.outcomesOf matchId = [])
    (role : next.role config = .persisting (state.accept actor) ∨
      next.role config = .finalizing state.matchId) :
    Advances config store store call next := by
  have isMatch := regular.keyed matchId state stored
  have below := regular.stored matchId state stored
  have isStored : store.readyChecks matchId ≠ none := by
    rw [stored]
    exact nofun
  apply advances_of_same regular ⟨rfl, rfl, rfl⟩
  · rcases role with persists | finalizes
    · have accepted : (state.accept actor).matchId = matchId :=
        (accept_matchId state actor).trans isMatch
      rw [persists]
      exact ⟨accepted ▸ unresolved, accepted ▸ below⟩
    · rw [finalizes]
      exact ⟨isMatch ▸ unresolved, isMatch ▸ below⟩
  · intro other engaged
    have isOther : matchId = other := by
      rcases role with persists | finalizes
      · rw [persists] at engaged
        exact (isMatch.symm.trans (accept_matchId state actor).symm).trans (Option.some_inj.mp engaged)
      · rw [finalizes] at engaged
        exact isMatch.symm.trans (Option.some_inj.mp engaged)
    rw [← isOther]
    exact Or.inr ⟨reads, isStored⟩
  · intro other dissolves
    rw [isIdle] at dissolves
    cases dissolves

theorem advances_of_persist (regular : store.Regular) {state : ReadyCheckState}
    (persists : call.role config = .persisting state)
    (relies : (call.role config).Relies store) (role : next.role config = .idle) :
    Advances config store (store.setReadyCheck state.matchId (some state)) call next := by
  rw [persists] at relies
  have engaged : (call.role config).engaged = some state.matchId := by
    rw [persists]
    rfl
  have unengaged : (next.role config).engaged = none := congrArg Role.engaged role
  constructor
  · refine regular_of_set regular ?_ relies.2
    intro next isNext
    cases isNext
    rfl
  · exact relies_of_unengaged unengaged
  · exact fun other otherRelies elsewhere _ =>
      relies_of_set otherRelies (elsewhere state.matchId engaged) _
  · intro matchId isEngaged
    rw [unengaged] at isEngaged
    cases isEngaged
  · intro matchId stored concluded
    by_cases same : matchId = state.matchId
    · rw [same] at concluded
      exact absurd relies.1 concluded
    · rw [readyChecks_set_of_ne same] at stored
      refine Or.inr ⟨stored, concluded, ?_⟩
      rw [persists]
      exact id

theorem advances_of_close (regular : store.Regular) {matchId : MatchId}
    (finalizes : call.role config = .finalizing matchId)
    (relies : (call.role config).Relies store) (role : next.role config = .starting matchId) :
    Advances config store (store.setReadyCheck matchId none) call next := by
  rw [finalizes] at relies
  apply advances_of_removed regular
  · rw [role]
    exact ⟨relies, readyChecks_set_self store matchId none⟩
  · intro other engaged
    rw [role] at engaged
    rw [finalizes]
    exact engaged
  · intro other dissolves
    rw [finalizes] at dissolves
    cases dissolves

theorem advances_of_start (regular : store.Regular) {matchId : MatchId}
    (starts : call.role config = .starting matchId) (relies : (call.role config).Relies store)
    (role : next.role config = .idle) :
    Advances config store (store.conclude matchId .started) call next := by
  rw [starts] at relies
  have engaged : (call.role config).engaged = some matchId := by
    rw [starts]
    rfl
  have unengaged : (next.role config).engaged = none := congrArg Role.engaged role
  constructor
  · exact regular_of_conclude regular relies.1.1 relies.1.2 _
  · exact relies_of_unengaged unengaged
  · exact fun other otherRelies elsewhere _ =>
      relies_of_conclude otherRelies (elsewhere matchId engaged) _
  · intro other isEngaged
    rw [unengaged] at isEngaged
    cases isEngaged
  · intro other stored concluded
    have different : other ≠ matchId := by
      intro same
      rw [same] at stored
      exact stored relies.2
    rw [outcomesOf_conclude_of_ne different] at concluded
    refine Or.inr ⟨stored, concluded, ?_⟩
    rw [starts]
    exact id

theorem advances_of_dissolve (regular : store.Regular) {matchId : MatchId}
    (dissolution : Dissolution) (isIdle : call.role config = .idle)
    (reads : call.reads = some matchId)
    (stored : store.readyChecks matchId = some dissolution.state)
    (unresolved : store.outcomesOf matchId = [])
    (role : next.role config = dissolution.role config dissolution.state.players) :
    Advances config store (store.conclude dissolution.state.matchId .dissolved) call next := by
  have below := regular.stored matchId dissolution.state stored
  have isStored : store.readyChecks matchId ≠ none := by
    rw [stored]
    exact nofun
  have engages : (next.role config).engaged = some matchId := by
    rw [role, ← regular.keyed matchId dissolution.state stored]
    rfl
  have dissolves : (next.role config).Dissolves matchId := by
    rw [role]
    exact regular.keyed matchId dissolution.state stored
  rw [regular.keyed matchId dissolution.state stored]
  constructor
  · exact regular_of_conclude regular unresolved below _
  · rw [role]
    unfold Dissolution.role Role.Relies
    rw [regular.keyed matchId dissolution.state stored]
    exact below
  · exact fun other relies _ others => relies_of_conclude relies (others matchId reads isStored) _
  · intro other isEngaged
    rw [engages] at isEngaged
    rw [← Option.some_inj.mp isEngaged]
    exact Or.inr ⟨reads, isStored⟩
  · intro other otherStored concluded
    by_cases same : other = matchId
    · rw [same]
      exact Or.inl dissolves
    · rw [outcomesOf_conclude_of_ne same] at concluded
      refine Or.inr ⟨otherStored, concluded, ?_⟩
      rw [isIdle]
      exact id

theorem advances_of_requeue (regular : store.Regular) {matchId : MatchId} {bucketKey : BucketKey}
    {playerId : UserId} {rest : List UserId} (now : Int)
    (dissolves : call.role config = .dissolving matchId bucketKey (playerId :: rest))
    (relies : (call.role config).Relies store)
    (role : next.role config = .dissolving matchId bucketKey rest) :
    Advances config store (store.setScore bucketKey playerId now) call next := by
  rw [dissolves] at relies
  refine advances_of_same regular ⟨rfl, rfl, rfl⟩ ?_ ?_ ?_
  · rw [role]
    exact relies
  · intro other engaged
    rw [role] at engaged
    rw [dissolves]
    exact Or.inl engaged
  · intro other isDissolving
    rw [dissolves] at isDissolving
    rw [role]
    exact isDissolving

theorem advances_of_discard (regular : store.Regular) {matchId : MatchId} {bucketKey : BucketKey}
    (dissolves : call.role config = .dissolving matchId bucketKey [])
    (role : next.role config = .idle) :
    Advances config store (store.setReadyCheck matchId none) call next := by
  have unengaged : (next.role config).engaged = none := congrArg Role.engaged role
  apply advances_of_removed regular
  · exact relies_of_unengaged unengaged
  · intro other engaged
    rw [unengaged] at engaged
    cases engaged
  · intro other isDissolving
    rw [dissolves] at isDissolving
    exact isDissolving.symm

theorem advances_of_effect (effect : Effect config store call after next)
    (regular : store.Regular) (relies : (call.role config).Relies store)
    (unresolved : ∀ matchId, call.reads = some matchId → store.readyChecks matchId ≠ none →
      store.outcomesOf matchId = []) : Advances config store after call next := by
  have unresolvedAt : ∀ {matchId : MatchId} {state : ReadyCheckState},
      call.reads = some matchId → store.readyChecks matchId = some state →
        store.outcomesOf matchId = [] := by
    intro matchId state reads stored
    apply unresolved matchId reads
    rw [stored]
    exact nofun
  cases effect with
  | quiet same role =>
      apply advances_of_same regular same.checks
      · rw [role]
        exact relies
      · intro matchId engaged
        rw [role] at engaged
        exact Or.inl engaged
      · intro matchId dissolves
        rw [role]
        exact dissolves
  | join input now isCall =>
      rw [isCall]
      exact advances_of_unengaged regular ⟨rfl, rfl, rfl⟩ rfl rfl
  | wait bucketKey isJoined few role =>
      exact advances_of_unengaged regular ⟨rfl, rfl, rfl⟩ (congrArg Role.engaged isJoined)
        (congrArg Role.engaged role)
  | fill bucketKey isJoined full role =>
      exact advances_of_unengaged regular ⟨rfl, rfl, rfl⟩ (congrArg Role.engaged isJoined)
        (congrArg Role.engaged role)
  | choose bucketKey isFull role =>
      exact advances_of_unengaged regular ⟨rfl, rfl, rfl⟩ (congrArg Role.engaged isFull)
        (congrArg Role.engaged role)
  | pop bucketKey players chose role =>
      exact advances_of_unengaged regular ⟨rfl, rfl, rfl⟩ (congrArg Role.engaged chose)
        (congrArg Role.engaged role)
  | eject bucketKey gone isIdle locked role =>
      exact advances_of_unengaged regular ⟨rfl, rfl, rfl⟩ (congrArg Role.engaged isIdle)
        (congrArg Role.engaged role)
  | opened state new forms role =>
      exact advances_of_opened regular new (congrArg Role.engaged forms)
        (congrArg Role.engaged role)
  | accept matchId actor state isIdle reads stored role =>
      exact advances_of_accept regular actor isIdle reads stored (unresolvedAt reads stored) role
  | persist state persists role => exact advances_of_persist regular persists relies role
  | close matchId finalizes role => exact advances_of_close regular finalizes relies role
  | start matchId starts role => exact advances_of_start regular starts relies role
  | dissolve matchId dissolution isIdle reads stored role =>
      exact advances_of_dissolve regular dissolution isIdle reads stored
        (unresolvedAt reads stored) role
  | requeue dissolution playerId rest isCall role =>
      refine advances_of_requeue regular dissolution.now ?_ relies role
      rw [isCall]
      rfl
  | discard matchId bucketKey dissolves role => exact advances_of_discard regular dissolves role

/-! ### Calls among others -/

theorem role_of_reads {matchId : MatchId} (reads : call.reads = some matchId) :
    call.role config = .idle := by
  cases call with
  | reading | refusing | expiring | draining => rfl
  | _ => cases reads

/-- A call that reads a ready-check as the locks and the drains allow is alone with it. -/
theorem unengaged_of_reads {other : QueueCall} {matchId : MatchId}
    (reads : call.reads = some matchId) (apart : Apart QueueCall.locks call other)
    (undrained : (other.role config).engaged = some matchId →
      call.drains = false ∧ other.drains = false) :
    (other.role config).engaged ≠ some matchId := by
  intro engaged
  obtain ⟨callUndrained, otherUndrained⟩ := undrained engaged
  have callLocked := (reads_locked reads).resolve_right (by rw [callUndrained]; exact nofun)
  have otherLocked := (locked_or_drains engaged).resolve_right (by rw [otherUndrained]; exact nofun)
  exact apart _ callLocked otherLocked

theorem locks_apart {calls : List QueueCall} {other : QueueCall} (relocks : Relocks call next)
    (free : ∀ key ∈ call.awaits, Free QueueCall.locks calls key) (member : other ∈ calls)
    (apart : Apart QueueCall.locks call other) : Apart QueueCall.locks next other :=
  apart.of_taken (fun key held => (relocks key held).symm)
    fun key awaited => free key awaited other member

theorem exists_mem_set {calls : List QueueCall} {position : Nat} {property : QueueCall → Prop}
    (found : calls[position]? = some call) (has : ∃ other ∈ calls, property other)
    (not : ¬property call) : ∃ other ∈ calls.set position next, property other := by
  obtain ⟨other, member, holds⟩ := has
  obtain ⟨place, foundOther⟩ := List.getElem?_of_mem member
  have elsewhere : position ≠ place := by
    intro same
    rw [← same, found] at foundOther
    cases foundOther
    exact not holds
  rw [← List.getElem?_set_ne elsewhere] at foundOther
  exact ⟨other, List.mem_of_getElem? foundOther, holds⟩

namespace Matchmaker

variable {maker : Matchmaker}

theorem Sound.spawn (sound : maker.Sound) {call : QueueCall} (noLocks : call.locks = [])
    (isIdle : call.role maker.config = .idle) : (maker.spawn call).Sound where
  holds := by
    apply sound.holds.spawn
    · change (call.role maker.config).Relies maker.store
      rw [isIdle]
      trivial
    · intro other member
      have apart : Apart QueueCall.locks call other := apart_of_none noLocks
      have elsewhere : (call.role maker.config).Elsewhere (other.role maker.config) :=
        elsewhere_of_none (congrArg Role.engaged isIdle)
      exact ⟨⟨apart, elsewhere⟩, apart.symm, elsewhere.symm⟩
  removed := by
    intro matchId stored concluded
    obtain ⟨other, member, dissolves⟩ := sound.removed matchId stored concluded
    exact ⟨other, List.mem_append_left _ member, dissolves⟩

theorem Sound.expire (sound : maker.Sound) (matchId : MatchId) :
    ({ maker with store := maker.store.setReadyCheck matchId none } : Matchmaker).Sound where
  holds := by
    apply sound.holds.disturb
    · exact regular_of_removed sound.holds.world matchId
    · exact fun call _ relies => relies_of_removed relies matchId
  removed := by
    intro other stored concluded
    apply sound.removed other _ concluded
    by_cases same : other = matchId
    · change (maker.store.setReadyCheck matchId none).readyChecks other ≠ none at stored
      rw [same, readyChecks_set_self] at stored
      exact absurd rfl stored
    · exact (readyChecks_set_of_ne same none) ▸ stored

theorem Sound.quiet (sound : maker.Sound) {after : Store} (same : maker.store.SameChecks after) :
    ({ maker with store := after } : Matchmaker).Sound where
  holds := by
    apply sound.holds.disturb
    · exact regular_of_same sound.holds.world same
    · exact fun call _ relies => relies_of_same relies same
  removed := by
    intro matchId stored concluded
    change after.readyChecks matchId ≠ none at stored
    change after.outcomesOf matchId ≠ [] at concluded
    unfold Store.outcomesOf at concluded
    rw [same.readyChecks] at stored
    rw [same.outcomes] at concluded
    exact sound.removed matchId stored concluded

/-- A call that fails leaves the ready-check it has in hand, unless it dissolves it. -/
theorem Sound.fail (sound : maker.Sound) {position : Nat} {call : QueueCall}
    (found : maker.calls[position]? = some call)
    (keeps : ∀ matchId, ¬(call.role maker.config).Dissolves matchId) :
    ({ maker with calls := maker.calls.set position call.caught } : Matchmaker).Sound where
  holds := by
    apply sound.holds.goOn found sound.holds.world
    · change (call.caught.role maker.config).Relies maker.store
      rw [role_caught]
      trivial
    · intro other member relies _ _
      have apart : Apart QueueCall.locks call.caught other := apart_of_none (locks_caught call)
      have elsewhere : (call.caught.role maker.config).Elsewhere (other.role maker.config) :=
        elsewhere_of_none (congrArg Role.engaged (role_caught call))
      exact ⟨relies, ⟨apart, elsewhere⟩, apart.symm, elsewhere.symm⟩
  removed := by
    intro matchId stored concluded
    exact exists_mem_set found (sound.removed matchId stored concluded) (keeps matchId)

/-- Whoever else is at work on a ready-check that the call may read. -/
def Undrained (maker : Matchmaker) (call : QueueCall) : Prop :=
  ∀ matchId, call.reads = some matchId → ∀ other ∈ maker.calls,
    (other.role maker.config).engaged = some matchId →
      call.drains = false ∧ other.drains = false

/-- Nothing has become of a ready-check that a call is about to read. -/
theorem Sound.unresolved (sound : maker.Sound) {position : Nat} {call : QueueCall}
    (found : maker.calls[position]? = some call) (undrained : maker.Undrained call)
    {matchId : MatchId} (reads : call.reads = some matchId)
    (stored : maker.store.readyChecks matchId ≠ none) : maker.store.outcomesOf matchId = [] := by
  by_contra concluded
  obtain ⟨other, member, dissolves⟩ := sound.removed matchId stored concluded
  have engaged := engaged_of_dissolves dissolves
  obtain ⟨place, foundOther⟩ := List.getElem?_of_mem member
  have elsewhere : position ≠ place := by
    intro same
    rw [← same, found] at foundOther
    cases foundOther
    rw [role_of_reads reads] at engaged
    cases engaged
  have apart := sound.holds.apart position place call other found foundOther elsewhere
  exact unengaged_of_reads reads apart.1 (undrained matchId reads other member) engaged

theorem Sound.advance (sound : maker.Sound) {position : Nat} {call : QueueCall}
    (found : maker.calls[position]? = some call) (free : ¬maker.Blocked call)
    (undrained : maker.Undrained call) {after : Store} {next : QueueCall}
    (effect : Effect maker.config maker.store call after next) (relocks : Relocks call next) :
    ({ maker with
       store := after
       calls := maker.calls.set position next } : Matchmaker).Sound := by
  have own := sound.holds.asserts call (List.mem_of_getElem? found)
  have unresolved : ∀ matchId, call.reads = some matchId →
      maker.store.readyChecks matchId ≠ none → maker.store.outcomesOf matchId = [] :=
    fun matchId reads stored => sound.unresolved found undrained reads stored
  have advances := advances_of_effect effect sound.holds.world own unresolved
  have freeLocks : ∀ key ∈ call.awaits, Free QueueCall.locks maker.calls key := by
    intro key awaited
    by_contra held
    exact free ⟨key, awaited, held⟩
  constructor
  · apply sound.holds.goOn found advances.regular advances.own
    rintro other member relies ⟨locksApart, elsewhere⟩ _
    have readElsewhere : ∀ matchId, call.reads = some matchId →
        (other.role maker.config).engaged ≠ some matchId :=
      fun matchId reads => unengaged_of_reads reads locksApart (undrained matchId reads other member)
    have nextElsewhere : (next.role maker.config).Elsewhere (other.role maker.config) := by
      intro matchId engaged
      rcases advances.engages matchId engaged with before | ⟨reads, _⟩
      · exact elsewhere matchId before
      · exact readElsewhere matchId reads
    have nextApart := locks_apart relocks freeLocks member locksApart
    refine ⟨?_, ⟨nextApart, nextElsewhere⟩, nextApart.symm, nextElsewhere.symm⟩
    exact advances.others _ relies elsewhere fun matchId reads _ => readElsewhere matchId reads
  · intro matchId stored concluded
    rcases advances.removed matchId stored concluded with dissolves | ⟨was, concludedBefore, not⟩
    · have inside : position < maker.calls.length := (List.getElem?_eq_some_iff.mp found).1
      exact ⟨next, List.mem_set inside next, dissolves⟩
    · exact exists_mem_set found (sound.removed matchId was concludedBefore) not

theorem sound_step (sound : maker.Sound) (event : MatchmakerEvent)
    (keepsApart : maker.KeepsApart event) : (maker.step event).Sound := by
  cases event with
  | joinQueue input => exact sound.spawn rfl rfl
  | leaveQueue actor => exact sound.spawn rfl rfl
  | acceptMatch actor matchId => exact sound.spawn rfl rfl
  | declineMatch actor matchId => exact sound.spawn rfl rfl
  | sweepExpiredReadyChecks now => exact sound.spawn rfl rfl
  | sweepStaleQueueEntries now => exact sound.spawn rfl rfl
  | drainMatchmaking => exact sound.spawn rfl rfl
  | expireMatchUser userId => exact sound.quiet ⟨rfl, rfl, rfl⟩
  | expireReadyUser userId => exact sound.quiet ⟨rfl, rfl, rfl⟩
  | expireReadyCheck matchId => exact sound.expire matchId
  | resume position reply =>
      unfold step
      dsimp only
      split
      · exact sound
      rename_i call found
      obtain ⟨whenFails, whenReads⟩ := keepsApart call found
      unfold resume
      split
      · rename_i fails
        apply sound.fail found
        intro matchId dissolves
        exact whenFails fails matchId (engaged_of_dissolves dissolves) dissolves
      · rename_i goesOn
        split
        · exact sound
        · rename_i free
          have undrained : maker.Undrained call :=
            fun matchId reads => whenReads (eq_false_of_ne_true goesOn) matchId reads
          exact sound.advance found free undrained (effect_advance _ _ _)
            (relocks_advance sound.holds.world.keyed _ _)

/-! ### Runs -/

/-- No call is under way, and nothing has become of the ready-checks that are stored. -/
structure Opening (maker : Matchmaker) : Prop where
  calls : maker.calls = []
  regular : maker.store.Regular
  unresolved : ∀ matchId, maker.store.readyChecks matchId ≠ none →
    maker.store.outcomesOf matchId = []

theorem sound_of_opening (opening : maker.Opening) : maker.Sound where
  holds := by
    rw [opening.calls]
    exact Outline.holds_nil opening.regular
  removed := fun matchId stored concluded => absurd (opening.unresolved matchId stored) concluded

/-- Any joins, accepts, declines, sweeps and drains, in any order: when a drain is never at
work on a ready-check together with another call, and a dissolution that has begun does
not fail before the ready-check is gone, each ready-check is resolved at most once. -/
theorem resolvedOnce_of_keepsApart (opening : Matchmaker) (isOpening : opening.Opening)
    (events : List MatchmakerEvent) (keepsApart : Runs.Each step KeepsApart opening events) :
    Runs.Always step (fun maker => maker.store.ResolvedOnce) opening events := by
  have kept : ∀ (maker : Matchmaker) (event : MatchmakerEvent), maker.Sound →
      maker.KeepsApart event → (maker.step event).Sound :=
    fun _ event sound keepsApart => sound_step sound event keepsApart
  have always := Runs.always_of_each kept opening (sound_of_opening isOpening) events keepsApart
  exact always.imp fun _ sound => sound.holds.world.once

end Matchmaker

def emptyStore : Store :=
  { queues := SortedSets.empty
    matchUser := fun _ => none
    readyUser := fun _ => none
    readyChecks := fun _ => none
    readyIndex := SortedSets.empty
    bucketIndex := []
    nextMatchId := 0
    outcomes := [] }

def emptyMatchmaker : Matchmaker :=
  { config := {}
    store := emptyStore
    calls := [] }

theorem opening_emptyMatchmaker : emptyMatchmaker.Opening where
  calls := rfl
  regular :=
    { keyed := nofun
      stored := nofun
      concluded := fun _ concluded => absurd rfl concluded
      once := fun _ => Nat.zero_le 1 }
  unresolved := fun _ _ => rfl

def duel : BucketKey :=
  { gameCode := .ludo
    stake := 0
    matchType := .duel }

def goOn (position steps : Nat) : List MatchmakerEvent :=
  List.replicate steps (.resume position {})

/-- Alice and bob join, are matched, and alice accepts. -/
def matched : List MatchmakerEvent :=
  [.joinQueue { actor := "alice", bucketKey := duel }] ++ goOn 0 7 ++
  [.joinQueue { actor := "bob", bucketKey := duel }] ++ goOn 1 18 ++
  [.acceptMatch "alice" 0] ++ goOn 2 4

/-- Bob accepts, and a drain follows. -/
def drainedAfterwards : List MatchmakerEvent :=
  matched ++ [.acceptMatch "bob" 0] ++ goOn 3 8 ++ [.drainMatchmaking] ++ goOn 4 1

theorem resolvedOnce_drainedAfterwards :
    Runs.Always Matchmaker.step (fun maker => maker.store.ResolvedOnce) emptyMatchmaker
      drainedAfterwards :=
  Matchmaker.resolvedOnce_of_keepsApart emptyMatchmaker opening_emptyMatchmaker drainedAfterwards
    (by decide +kernel)

/-- The drain finds the ready-check that bob's accept is about to finalise. -/
def drainedMeanwhile : List MatchmakerEvent :=
  matched ++ [.acceptMatch "bob" 0] ++ goOn 3 2 ++ [.drainMatchmaking] ++ goOn 4 6 ++ goOn 3 6

/-- Alice is back in the queue, and her match is started. -/
theorem resolvedOnce_fails_when_drainedMeanwhile :
    ¬Runs.Always Matchmaker.step (fun maker => maker.store.ResolvedOnce) emptyMatchmaker
      drainedMeanwhile := by
  intro always
  have once := always.final 0
  have both : (Runs.run Matchmaker.step emptyMatchmaker drainedMeanwhile).store.outcomesOf 0 =
      [.dissolved, .started] := by
    decide +kernel
  rw [both] at once
  exact absurd once (by decide)

end Soulzaa.Games.Matchmaking
