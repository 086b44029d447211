/-
What a step of a matchmaking call can do.

At each of its awaits a call has a role: it has entered a bucket, chosen or taken
players, holds a ready-check in hand, or dissolves one.  Most steps keep the role and
leave queues, ready-checks and outcomes alone; the others are listed.
-/

import Soulzaa.Games.Matchmaking

namespace Soulzaa.Games.Matchmaking

open Interleaving

inductive Role where
  | idle
  /-- The caller is in the bucket, whose count is to be looked at. -/
  | joined (bucketKey : BucketKey)
  /-- The bucket is full. -/
  | filled (bucketKey : BucketKey)
  | choosing (bucketKey : BucketKey) (players : List UserId)
  /-- The players are out of the bucket and in no ready-check yet. -/
  | forming (bucketKey : BucketKey) (players : List UserId)
  | persisting (state : ReadyCheckState)
  | finalizing (matchId : MatchId)
  /-- The ready-check is gone, and its session about to start. -/
  | starting (matchId : MatchId)
  /-- `players` are yet to be put back into the bucket. -/
  | dissolving (matchId : MatchId) (bucketKey : BucketKey) (players : List UserId)
  deriving DecidableEq, Repr

def Cleared.clearingRole (state : ReadyCheckState) : Cleared → Role
  | .start => .finalizing state.matchId
  | .cancel _ => .dissolving state.matchId state.bucketKey []

def Cleared.clearedRole (state : ReadyCheckState) : Cleared → Role
  | .start => .starting state.matchId
  | .cancel _ => .idle

/-- The role of a dissolution with these players to come. -/
def Dissolution.role (config : MatchmakingConfig) (dissolution : Dissolution)
    (rest : List UserId) : Role :=
  .dissolving dissolution.state.matchId dissolution.state.bucketKey
    (rest.filter (dissolution.requeues config))

def Dissolver.isDrain : Dissolver → Bool
  | .drainMatchmaking _ => true
  | _ => false

def Cleared.isDrain : Cleared → Bool
  | .start => false
  | .cancel dissolver => dissolver.isDrain

namespace QueueCall

def role (config : MatchmakingConfig) : QueueCall → Role
  | .pointing input _ => .joined input.bucketKey
  | .listing input => .joined input.bucketKey
  | .counting input => .joined input.bucketKey
  | .selecting input => .filled input.bucketKey
  | .reviewing input playerIds _ _ => .choosing input.bucketKey playerIds
  | .popping input playerIds _ => .choosing input.bucketKey playerIds
  | .unpointing input playerIds _ _ => .forming input.bucketKey playerIds
  | .opening input playerIds _ => .forming input.bucketKey playerIds
  | .persisting state => .persisting state
  | .finalizing state => .finalizing state.matchId
  | .starting state => .starting state.matchId
  | .clearing state next => next.clearingRole state
  | .unindexing state next => next.clearedRole state
  | .releasing state _ next => next.clearedRole state
  | .requeueing dissolution playerId rest =>
      .dissolving dissolution.state.matchId dissolution.state.bucketKey
        (playerId :: rest.filter (dissolution.requeues config))
  | .repointing dissolution _ rest => dissolution.role config rest
  | .relisting dissolution rest => dissolution.role config rest
  | .logging dissolution rest => dissolution.role config rest
  | _ => .idle

/-- The call is a drain at work on a ready-check. -/
def drains : QueueCall → Bool
  | .draining _ _ => true
  | .clearing _ next => next.isDrain
  | .requeueing dissolution _ _ => dissolution.dissolver.isDrain
  | .repointing dissolution _ _ => dissolution.dissolver.isDrain
  | .relisting dissolution _ => dissolution.dissolver.isDrain
  | .logging dissolution _ => dissolution.dissolver.isDrain
  | _ => false

/-- The ready-check that a call is about to read. -/
def reads : QueueCall → Option MatchId
  | .reading _ matchId => some matchId
  | .refusing _ matchId => some matchId
  | .expiring matchId _ => some matchId
  | .draining matchId _ => some matchId
  | _ => none

/-- The join that a call is about to write. -/
def enqueues : QueueCall → Option JoinQueueInput
  | .queueing input _ => some input
  | _ => none

/-- The player that a call is about to put back, and into which bucket. -/
def putsBack : QueueCall → Option (BucketKey × UserId)
  | .requeueing dissolution playerId _ => some (dissolution.state.bucketKey, playerId)
  | _ => none

end QueueCall

/-- The call that the event lets go on. -/
def Matchmaker.goesOn (maker : Matchmaker) : MatchmakerEvent → Option QueueCall
  | .resume position reply => if reply.fails then none else maker.calls[position]?
  | _ => none

/-- Queues, ready-checks and outcomes are the same. -/
structure Store.SameMatches (store after : Store) : Prop where
  queues : after.queues = store.queues
  readyChecks : after.readyChecks = store.readyChecks
  outcomes : after.outcomes = store.outcomes
  nextMatchId : after.nextMatchId = store.nextMatchId

theorem sameMatches_refl (store : Store) : store.SameMatches store := ⟨rfl, rfl, rfl, rfl⟩

def Store.openReadyCheck (store : Store) (state : ReadyCheckState) : Store :=
  { store.setReadyCheck state.matchId (some state) with nextMatchId := store.nextMatchId + 1 }

/-- What a call that goes on does, as it turns from one role to another. -/
inductive Effect (config : MatchmakingConfig) (store : Store) (call : QueueCall) :
    Store → QueueCall → Prop where
  | quiet {after : Store} {next : QueueCall} (same : store.SameMatches after)
      (role : next.role config = call.role config) : Effect config store call after next
  | join (input : JoinQueueInput) (now : Int) (isCall : call = .queueing input now) :
      Effect config store call (store.setScore input.bucketKey input.actor now)
        (.pointing input now)
  | wait {next : QueueCall} (bucketKey : BucketKey) (isJoined : call.role config = .joined bucketKey)
      (few : store.queues.count bucketKey < bucketKey.size) (role : next.role config = .idle) :
      Effect config store call store next
  | fill {next : QueueCall} (bucketKey : BucketKey) (isJoined : call.role config = .joined bucketKey)
      (full : bucketKey.size ≤ store.queues.count bucketKey)
      (role : next.role config = .filled bucketKey) : Effect config store call store next
  | choose {next : QueueCall} (bucketKey : BucketKey) (isFull : call.role config = .filled bucketKey)
      (role : next.role config =
        .choosing bucketKey (store.queues.lowest bucketKey bucketKey.size)) :
      Effect config store call store next
  | pop {next : QueueCall} (bucketKey : BucketKey) (players : List UserId)
      (chose : call.role config = .choosing bucketKey players)
      (role : next.role config = .forming bucketKey players) :
      Effect config store call (store.sortedRemove bucketKey players) next
  | opened {next : QueueCall} (state : ReadyCheckState) (new : state.matchId = store.nextMatchId)
      (forms : call.role config = .forming state.bucketKey state.players)
      (role : next.role config = .idle) :
      Effect config store call (store.openReadyCheck state) next
  | eject {next : QueueCall} (bucketKey : BucketKey) (gone : List UserId)
      (isIdle : call.role config = .idle) (locked : .bucket bucketKey ∈ call.locks)
      (role : next.role config = .idle) :
      Effect config store call (store.sortedRemove bucketKey gone) next
  | accept {next : QueueCall} (matchId : MatchId) (actor : UserId) (state : ReadyCheckState)
      (isIdle : call.role config = .idle) (reads : call.reads = some matchId)
      (stored : store.readyChecks matchId = some state)
      (role : next.role config = .persisting (state.accept actor) ∨
        next.role config = .finalizing state.matchId) : Effect config store call store next
  | persist {next : QueueCall} (state : ReadyCheckState)
      (persists : call.role config = .persisting state) (role : next.role config = .idle) :
      Effect config store call (store.setReadyCheck state.matchId (some state)) next
  | close {next : QueueCall} (matchId : MatchId) (finalizes : call.role config = .finalizing matchId)
      (role : next.role config = .starting matchId) :
      Effect config store call (store.setReadyCheck matchId none) next
  | start {next : QueueCall} (matchId : MatchId) (starts : call.role config = .starting matchId)
      (role : next.role config = .idle) :
      Effect config store call (store.conclude matchId .started) next
  | dissolve {next : QueueCall} (matchId : MatchId) (dissolution : Dissolution)
      (isIdle : call.role config = .idle) (reads : call.reads = some matchId)
      (stored : store.readyChecks matchId = some dissolution.state)
      (role : next.role config = dissolution.role config dissolution.state.players) :
      Effect config store call (store.conclude dissolution.state.matchId .dissolved) next
  | requeue {next : QueueCall} (dissolution : Dissolution) (playerId : UserId) (rest : List UserId)
      (isCall : call = .requeueing dissolution playerId rest)
      (role : next.role config = dissolution.role config rest) :
      Effect config store call
        (store.setScore dissolution.state.bucketKey playerId dissolution.now) next
  | discard {next : QueueCall} (matchId : MatchId) (bucketKey : BucketKey)
      (dissolves : call.role config = .dissolving matchId bucketKey [])
      (role : next.role config = .idle) :
      Effect config store call (store.setReadyCheck matchId none) next

/-! ### Roles of what follows -/

variable {config : MatchmakingConfig}

theorem role_dissolver_next (dissolver : Dissolver) : dissolver.next.role config = .idle := by
  cases dissolver with
  | declineMatch => rfl
  | sweepExpiredReadyChecks due => cases due <;> rfl
  | drainMatchmaking all => cases all <;> rfl

theorem role_pruneNext (cutoff : Int) (rest : List BucketKey) :
    (pruneNext cutoff rest).role config = .idle := by
  cases rest <;> rfl

theorem role_ejectNext (pruned : Pruning) (stale : List UserId) :
    (ejectNext pruned stale).role config = .idle := by
  cases stale <;> rfl

theorem role_review (input : JoinQueueInput) (playerIds rest : List UserId)
    (retriesByUser : List (UserId × Nat)) :
    (review input playerIds retriesByUser rest).role config =
      .choosing input.bucketKey playerIds := by
  cases rest <;> rfl

theorem role_unpoint (input : JoinQueueInput) (playerIds rest : List UserId)
    (retriesByUser : List (UserId × Nat)) :
    (unpoint input playerIds retriesByUser rest).role config =
      .forming input.bucketKey playerIds := by
  cases rest <;> rfl

theorem role_announce (state : ReadyCheckState) (rest : List UserId) :
    (announce state rest).role config = .idle := by
  cases rest <;> rfl

theorem role_proceed (state : ReadyCheckState) (next : Cleared) :
    (next.proceed state).role config = next.clearedRole state := by
  cases next <;> rfl

theorem role_release (state : ReadyCheckState) (next : Cleared) (rest : List UserId) :
    (release state next rest).role config = next.clearedRole state := by
  cases rest with
  | nil => exact role_proceed state next
  | cons => rfl

theorem role_dissolution_next (dissolution : Dissolution) (rest : List UserId) :
    (dissolution.next config rest).role config = dissolution.role config rest := by
  cases rest with
  | nil => rfl
  | cons playerId rest =>
      unfold Dissolution.next Dissolution.role
      dsimp only
      by_cases requeues : dissolution.requeues config playerId = true
      · rw [if_pos requeues, List.filter_cons_of_pos requeues]
        rfl
      · rw [if_neg requeues, List.filter_cons_of_neg requeues]
        rfl

/-- A call that fails has ended, or the sweep or the drain that it is part of goes on. -/
inductive Resumes : QueueCall → Prop where
  | ended : Resumes .ended
  | dissolver (dissolver : Dissolver) : Resumes dissolver.next
  | prune (cutoff : Int) (rest : List BucketKey) : Resumes (pruneNext cutoff rest)

theorem resumes_cleared_caught (next : Cleared) : Resumes next.caught := by
  cases next with
  | start => exact .ended
  | cancel dissolver => exact .dissolver dissolver

theorem resumes_caught (call : QueueCall) : Resumes call.caught := by
  cases call with
  | clearing state next => exact resumes_cleared_caught next
  | unindexing state next => exact resumes_cleared_caught next
  | releasing state rest next => exact resumes_cleared_caught next
  | requeueing dissolution playerId rest => exact .dissolver _
  | repointing dissolution playerId rest => exact .dissolver _
  | relisting dissolution rest => exact .dissolver _
  | logging dissolution rest => exact .dissolver _
  | cancelling state dissolver => exact .dissolver _
  | sweeping matchId due => exact .dissolver _
  | expiring matchId due => exact .dissolver _
  | unindexingGone matchId due => exact .dissolver _
  | draining matchId all => exact .dissolver _
  | pruning pruned => exact .prune _ _
  | scanning pruned => exact .prune _ _
  | ejecting pruned userId stale => exact .prune _ _
  | ejected pruned userId stale => exact .prune _ _
  | loggingExit pruned stale => exact .prune _ _
  | recountingPruned pruned => exact .prune _ _
  | unlistingPruned pruned => exact .prune _ _
  | _ => exact .ended

/-- A call that fails is out of every role. -/
theorem role_caught (call : QueueCall) : call.caught.role config = .idle := by
  have resumes := resumes_caught call
  generalize call.caught = next at resumes ⊢
  cases resumes with
  | ended => rfl
  | dissolver dissolver => exact role_dissolver_next dissolver
  | prune cutoff rest => exact role_pruneNext cutoff rest

/-! ### The effect of a step -/

theorem effect_dissolve {store : Store} {call : QueueCall} {matchId : MatchId}
    (isIdle : call.role config = .idle) (reads : call.reads = some matchId)
    (dissolution : Dissolution) (stored : store.readyChecks matchId = some dissolution.state) :
    Effect config store call (dissolve config store dissolution).1
      (dissolve config store dissolution).2 :=
  .dissolve matchId dissolution isIdle reads stored (role_dissolution_next _ _)

theorem effect_reading (store : Store) (now : Int) (actor : UserId) (matchId : MatchId) :
    Effect config store (.reading actor matchId)
      ((QueueCall.reading actor matchId).advance config store now).1
      ((QueueCall.reading actor matchId).advance config store now).2 := by
  unfold QueueCall.advance
  dsimp only
  split
  · exact .quiet (sameMatches_refl store) rfl
  · rename_i state stored
    split
    · exact .quiet (sameMatches_refl store) rfl
    · refine .accept matchId actor state rfl rfl stored ?_
      dsimp only
      split
      · refine Or.inr ?_
        unfold ReadyCheckState.accept
        split <;> rfl
      · exact Or.inl rfl

theorem effect_refusing (store : Store) (now : Int) (actor : UserId) (matchId : MatchId) :
    Effect config store (.refusing actor matchId)
      ((QueueCall.refusing actor matchId).advance config store now).1
      ((QueueCall.refusing actor matchId).advance config store now).2 := by
  unfold QueueCall.advance
  dsimp only
  split
  · exact .quiet (sameMatches_refl store) rfl
  · rename_i state stored
    split
    · exact .quiet (sameMatches_refl store) rfl
    · exact effect_dissolve rfl rfl _ stored

theorem effect_expiring (store : Store) (now : Int) (matchId : MatchId) (due : List MatchId) :
    Effect config store (.expiring matchId due)
      ((QueueCall.expiring matchId due).advance config store now).1
      ((QueueCall.expiring matchId due).advance config store now).2 := by
  unfold QueueCall.advance
  dsimp only
  split
  · exact .quiet (sameMatches_refl store) rfl
  · rename_i state stored
    split
    · exact .quiet (sameMatches_refl store) (role_dissolver_next _)
    · exact effect_dissolve rfl rfl _ stored

theorem effect_draining (store : Store) (now : Int) (matchId : MatchId) (all : List MatchId) :
    Effect config store (.draining matchId all)
      ((QueueCall.draining matchId all).advance config store now).1
      ((QueueCall.draining matchId all).advance config store now).2 := by
  unfold QueueCall.advance
  dsimp only
  split
  · exact .quiet (sameMatches_refl store) (role_dissolver_next _)
  · rename_i state stored
    exact effect_dissolve rfl rfl _ stored

theorem effect_counting (store : Store) (now : Int) (input : JoinQueueInput) :
    Effect config store (.counting input)
      ((QueueCall.counting input).advance config store now).1
      ((QueueCall.counting input).advance config store now).2 := by
  unfold QueueCall.advance
  dsimp only
  split
  · rename_i full
    exact .fill input.bucketKey rfl full rfl
  · rename_i few
    exact .wait input.bucketKey rfl (Nat.lt_of_not_le few) rfl

theorem effect_clearing (store : Store) (now : Int) (state : ReadyCheckState) (next : Cleared) :
    Effect config store (.clearing state next)
      ((QueueCall.clearing state next).advance config store now).1
      ((QueueCall.clearing state next).advance config store now).2 := by
  cases next with
  | start => exact .close state.matchId rfl rfl
  | cancel dissolver => exact .discard state.matchId state.bucketKey rfl rfl

theorem effect_advance (store : Store) (now : Int) (call : QueueCall) :
    Effect config store call (call.advance config store now).1
      (call.advance config store now).2 := by
  have same := sameMatches_refl store
  cases call with
  | checkingMatch input =>
      refine .quiet same ?_
      unfold QueueCall.advance
      dsimp only
      split <;> rfl
  | checkingQueue input =>
      refine .quiet same ?_
      unfold QueueCall.advance
      dsimp only
      split <;> rfl
  | queueing input now => exact .join input now rfl
  | counting input => exact effect_counting store now input
  | selecting input => exact .choose input.bucketKey rfl (role_review _ _ _ _)
  | reviewing input playerIds rest retriesByUser =>
      cases rest with
      | nil => exact .quiet same rfl
      | cons playerId rest => exact .quiet same (role_review _ _ _ _)
  | popping input playerIds retriesByUser =>
      exact .pop input.bucketKey playerIds rfl (role_unpoint _ _ _ _)
  | unpointing input playerIds rest retriesByUser =>
      cases rest with
      | nil => exact .quiet same rfl
      | cons playerId rest => exact .quiet ⟨rfl, rfl, rfl, rfl⟩ (role_unpoint _ _ _ _)
  | opening input playerIds retriesByUser =>
      exact .opened (openedState config store.nextMatchId input playerIds retriesByUser now)
        rfl rfl rfl
  | indexing state => exact .quiet ⟨rfl, rfl, rfl, rfl⟩ (role_announce _ _)
  | announcing state rest =>
      cases rest with
      | nil => exact .quiet same rfl
      | cons playerId rest => exact .quiet ⟨rfl, rfl, rfl, rfl⟩ (role_announce _ _)
  | leaving actor =>
      refine .quiet same ?_
      unfold QueueCall.advance
      dsimp only
      split <;> rfl
  | removing actor pointer =>
      exact .eject pointer.bucketKey [actor] rfl (List.mem_singleton_self _) rfl
  | recounting bucketKey =>
      refine .quiet same ?_
      unfold QueueCall.advance
      dsimp only
      split <;> rfl
  | reading actor matchId => exact effect_reading store now actor matchId
  | persisting state => exact .persist state rfl rfl
  | starting state => exact .start state.matchId rfl rfl
  | clearing state next => exact effect_clearing store now state next
  | unindexing state next => exact .quiet ⟨rfl, rfl, rfl, rfl⟩ (role_release _ _ _)
  | releasing state rest next =>
      cases rest with
      | nil => exact .quiet same (role_proceed _ _)
      | cons playerId rest => exact .quiet ⟨rfl, rfl, rfl, rfl⟩ (role_release _ _ _)
  | refusing actor matchId => exact effect_refusing store now actor matchId
  | requeueing dissolution playerId rest =>
      exact .requeue dissolution playerId rest rfl rfl
  | logging dissolution rest => exact .quiet same (role_dissolution_next _ _)
  | cancelling state dissolver => exact .quiet same (role_dissolver_next _)
  | collectingDue now => exact .quiet same (role_dissolver_next _)
  | expiring matchId due => exact effect_expiring store now matchId due
  | unindexingGone matchId due => exact .quiet ⟨rfl, rfl, rfl, rfl⟩ (role_dissolver_next _)
  | collectingBuckets now => exact .quiet same (role_pruneNext _ _)
  | scanning pruned => exact .quiet same (role_ejectNext _ _)
  | ejecting pruned userId stale =>
      exact .eject pruned.bucketKey [userId] rfl (List.mem_singleton_self _) rfl
  | loggingExit pruned stale => exact .quiet same (role_ejectNext _ _)
  | recountingPruned pruned =>
      refine .quiet same ?_
      unfold QueueCall.advance
      dsimp only
      split
      · rfl
      · exact role_pruneNext _ _
  | unlistingPruned pruned => exact .quiet ⟨rfl, rfl, rfl, rfl⟩ (role_pruneNext _ _)
  | collectingAll => exact .quiet same (role_dissolver_next _)
  | draining matchId all => exact effect_draining store now matchId all
  | _ => exact .quiet ⟨rfl, rfl, rfl, rfl⟩ rfl

/-! ### Locks -/

/-- The ready-check that a role is at work on. -/
def Role.engaged : Role → Option MatchId
  | .persisting state => some state.matchId
  | .finalizing matchId => some matchId
  | .starting matchId => some matchId
  | .dissolving matchId _ _ => some matchId
  | _ => none

/-- A ready-check is stored under its own id. -/
def Store.Keyed (store : Store) : Prop :=
  ∀ matchId state, store.readyChecks matchId = some state → state.matchId = matchId

theorem locks_dissolver_next (dissolver : Dissolver) : dissolver.next.locks = [] := by
  cases dissolver with
  | declineMatch => rfl
  | sweepExpiredReadyChecks due => cases due <;> rfl
  | drainMatchmaking all => cases all <;> rfl

theorem locks_pruneNext (cutoff : Int) (rest : List BucketKey) :
    (pruneNext cutoff rest).locks = [] := by
  cases rest <;> rfl

/-- A call that fails holds no lock. -/
theorem locks_caught (call : QueueCall) : call.caught.locks = [] := by
  have resumes := resumes_caught call
  generalize call.caught = next at resumes ⊢
  cases resumes with
  | ended => rfl
  | dissolver dissolver => exact locks_dissolver_next dissolver
  | prune cutoff rest => exact locks_pruneNext cutoff rest

theorem locks_review (input : JoinQueueInput) (playerIds rest : List UserId)
    (retriesByUser : List (UserId × Nat)) :
    (review input playerIds retriesByUser rest).locks = [.bucket input.bucketKey] := by
  cases rest <;> rfl

theorem locks_unpoint (input : JoinQueueInput) (playerIds rest : List UserId)
    (retriesByUser : List (UserId × Nat)) :
    (unpoint input playerIds retriesByUser rest).locks = [.bucket input.bucketKey] := by
  cases rest <;> rfl

theorem locks_announce (state : ReadyCheckState) (rest : List UserId) :
    (announce state rest).locks = [.bucket state.bucketKey] := by
  cases rest <;> rfl

theorem locks_proceed (state : ReadyCheckState) (next : Cleared) :
    (next.proceed state).locks = next.locks state.matchId := by
  cases next <;> rfl

theorem locks_release (state : ReadyCheckState) (next : Cleared) (rest : List UserId) :
    (release state next rest).locks = next.locks state.matchId := by
  cases rest with
  | nil => exact locks_proceed state next
  | cons => rfl

theorem locks_dissolution_next (dissolution : Dissolution) (rest : List UserId) :
    (dissolution.next config rest).locks =
      dissolution.dissolver.locks dissolution.state.matchId := by
  cases rest with
  | nil => rfl
  | cons playerId rest =>
      unfold Dissolution.next
      dsimp only
      split <;> rfl

theorem locks_ejectNext (pruned : Pruning) (stale : List UserId) :
    (ejectNext pruned stale).locks = [.bucket pruned.bucketKey] := by
  cases stale <;> rfl

/-- A step of a call keeps locks, or gives them up. -/
def Relocks (call next : QueueCall) : Prop :=
  ∀ key ∈ next.locks, key ∈ call.locks ∨ call.awaits = some key

theorem relocks_of_eq {call next : QueueCall} (same : next.locks = call.locks) :
    Relocks call next :=
  fun _ held => Or.inl (same ▸ held)

theorem relocks_of_none {call next : QueueCall} (none : next.locks = []) : Relocks call next := by
  intro key held
  rw [none] at held
  cases held

theorem relocks_of_awaited {call next : QueueCall} {key : LockKey}
    (one : next.locks = [key]) (awaits : call.awaits = some key) : Relocks call next := by
  intro other held
  rw [one] at held
  exact Or.inr (List.mem_singleton.mp held ▸ awaits)

theorem relocks_reading {store : Store} (keyed : store.Keyed) (now : Int) (actor : UserId)
    (matchId : MatchId) :
    Relocks (.reading actor matchId)
      ((QueueCall.reading actor matchId).advance config store now).2 := by
  unfold QueueCall.advance
  dsimp only
  split
  · exact relocks_of_none rfl
  · rename_i state stored
    split
    · exact relocks_of_none rfl
    · have isMatch : (state.accept actor).matchId = matchId := by
        unfold ReadyCheckState.accept
        split <;> exact keyed matchId state stored
      dsimp only
      split
      · exact relocks_of_eq (congrArg (fun id => [LockKey.ready id]) isMatch)
      · exact relocks_of_eq (congrArg (fun id => [LockKey.ready id]) isMatch)

/-- A dissolution has the lock under which its call has read, or is a drain's. -/
theorem relocks_dissolve {store : Store} (keyed : store.Keyed) {call : QueueCall}
    {matchId : MatchId} (dissolution : Dissolution)
    (stored : store.readyChecks matchId = some dissolution.state)
    (locks : dissolution.dissolver.locks matchId = call.locks) :
    Relocks call (dissolve config store dissolution).2 := by
  apply relocks_of_eq
  rw [← locks, ← keyed matchId dissolution.state stored]
  exact locks_dissolution_next _ _

/-- The locks of a call that goes on: those it had, and the one it waited for. -/
theorem relocks_advance {store : Store} (keyed : store.Keyed) (now : Int) (call : QueueCall) :
    Relocks call (call.advance config store now).2 := by
  cases call with
  | checkingMatch input =>
      unfold QueueCall.advance
      dsimp only
      split <;> exact relocks_of_none rfl
  | checkingQueue input =>
      unfold QueueCall.advance
      dsimp only
      split <;> exact relocks_of_none rfl
  | joining input => exact relocks_of_awaited rfl rfl
  | counting input =>
      unfold QueueCall.advance
      dsimp only
      split
      · exact relocks_of_eq rfl
      · exact relocks_of_none rfl
  | selecting input => exact relocks_of_eq (locks_review _ _ _ _)
  | reviewing input playerIds rest retriesByUser =>
      cases rest with
      | nil => exact relocks_of_eq rfl
      | cons playerId rest => exact relocks_of_eq (locks_review _ _ _ _)
  | popping input playerIds retriesByUser => exact relocks_of_eq (locks_unpoint _ _ _ _)
  | unpointing input playerIds rest retriesByUser =>
      cases rest with
      | nil => exact relocks_of_eq rfl
      | cons playerId rest => exact relocks_of_eq (locks_unpoint _ _ _ _)
  | indexing state => exact relocks_of_eq (locks_announce _ _)
  | announcing state rest =>
      cases rest with
      | nil => exact relocks_of_eq rfl
      | cons playerId rest => exact relocks_of_eq (locks_announce _ _)
  | leaving actor =>
      unfold QueueCall.advance
      dsimp only
      split <;> exact relocks_of_none rfl
  | waitingToLeave actor pointer => exact relocks_of_awaited rfl rfl
  | recounting bucketKey =>
      unfold QueueCall.advance
      dsimp only
      split
      · exact relocks_of_eq rfl
      · exact relocks_of_none rfl
  | accepting actor matchId => exact relocks_of_awaited rfl rfl
  | reading actor matchId => exact relocks_reading keyed now actor matchId
  | unindexing state next => exact relocks_of_eq (locks_release _ _ _)
  | releasing state rest next =>
      cases rest with
      | nil => exact relocks_of_eq (locks_proceed _ _)
      | cons playerId rest => exact relocks_of_eq (locks_release _ _ _)
  | declining actor matchId => exact relocks_of_awaited rfl rfl
  | refusing actor matchId =>
      unfold QueueCall.advance
      dsimp only
      split
      · exact relocks_of_none rfl
      · rename_i state stored
        split
        · exact relocks_of_none rfl
        · exact relocks_dissolve keyed _ stored rfl
  | logging dissolution rest => exact relocks_of_eq (locks_dissolution_next _ _)
  | cancelling state dissolver => exact relocks_of_none (locks_dissolver_next _)
  | collectingDue now => exact relocks_of_none (locks_dissolver_next _)
  | sweeping matchId due => exact relocks_of_awaited rfl rfl
  | expiring matchId due =>
      unfold QueueCall.advance
      dsimp only
      split
      · exact relocks_of_eq rfl
      · rename_i state stored
        split
        · exact relocks_of_none (locks_dissolver_next _)
        · exact relocks_dissolve keyed _ stored rfl
  | unindexingGone matchId due => exact relocks_of_none (locks_dissolver_next _)
  | collectingBuckets now => exact relocks_of_none (locks_pruneNext _ _)
  | pruning pruned => exact relocks_of_awaited rfl rfl
  | scanning pruned => exact relocks_of_eq (locks_ejectNext _ _)
  | loggingExit pruned stale => exact relocks_of_eq (locks_ejectNext _ _)
  | recountingPruned pruned =>
      unfold QueueCall.advance
      dsimp only
      split
      · exact relocks_of_eq rfl
      · exact relocks_of_none (locks_pruneNext _ _)
  | unlistingPruned pruned => exact relocks_of_none (locks_pruneNext _ _)
  | collectingAll => exact relocks_of_none (locks_dissolver_next _)
  | draining matchId all =>
      unfold QueueCall.advance
      dsimp only
      split
      · exact relocks_of_none (locks_dissolver_next _)
      · rename_i state stored
        exact relocks_dissolve keyed _ stored rfl
  | notifying | unlisting | reporting | starting | ended => exact relocks_of_none rfl
  | _ => exact relocks_of_eq rfl

theorem locked_bucket {call : QueueCall} {bucketKey : BucketKey} {players : List UserId}
    (chose : call.role config = .choosing bucketKey players) :
    LockKey.bucket bucketKey ∈ call.locks := by
  cases call with
  | reviewing | popping =>
      cases chose
      exact List.mem_singleton_self _
  | clearing state next => cases next <;> cases chose
  | unindexing state next => cases next <;> cases chose
  | releasing state rest next => cases next <;> cases chose
  | _ => cases chose

theorem locked_dissolver (matchId : MatchId) (dissolver : Dissolver) :
    .ready matchId ∈ dissolver.locks matchId ∨ dissolver.isDrain = true := by
  cases dissolver with
  | declineMatch => exact Or.inl (List.mem_singleton_self _)
  | sweepExpiredReadyChecks due => exact Or.inl (List.mem_singleton_self _)
  | drainMatchmaking all => exact Or.inr rfl

/-- Whoever is at work on a ready-check has its lock, or is a drain. -/
theorem locked_or_drains {call : QueueCall} {matchId : MatchId}
    (engaged : (call.role config).engaged = some matchId) :
    .ready matchId ∈ call.locks ∨ call.drains = true := by
  cases call with
  | persisting state | finalizing state | starting state =>
      cases engaged
      exact Or.inl (List.mem_singleton_self _)
  | clearing state next =>
      cases next with
      | start =>
          cases engaged
          exact Or.inl (List.mem_singleton_self _)
      | cancel dissolver =>
          cases engaged
          exact locked_dissolver _ dissolver
  | unindexing state next =>
      cases next <;> cases engaged
      exact Or.inl (List.mem_singleton_self _)
  | releasing state rest next =>
      cases next <;> cases engaged
      exact Or.inl (List.mem_singleton_self _)
  | requeueing dissolution playerId rest =>
      cases engaged
      exact locked_dissolver _ dissolution.dissolver
  | repointing dissolution playerId rest =>
      cases engaged
      exact locked_dissolver _ dissolution.dissolver
  | relisting dissolution rest =>
      cases engaged
      exact locked_dissolver _ dissolution.dissolver
  | logging dissolution rest =>
      cases engaged
      exact locked_dissolver _ dissolution.dissolver
  | _ => cases engaged

theorem reads_locked {call : QueueCall} {matchId : MatchId} (reads : call.reads = some matchId) :
    .ready matchId ∈ call.locks ∨ call.drains = true := by
  cases call with
  | reading | refusing | expiring =>
      cases reads
      exact Or.inl (List.mem_singleton_self _)
  | draining => exact Or.inr rfl
  | _ => cases reads

end Soulzaa.Games.Matchmaking
