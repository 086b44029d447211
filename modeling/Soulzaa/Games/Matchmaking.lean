/-
Matchmaking: buckets of queued players, ready-checks of matched ones, and the keys that
point from a player to either.

Everything is kept in the cache, one key at a time.  A call stands wherever its last
await has left it; joining, leaving and pruning hold the lock of a bucket, accepting,
declining and sweeping the lock of a ready-check, and the drain none.
-/

import Soulzaa.Games.Lobby
import Soulzaa.Lib.Interleaving
import Soulzaa.Lib.SortedSets

namespace Soulzaa.Games.Matchmaking

open Interleaving

/-- A public id of a ready-check, new each time. -/
abbrev MatchId := Nat

structure BucketKey where
  gameCode : GameCode
  stake : Nat
  matchType : MatchType
  deriving DecidableEq, Repr

def BucketKey.size (bucketKey : BucketKey) : Nat := requiredSize bucketKey.matchType

structure MatchQueuePointer where
  bucketKey : BucketKey
  retries : Nat
  firstQueuedAt : Int
  deriving DecidableEq, Repr

structure ReadyCheckState where
  matchId : MatchId
  bucketKey : BucketKey
  players : List UserId
  ready : List UserId
  hostId : Option UserId
  retriesByUser : List (UserId × Nat)
  expiresAt : Int
  createdAt : Int
  deriving DecidableEq, Repr

structure MatchmakingConfig where
  matchReadySeconds : Nat := 15
  matchQueueTtlSeconds : Nat := 120
  matchMaxRetries : Nat := 3
  deriving DecidableEq, Repr

/-- What has become of a ready-check: a session, or a dissolution. -/
inductive MatchOutcome where
  | started
  | dissolved
  deriving DecidableEq, Repr

/-- The cache, and the outcomes so far. -/
structure Store where
  queues : SortedSets BucketKey UserId
  matchUser : UserId → Option MatchQueuePointer
  readyUser : UserId → Option MatchId
  readyChecks : MatchId → Option ReadyCheckState
  readyIndex : SortedSets Unit MatchId
  bucketIndex : List BucketKey
  nextMatchId : MatchId
  outcomes : List (MatchId × MatchOutcome)

namespace Store

def setMatchUser (store : Store) (userId : UserId) (pointer : Option MatchQueuePointer) : Store :=
  { store with matchUser := Function.update store.matchUser userId pointer }

def setReadyUser (store : Store) (userId : UserId) (matchId : Option MatchId) : Store :=
  { store with readyUser := Function.update store.readyUser userId matchId }

def setReadyCheck (store : Store) (matchId : MatchId) (state : Option ReadyCheckState) : Store :=
  { store with readyChecks := Function.update store.readyChecks matchId state }

def setScore (store : Store) (bucketKey : BucketKey) (userId : UserId) (now : Int) : Store :=
  { store with queues := store.queues.setScore bucketKey userId now }

def sortedRemove (store : Store) (bucketKey : BucketKey) (userIds : List UserId) : Store :=
  { store with queues := store.queues.remove bucketKey userIds }

def listBucket (store : Store) (bucketKey : BucketKey) : Store :=
  { store with
    bucketIndex :=
      if bucketKey ∈ store.bucketIndex then store.bucketIndex
      else store.bucketIndex ++ [bucketKey] }

def unlistBucket (store : Store) (bucketKey : BucketKey) : Store :=
  { store with bucketIndex := store.bucketIndex.filter fun listed => listed ≠ bucketKey }

def listReadyCheck (store : Store) (matchId : MatchId) (expiresAt : Int) : Store :=
  { store with readyIndex := store.readyIndex.setScore () matchId expiresAt }

def unlistReadyCheck (store : Store) (matchId : MatchId) : Store :=
  { store with readyIndex := store.readyIndex.remove () [matchId] }

def conclude (store : Store) (matchId : MatchId) (outcome : MatchOutcome) : Store :=
  { store with outcomes := store.outcomes ++ [(matchId, outcome)] }

def outcomesOf (store : Store) (matchId : MatchId) : List MatchOutcome :=
  (store.outcomes.filter fun entry => entry.1 = matchId).map Prod.snd

end Store

/-! ### Calls -/

structure JoinQueueInput where
  actor : UserId
  bucketKey : BucketKey
  deriving DecidableEq, Repr

inductive LockKey where
  | bucket (bucketKey : BucketKey)
  | ready (matchId : MatchId)
  deriving DecidableEq, Repr

/-- Who dissolves a ready-check, with what is left to do for a sweep or a drain. -/
inductive Dissolver where
  | declineMatch
  | sweepExpiredReadyChecks (due : List MatchId)
  | drainMatchmaking (all : List MatchId)
  deriving DecidableEq, Repr

structure Dissolution where
  state : ReadyCheckState
  declinerId : Option UserId
  now : Int
  dissolver : Dissolver
  deriving DecidableEq, Repr

/-- What comes after a ready-check has been cleared. -/
inductive Cleared where
  | start
  | cancel (dissolver : Dissolver)
  deriving DecidableEq, Repr

structure Pruning where
  bucketKey : BucketKey
  cutoff : Int
  rest : List BucketKey
  deriving DecidableEq, Repr

/-- What a call awaits. -/
inductive QueueCall where
  -- `joinQueue`: the two pointers, the lock of the bucket, the entry and its keys
  | checkingMatch (input : JoinQueueInput)
  | checkingQueue (input : JoinQueueInput)
  | joining (input : JoinQueueInput)
  | queueing (input : JoinQueueInput) (now : Int)
  | pointing (input : JoinQueueInput) (now : Int)
  | listing (input : JoinQueueInput)
  | counting (input : JoinQueueInput)
  | selecting (input : JoinQueueInput)
  | reviewing (input : JoinQueueInput) (playerIds rest : List UserId)
      (retriesByUser : List (UserId × Nat))
  | popping (input : JoinQueueInput) (playerIds : List UserId)
      (retriesByUser : List (UserId × Nat))
  | unpointing (input : JoinQueueInput) (playerIds rest : List UserId)
      (retriesByUser : List (UserId × Nat))
  -- `openReadyCheck`
  | opening (input : JoinQueueInput) (playerIds : List UserId)
      (retriesByUser : List (UserId × Nat))
  | indexing (state : ReadyCheckState)
  | announcing (state : ReadyCheckState) (rest : List UserId)
  | notifying (state : ReadyCheckState)
  -- `leaveQueue`
  | leaving (actor : UserId)
  | waitingToLeave (actor : UserId) (pointer : MatchQueuePointer)
  | removing (actor : UserId) (pointer : MatchQueuePointer)
  | forgetting (actor : UserId) (pointer : MatchQueuePointer)
  | recounting (bucketKey : BucketKey)
  | unlisting (bucketKey : BucketKey)
  -- `acceptMatch`
  | accepting (actor : UserId) (matchId : MatchId)
  | reading (actor : UserId) (matchId : MatchId)
  | persisting (state : ReadyCheckState)
  | reporting (matchId : MatchId)
  -- `finalizeMatch`: the definition, the lobby and its members, and then the start
  | finalizing (state : ReadyCheckState)
  | starting (state : ReadyCheckState)
  -- `clearReadyCheck`
  | clearing (state : ReadyCheckState) (next : Cleared)
  | unindexing (state : ReadyCheckState) (next : Cleared)
  | releasing (state : ReadyCheckState) (rest : List UserId) (next : Cleared)
  -- `declineMatch`
  | declining (actor : UserId) (matchId : MatchId)
  | refusing (actor : UserId) (matchId : MatchId)
  -- `dissolveReadyCheck`, at one of the players
  | requeueing (dissolution : Dissolution) (playerId : UserId) (rest : List UserId)
  | repointing (dissolution : Dissolution) (playerId : UserId) (rest : List UserId)
  | relisting (dissolution : Dissolution) (rest : List UserId)
  | logging (dissolution : Dissolution) (rest : List UserId)
  | cancelling (state : ReadyCheckState) (dissolver : Dissolver)
  -- `sweepExpiredReadyChecks`
  | collectingDue (now : Int)
  | sweeping (matchId : MatchId) (due : List MatchId)
  | expiring (matchId : MatchId) (due : List MatchId)
  | unindexingGone (matchId : MatchId) (due : List MatchId)
  -- `sweepStaleQueueEntries`
  | collectingBuckets (now : Int)
  | pruning (pruned : Pruning)
  | scanning (pruned : Pruning)
  | ejecting (pruned : Pruning) (userId : UserId) (stale : List UserId)
  | ejected (pruned : Pruning) (userId : UserId) (stale : List UserId)
  | loggingExit (pruned : Pruning) (stale : List UserId)
  | recountingPruned (pruned : Pruning)
  | unlistingPruned (pruned : Pruning)
  -- `drainMatchmaking`
  | collectingAll
  | draining (matchId : MatchId) (all : List MatchId)
  | ended
  deriving DecidableEq, Repr

/-- What the awaited call comes back with, as far as it is read. -/
structure QueueReply where
  fails : Bool := false
  now : Int := 0
  deriving DecidableEq, Repr

/-- The lock under which a ready-check is dissolved. -/
def Dissolver.locks (matchId : MatchId) : Dissolver → List LockKey
  | .drainMatchmaking _ => []
  | _ => [.ready matchId]

def Cleared.locks (matchId : MatchId) : Cleared → List LockKey
  | .start => [.ready matchId]
  | .cancel dissolver => dissolver.locks matchId

namespace QueueCall

/-- The lock that a call holds. -/
def locks : QueueCall → List LockKey
  | .queueing input _ => [.bucket input.bucketKey]
  | .pointing input _ => [.bucket input.bucketKey]
  | .listing input => [.bucket input.bucketKey]
  | .counting input => [.bucket input.bucketKey]
  | .selecting input => [.bucket input.bucketKey]
  | .reviewing input _ _ _ => [.bucket input.bucketKey]
  | .popping input _ _ => [.bucket input.bucketKey]
  | .unpointing input _ _ _ => [.bucket input.bucketKey]
  | .opening input _ _ => [.bucket input.bucketKey]
  | .indexing state => [.bucket state.bucketKey]
  | .announcing state _ => [.bucket state.bucketKey]
  | .notifying state => [.bucket state.bucketKey]
  | .removing _ pointer => [.bucket pointer.bucketKey]
  | .forgetting _ pointer => [.bucket pointer.bucketKey]
  | .recounting bucketKey => [.bucket bucketKey]
  | .unlisting bucketKey => [.bucket bucketKey]
  | .reading _ matchId => [.ready matchId]
  | .persisting state => [.ready state.matchId]
  | .reporting matchId => [.ready matchId]
  | .finalizing state => [.ready state.matchId]
  | .starting state => [.ready state.matchId]
  | .clearing state next => next.locks state.matchId
  | .unindexing state next => next.locks state.matchId
  | .releasing state _ next => next.locks state.matchId
  | .refusing _ matchId => [.ready matchId]
  | .requeueing dissolution _ _ => dissolution.dissolver.locks dissolution.state.matchId
  | .repointing dissolution _ _ => dissolution.dissolver.locks dissolution.state.matchId
  | .relisting dissolution _ => dissolution.dissolver.locks dissolution.state.matchId
  | .logging dissolution _ => dissolution.dissolver.locks dissolution.state.matchId
  | .cancelling state dissolver => dissolver.locks state.matchId
  | .expiring matchId _ => [.ready matchId]
  | .unindexingGone matchId _ => [.ready matchId]
  | .scanning pruned => [.bucket pruned.bucketKey]
  | .ejecting pruned _ _ => [.bucket pruned.bucketKey]
  | .ejected pruned _ _ => [.bucket pruned.bucketKey]
  | .loggingExit pruned _ => [.bucket pruned.bucketKey]
  | .recountingPruned pruned => [.bucket pruned.bucketKey]
  | .unlistingPruned pruned => [.bucket pruned.bucketKey]
  | _ => []

/-- The lock that a call waits for. -/
def awaits : QueueCall → Option LockKey
  | .joining input => some (.bucket input.bucketKey)
  | .waitingToLeave _ pointer => some (.bucket pointer.bucketKey)
  | .accepting _ matchId => some (.ready matchId)
  | .declining _ matchId => some (.ready matchId)
  | .sweeping matchId _ => some (.ready matchId)
  | .pruning pruned => some (.bucket pruned.bucketKey)
  | _ => none

end QueueCall

/-- A sweep or a drain goes on to the next ready-check. -/
def Dissolver.next : Dissolver → QueueCall
  | .declineMatch => .ended
  | .sweepExpiredReadyChecks [] => .ended
  | .sweepExpiredReadyChecks (matchId :: due) => .sweeping matchId due
  | .drainMatchmaking [] => .ended
  | .drainMatchmaking (matchId :: all) => .draining matchId all

def Cleared.proceed (state : ReadyCheckState) : Cleared → QueueCall
  | .start => .starting state
  | .cancel dissolver => .cancelling state dissolver

/-- A failure in the finalisation is the caller's, and one in a sweep is logged. -/
def Cleared.caught : Cleared → QueueCall
  | .start => .ended
  | .cancel dissolver => dissolver.next

def pruneNext (cutoff : Int) : List BucketKey → QueueCall
  | [] => .ended
  | bucketKey :: rest =>
      .pruning
        { bucketKey := bucketKey
          cutoff := cutoff
          rest := rest }

/-- Where a call goes on when what it awaits throws. -/
def QueueCall.caught : QueueCall → QueueCall
  | .clearing _ next => next.caught
  | .unindexing _ next => next.caught
  | .releasing _ _ next => next.caught
  | .requeueing dissolution _ _ => dissolution.dissolver.next
  | .repointing dissolution _ _ => dissolution.dissolver.next
  | .relisting dissolution _ => dissolution.dissolver.next
  | .logging dissolution _ => dissolution.dissolver.next
  | .cancelling _ dissolver => dissolver.next
  | .sweeping _ due => (Dissolver.sweepExpiredReadyChecks due).next
  | .expiring _ due => (Dissolver.sweepExpiredReadyChecks due).next
  | .unindexingGone _ due => (Dissolver.sweepExpiredReadyChecks due).next
  | .pruning pruned => pruneNext pruned.cutoff pruned.rest
  | .scanning pruned => pruneNext pruned.cutoff pruned.rest
  | .ejecting pruned _ _ => pruneNext pruned.cutoff pruned.rest
  | .ejected pruned _ _ => pruneNext pruned.cutoff pruned.rest
  | .loggingExit pruned _ => pruneNext pruned.cutoff pruned.rest
  | .recountingPruned pruned => pruneNext pruned.cutoff pruned.rest
  | .unlistingPruned pruned => pruneNext pruned.cutoff pruned.rest
  | .draining _ all => (Dissolver.drainMatchmaking all).next
  | _ => .ended

/-! ### Steps -/

/-- The retry counts of the matched players are read one by one. -/
def review (input : JoinQueueInput) (playerIds : List UserId)
    (retriesByUser : List (UserId × Nat)) : List UserId → QueueCall
  | [] => .popping input playerIds retriesByUser
  | rest => .reviewing input playerIds rest retriesByUser

def unpoint (input : JoinQueueInput) (playerIds : List UserId)
    (retriesByUser : List (UserId × Nat)) : List UserId → QueueCall
  | [] => .opening input playerIds retriesByUser
  | rest => .unpointing input playerIds rest retriesByUser

def announce (state : ReadyCheckState) : List UserId → QueueCall
  | [] => .notifying state
  | rest => .announcing state rest

def release (state : ReadyCheckState) (next : Cleared) : List UserId → QueueCall
  | [] => next.proceed state
  | rest => .releasing state rest next

def openedState (config : MatchmakingConfig) (matchId : MatchId) (input : JoinQueueInput)
    (playerIds : List UserId) (retriesByUser : List (UserId × Nat)) (now : Int) :
    ReadyCheckState :=
  { matchId := matchId
    bucketKey := input.bucketKey
    players := playerIds
    ready := []
    hostId := playerIds.head?
    retriesByUser := retriesByUser
    expiresAt := now + config.matchReadySeconds * 1000
    createdAt := now }

/-- `state.ready.push`, for a player who is not ready yet. -/
def ReadyCheckState.accept (state : ReadyCheckState) (actor : UserId) : ReadyCheckState :=
  if actor ∈ state.ready then state else { state with ready := state.ready ++ [actor] }

namespace Dissolution

def consented (dissolution : Dissolution) (playerId : UserId) : Bool :=
  playerId ∈ dissolution.state.ready && some playerId ≠ dissolution.declinerId

def nextRetries (dissolution : Dissolution) (playerId : UserId) : Nat :=
  (dissolution.state.retriesByUser.lookup playerId).getD 0 + 1

/-- The player goes back into the bucket. -/
def requeues (config : MatchmakingConfig) (dissolution : Dissolution) (playerId : UserId) : Bool :=
  dissolution.consented playerId && dissolution.nextRetries playerId ≤ config.matchMaxRetries

def next (config : MatchmakingConfig) (dissolution : Dissolution) : List UserId → QueueCall
  | [] => .clearing dissolution.state (.cancel dissolution.dissolver)
  | playerId :: rest =>
      if dissolution.requeues config playerId then .requeueing dissolution playerId rest
      else .logging dissolution rest

end Dissolution

/-- `dissolveReadyCheck` begins. -/
def dissolve (config : MatchmakingConfig) (store : Store) (dissolution : Dissolution) :
    Store × QueueCall :=
  (store.conclude dissolution.state.matchId .dissolved,
    dissolution.next config dissolution.state.players)

def ejectNext (pruned : Pruning) : List UserId → QueueCall
  | [] => .recountingPruned pruned
  | userId :: stale => .ejecting pruned userId stale

namespace QueueCall

/-- A call goes on once what it awaits has come back, or once it has its lock. -/
def advance (config : MatchmakingConfig) (store : Store) (now : Int) :
    QueueCall → Store × QueueCall
  | .checkingMatch input =>
      (store, if (store.readyUser input.actor).isSome then .ended else .checkingQueue input)
  | .checkingQueue input =>
      (store, if (store.matchUser input.actor).isSome then .ended else .joining input)
  | .joining input => (store, .queueing input now)
  | .queueing input now =>
      (store.setScore input.bucketKey input.actor now, .pointing input now)
  | .pointing input now =>
      (store.setMatchUser input.actor
        (some
          { bucketKey := input.bucketKey
            retries := 0
            firstQueuedAt := now }), .listing input)
  | .listing input => (store.listBucket input.bucketKey, .counting input)
  | .counting input =>
      (store,
        if input.bucketKey.size ≤ store.queues.count input.bucketKey then .selecting input
        else .ended)
  | .selecting input =>
      let playerIds := store.queues.lowest input.bucketKey input.bucketKey.size
      (store, review input playerIds [] playerIds)
  | .reviewing input playerIds rest retriesByUser =>
      match rest with
      | [] => (store, .popping input playerIds retriesByUser)
      | playerId :: rest =>
          let retries := ((store.matchUser playerId).map MatchQueuePointer.retries).getD 0
          (store, review input playerIds (retriesByUser ++ [(playerId, retries)]) rest)
  | .popping input playerIds retriesByUser =>
      (store.sortedRemove input.bucketKey playerIds,
        unpoint input playerIds retriesByUser playerIds)
  | .unpointing input playerIds rest retriesByUser =>
      match rest with
      | [] => (store, .opening input playerIds retriesByUser)
      | playerId :: rest =>
          (store.setMatchUser playerId none, unpoint input playerIds retriesByUser rest)
  | .opening input playerIds retriesByUser =>
      let state := openedState config store.nextMatchId input playerIds retriesByUser now
      ({ store.setReadyCheck state.matchId (some state) with
         nextMatchId := store.nextMatchId + 1 }, .indexing state)
  | .indexing state =>
      (store.listReadyCheck state.matchId state.expiresAt, announce state state.players)
  | .announcing state rest =>
      match rest with
      | [] => (store, .notifying state)
      | playerId :: rest =>
          (store.setReadyUser playerId (some state.matchId), announce state rest)
  | .notifying _ => (store, .ended)
  | .leaving actor =>
      (store,
        match store.matchUser actor with
        | none => .ended
        | some pointer => .waitingToLeave actor pointer)
  | .waitingToLeave actor pointer => (store, .removing actor pointer)
  | .removing actor pointer =>
      (store.sortedRemove pointer.bucketKey [actor], .forgetting actor pointer)
  | .forgetting actor pointer => (store.setMatchUser actor none, .recounting pointer.bucketKey)
  | .recounting bucketKey =>
      (store, if store.queues.count bucketKey = 0 then .unlisting bucketKey else .ended)
  | .unlisting bucketKey => (store.unlistBucket bucketKey, .ended)
  | .accepting actor matchId => (store, .reading actor matchId)
  | .reading actor matchId =>
      match store.readyChecks matchId with
      | none => (store, .ended)
      | some state =>
          if actor ∉ state.players ∨ state.expiresAt < now then (store, .ended)
          else
            let accepted := state.accept actor
            (store,
              if accepted.players.length ≤ accepted.ready.length then .finalizing accepted
              else .persisting accepted)
  | .persisting state =>
      (store.setReadyCheck state.matchId (some state), .reporting state.matchId)
  | .reporting _ => (store, .ended)
  | .finalizing state => (store, .clearing state .start)
  | .starting state => (store.conclude state.matchId .started, .ended)
  | .clearing state next => (store.setReadyCheck state.matchId none, .unindexing state next)
  | .unindexing state next =>
      (store.unlistReadyCheck state.matchId, release state next state.players)
  | .releasing state rest next =>
      match rest with
      | [] => (store, next.proceed state)
      | playerId :: rest => (store.setReadyUser playerId none, release state next rest)
  | .declining actor matchId => (store, .refusing actor matchId)
  | .refusing actor matchId =>
      match store.readyChecks matchId with
      | none => (store, .ended)
      | some state =>
          if actor ∉ state.players then (store, .ended)
          else
            dissolve config store
              { state := state
                declinerId := some actor
                now := now
                dissolver := .declineMatch }
  | .requeueing dissolution playerId rest =>
      (store.setScore dissolution.state.bucketKey playerId dissolution.now,
        .repointing dissolution playerId rest)
  | .repointing dissolution playerId rest =>
      (store.setMatchUser playerId
        (some
          { bucketKey := dissolution.state.bucketKey
            retries := dissolution.nextRetries playerId
            firstQueuedAt := dissolution.now }), .relisting dissolution rest)
  | .relisting dissolution rest =>
      (store.listBucket dissolution.state.bucketKey, .logging dissolution rest)
  | .logging dissolution rest => (store, dissolution.next config rest)
  | .cancelling _ dissolver => (store, dissolver.next)
  | .collectingDue now =>
      (store, (Dissolver.sweepExpiredReadyChecks (store.readyIndex.rangeByScore () 0 now)).next)
  | .sweeping matchId due => (store, .expiring matchId due)
  | .expiring matchId due =>
      match store.readyChecks matchId with
      | none => (store, .unindexingGone matchId due)
      | some state =>
          if now ≤ state.expiresAt then (store, (Dissolver.sweepExpiredReadyChecks due).next)
          else
            dissolve config store
              { state := state
                declinerId := none
                now := now
                dissolver := .sweepExpiredReadyChecks due }
  | .unindexingGone matchId due =>
      (store.unlistReadyCheck matchId, (Dissolver.sweepExpiredReadyChecks due).next)
  | .collectingBuckets now =>
      (store, pruneNext (now - config.matchQueueTtlSeconds * 1000) store.bucketIndex)
  | .pruning pruned => (store, .scanning pruned)
  | .scanning pruned =>
      (store, ejectNext pruned (store.queues.rangeByScore pruned.bucketKey 0 pruned.cutoff))
  | .ejecting pruned userId stale =>
      (store.sortedRemove pruned.bucketKey [userId], .ejected pruned userId stale)
  | .ejected pruned userId stale =>
      (store.setMatchUser userId none, .loggingExit pruned stale)
  | .loggingExit pruned stale => (store, ejectNext pruned stale)
  | .recountingPruned pruned =>
      (store,
        if store.queues.count pruned.bucketKey = 0 then .unlistingPruned pruned
        else pruneNext pruned.cutoff pruned.rest)
  | .unlistingPruned pruned =>
      (store.unlistBucket pruned.bucketKey, pruneNext pruned.cutoff pruned.rest)
  | .collectingAll =>
      -- `Number.MAX_SAFE_INTEGER` is above every deadline.
      (store, (Dissolver.drainMatchmaking (store.readyIndex.rangeByScore () 0 (2 ^ 53 - 1))).next)
  | .draining matchId all =>
      match store.readyChecks matchId with
      | none => (store, (Dissolver.drainMatchmaking all).next)
      | some state =>
          dissolve config store
            { state := state
              declinerId := none
              now := now
              dissolver := .drainMatchmaking all }
  | .ended => (store, .ended)

end QueueCall

/-- The matchmaker: the cache and the calls under way. -/
structure Matchmaker where
  config : MatchmakingConfig
  store : Store
  calls : List QueueCall

inductive MatchmakerEvent where
  /-- The checks of `joinQueue` that read nothing of the queue have passed. -/
  | joinQueue (input : JoinQueueInput)
  | leaveQueue (actor : UserId)
  | acceptMatch (actor : UserId) (matchId : MatchId)
  | declineMatch (actor : UserId) (matchId : MatchId)
  | sweepExpiredReadyChecks (now : Int)
  | sweepStaleQueueEntries (now : Int)
  | drainMatchmaking
  | resume (position : Nat) (reply : QueueReply)
  -- keys that outlive their time in the cache
  | expireMatchUser (userId : UserId)
  | expireReadyUser (userId : UserId)
  | expireReadyCheck (matchId : MatchId)

namespace Matchmaker

def spawn (maker : Matchmaker) (call : QueueCall) : Matchmaker :=
  { maker with calls := maker.calls ++ [call] }

/-- The lock that the call waits for is held. -/
def Blocked (maker : Matchmaker) (call : QueueCall) : Prop :=
  ∃ key ∈ call.awaits, ¬Free QueueCall.locks maker.calls key

instance (maker : Matchmaker) (call : QueueCall) : Decidable (maker.Blocked call) :=
  inferInstanceAs (Decidable (∃ key ∈ call.awaits, _))

def resume (maker : Matchmaker) (position : Nat) (reply : QueueReply) (call : QueueCall) :
    Matchmaker :=
  if reply.fails then { maker with calls := maker.calls.set position call.caught }
  else if maker.Blocked call then maker
  else
    { maker with
      store := (call.advance maker.config maker.store reply.now).1
      calls := maker.calls.set position (call.advance maker.config maker.store reply.now).2 }

def step (maker : Matchmaker) : MatchmakerEvent → Matchmaker
  | .joinQueue input => maker.spawn (.checkingMatch input)
  | .leaveQueue actor => maker.spawn (.leaving actor)
  | .acceptMatch actor matchId => maker.spawn (.accepting actor matchId)
  | .declineMatch actor matchId => maker.spawn (.declining actor matchId)
  | .sweepExpiredReadyChecks now => maker.spawn (.collectingDue now)
  | .sweepStaleQueueEntries now => maker.spawn (.collectingBuckets now)
  | .drainMatchmaking => maker.spawn .collectingAll
  | .resume position reply =>
      match maker.calls[position]? with
      | none => maker
      | some call => maker.resume position reply call
  | .expireMatchUser userId => { maker with store := maker.store.setMatchUser userId none }
  | .expireReadyUser userId => { maker with store := maker.store.setReadyUser userId none }
  | .expireReadyCheck matchId => { maker with store := maker.store.setReadyCheck matchId none }

end Matchmaker

end Soulzaa.Games.Matchmaking
