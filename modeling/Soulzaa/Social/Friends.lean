/-
Friend requests and friendships, and the `friendsCount` that the users' statistics keep.

The counts follow their friendship in writes of their own, and other calls go on in between.
-/

import Mathlib.Algebra.BigOperators.Group.Finset.Basic
import Soulzaa.Lib.Interleaving
import Soulzaa.Lib.Runs

namespace Soulzaa.Social

abbrev UserId := String

def FRIEND_REQUEST_TTL_MS : Nat := 30 * 24 * 60 * 60 * 1000

def orderPair (a b : UserId) : UserId × UserId := if a < b then (a, b) else (b, a)

/-- What a call has yet to write. -/
inductive Call where
  | accept (requesterId addresseeId : UserId)
  | request (pair : UserId × UserId) (expiresAt : Option Nat)
  | delete (userId friendId : UserId)
  | increment (delta : Int) (userIds : List UserId)

structure World where
  friendships : Finset (UserId × UserId)
  /-- The `friendsCount` of those who have statistics. -/
  statistics : UserId → Option Int
  /-- Until when a request is pending. -/
  requests : UserId × UserId → Option Nat
  calls : List Call

inductive Event where
  | sendRequest (requesterId addresseeId : UserId) (allowed : Bool) (now : Nat)
  | accept (requesterId addresseeId : UserId) (now : Nat)
  | rejectOrCancel (requesterId addresseeId : UserId) (now : Nat)
  | remove (userId friendId : UserId)
  | expirePending (now : Nat)
  /-- Statistics are made with the profile, or with another count. -/
  | otherStatistic (userId : UserId)
  | goOn (position : Nat)

namespace World

def loadActionable (world : World) (pair : UserId × UserId) (now : Nat) : Option Nat :=
  (world.requests pair).filter fun expiresAt => now ≤ expiresAt

/-- What a call goes on to once it has read what it checks. -/
def begun (world : World) : Event → Option Call
  | .sendRequest requesterId addresseeId allowed now =>
      if addresseeId = requesterId ∨ orderPair requesterId addresseeId ∈ world.friendships then none
      -- They asked first, if perhaps too long ago.
      else if (world.requests (addresseeId, requesterId)).isSome then
        some (.accept addresseeId requesterId)
      else if allowed ∧ (world.requests (requesterId, addresseeId)).isNone then
        some (.request (requesterId, addresseeId) (now + FRIEND_REQUEST_TTL_MS))
      else none
  | .accept requesterId addresseeId now =>
      (world.loadActionable (requesterId, addresseeId) now).map fun _ =>
        .accept requesterId addresseeId
  | .rejectOrCancel requesterId addresseeId now =>
      (world.loadActionable (requesterId, addresseeId) now).map fun _ =>
        .request (requesterId, addresseeId) none
  | .remove userId friendId => some (.delete userId friendId)
  | .expirePending _ | .otherStatistic _ | .goOn _ => none

/-- What is not there yet starts at zero, or above. -/
def incrementStatistic (world : World) (userId : UserId) (delta : Int) : World :=
  let count :=
    match world.statistics userId with
    | some count => count + delta
    | none => max delta 0
  { world with statistics := Function.update world.statistics userId (some count) }

def write (world : World) : Call → World × Call
  -- A friendship that is there already is counted once more.
  | .accept requesterId addresseeId =>
      ({ world with
          friendships := insert (orderPair requesterId addresseeId) world.friendships
          requests := Function.update world.requests (requesterId, addresseeId) none },
        .increment 1 [requesterId, addresseeId])
  | .request pair expiresAt =>
      ({ world with requests := Function.update world.requests pair expiresAt }, .increment 0 [])
  | .delete userId friendId =>
      let pair := orderPair userId friendId
      ({ world with friendships := world.friendships.erase pair },
        .increment (-1) (if pair ∈ world.friendships then [userId, friendId] else []))
  | .increment delta [] => (world, .increment delta [])
  | .increment delta (userId :: others) =>
      (world.incrementStatistic userId delta, .increment delta others)

def step (world : World) : Event → World
  | .goOn position =>
      match world.calls[position]? with
      | some call =>
          { (world.write call).1 with calls := world.calls.set position (world.write call).2 }
      | none => world
  | .expirePending now =>
      { world with
        requests := fun pair => (world.requests pair).filter fun expiresAt => now ≤ expiresAt }
  | .otherStatistic userId => world.incrementStatistic userId 0
  | event => { world with calls := world.calls ++ (world.begun event).toList }

def friendsCount (world : World) (userId : UserId) : Int := (world.statistics userId).getD 0

/-- How often the friendships name the user. -/
def countForUser (world : World) (userId : UserId) : Int :=
  ∑ pair ∈ world.friendships, ([pair.1, pair.2].count userId : Int)

end World

namespace Call

def due : Call → UserId → Int
  | increment delta userIds, userId => delta * userIds.count userId
  | _, _ => 0

end Call

namespace World

variable {world : World} {call : Call} {userId : UserId}

/-- What is noted or due beyond the friendships. -/
def drift (world : World) (userId : UserId) : Int :=
  world.friendsCount userId - world.countForUser userId +
    Interleaving.underWay (fun call => call.due userId) world.calls

theorem friendsCount_increment (first : UserId) (delta : Int) :
    (world.incrementStatistic first delta).friendsCount userId = world.friendsCount userId +
      if first = userId then if world.statistics first = none then max delta 0 else delta
      else 0 := by
  unfold incrementStatistic friendsCount
  by_cases same : userId = first
  · subst same
    cases world.statistics userId <;> simp
  · simp [Function.update_of_ne same, Ne.symm same]

theorem count_orderPair (a b : UserId) :
    [(orderPair a b).1, (orderPair a b).2].count userId = [a, b].count userId := by
  unfold orderPair
  split
  · rfl
  · exact (List.Perm.swap a b []).count_eq userId

/-- How far a write takes the count off: the friendship is there already, or one is taken off where
nothing is noted. -/
def astray (world : World) : Call → UserId → Int
  | .accept requesterId addresseeId, userId =>
      if orderPair requesterId addresseeId ∈ world.friendships then
        ([requesterId, addresseeId].count userId : Int)
      else 0
  | .increment delta (first :: _), userId =>
      if first = userId ∧ world.statistics first = none then max 0 (-delta) else 0
  | _, _ => 0

def astrayBy (world : World) : Event → UserId → Int
  | .goOn position, userId => world.calls[position]?.elim 0 fun call => world.astray call userId
  | _, _ => 0

/-- How far the writes of a run take the count off. -/
def strayed (world : World) : List Event → UserId → Int
  | [], _ => 0
  | event :: rest, userId => world.astrayBy event userId + (world.step event).strayed rest userId

theorem drift_write (world : World) (call : Call) (userId : UserId) :
    (world.write call).1.friendsCount userId - (world.write call).1.countForUser userId +
        (world.write call).2.due userId =
      world.friendsCount userId - world.countForUser userId + call.due userId +
        world.astray call userId := by
  cases call with
  | accept requesterId addresseeId =>
      have pair := @count_orderPair userId requesterId addresseeId
      unfold write countForUser friendsCount Call.due astray
      dsimp only
      split
      · rename_i present
        rw [Finset.insert_eq_of_mem present]
        omega
      · rename_i absent
        rw [Finset.sum_insert absent, pair]
        omega
  | request => simp [write, astray, Call.due, friendsCount, countForUser]
  | delete one other =>
      have pair := @count_orderPair userId one other
      unfold write countForUser friendsCount Call.due astray
      dsimp only
      split
      · rename_i present
        rw [Finset.sum_erase_eq_sub present, pair]
        omega
      · rename_i absent
        rw [Finset.erase_eq_of_notMem absent, List.count_nil]
        omega
  | increment delta userIds =>
      cases userIds with
      | nil => simp [write, astray]
      | cons first others =>
          have stored := @friendsCount_increment world userId first delta
          have counted : (world.incrementStatistic first delta).countForUser userId =
            world.countForUser userId := rfl
          unfold write Call.due astray
          dsimp only
          rw [stored, counted, List.count_cons, Int.natCast_add, Int.mul_add]
          by_cases same : first = userId
          · simp [same]
            grind
          · simp [same]

theorem drift_spawn (event : Event) :
    drift { world with calls := world.calls ++ (world.begun event).toList } userId =
      world.drift userId := by
  unfold drift
  cases begun : world.begun event with
  | none => rw [Option.toList_none, List.append_nil]
  | some call =>
      have due : call.due userId = 0 := by
        unfold World.begun at begun
        grind [Call.due, Option.map_eq_some_iff]
      rw [Option.toList_some, Interleaving.underWay_spawn, due, add_zero]
      rfl

theorem drift_step (world : World) (event : Event) (userId : UserId) :
    (world.step event).drift userId = world.drift userId + world.astrayBy event userId := by
  cases event with
  | goOn position =>
      unfold step drift astrayBy
      dsimp only
      cases found : world.calls[position]? with
      | none => exact (add_zero _).symm
      | some call =>
          have written := drift_write world call userId
          have underWay := Interleaving.underWay_set (fun call => call.due userId) found
            (world.write call).2
          dsimp only [friendsCount, countForUser, Option.elim] at written ⊢
          omega
  | expirePending now => exact (add_zero _).symm
  | otherStatistic other =>
      have stored := @friendsCount_increment world userId other 0
      rw [max_self, ite_self, ite_self, add_zero] at stored
      exact (congrArg (fun count => count - _ + _) stored).trans (add_zero _).symm
  | sendRequest | accept | rejectOrCancel | remove =>
      exact (drift_spawn _).trans (add_zero _).symm

/-- At any time, a user's count, with what is still due, exceeds the friendships by as much as at
first and what the writes since then took it off. -/
theorem drift_of_run (world : World) (events : List Event) (userId : UserId) :
    (Runs.run step world events).drift userId =
      world.drift userId + world.strayed events userId := by
  induction events generalizing world with
  | nil => exact (add_zero _).symm
  | cons event rest ih =>
      refine (ih (world.step event)).trans ?_
      rw [drift_step, add_assoc]
      rfl

end World

end Soulzaa.Social
