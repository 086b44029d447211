/-
Whether a match that could be formed is formed.

A join pops a full bucket before it ends.  Putting the players of a dissolved ready-check
back looks at no count, and a bucket may be left full by it.
-/

import Soulzaa.Games.ReadyChecks

namespace Soulzaa.Games.Matchmaking

open Interleaving

/-- Every bucket holds fewer players than a match takes. -/
def Store.Short (store : Store) : Prop :=
  ∀ bucketKey : BucketKey, store.queues.count bucketKey < bucketKey.size

/-- The bucket of a join that has added its caller and not popped anybody yet. -/
def Role.fills : Role → Option BucketKey
  | .joined bucketKey => some bucketKey
  | .filled bucketKey => some bucketKey
  | .choosing bucketKey _ => some bucketKey
  | _ => none

namespace Matchmaker

def AtRest (maker : Matchmaker) : Prop := ∀ call ∈ maker.calls, call = .ended

instance (maker : Matchmaker) : Decidable maker.AtRest :=
  inferInstanceAs (Decidable (∀ call ∈ maker.calls, call = .ended))

/-- An operation begins when those before it have ended. -/
def InTurn (maker : Matchmaker) : MatchmakerEvent → Prop
  | .resume _ _ => True
  | .expireMatchUser _ => True
  | .expireReadyUser _ => True
  | .expireReadyCheck _ => True
  | _ => maker.AtRest

instance (maker : Matchmaker) : (event : MatchmakerEvent) → Decidable (maker.InTurn event)
  | .resume _ _ => inferInstanceAs (Decidable True)
  | .expireMatchUser _ => inferInstanceAs (Decidable True)
  | .expireReadyUser _ => inferInstanceAs (Decidable True)
  | .expireReadyCheck _ => inferInstanceAs (Decidable True)
  | .joinQueue _ => inferInstanceAs (Decidable maker.AtRest)
  | .leaveQueue _ => inferInstanceAs (Decidable maker.AtRest)
  | .acceptMatch _ _ => inferInstanceAs (Decidable maker.AtRest)
  | .declineMatch _ _ => inferInstanceAs (Decidable maker.AtRest)
  | .sweepExpiredReadyChecks _ => inferInstanceAs (Decidable maker.AtRest)
  | .sweepStaleQueueEntries _ => inferInstanceAs (Decidable maker.AtRest)
  | .drainMatchmaking => inferInstanceAs (Decidable maker.AtRest)

/-- The call that the event makes fail. -/
def fails (maker : Matchmaker) : MatchmakerEvent → Option QueueCall
  | .resume position reply => if reply.fails then maker.calls[position]? else none
  | _ => none

/-- A player who is put back is in the bucket anyhow, or does not fill it; and no join fails
with a full bucket before it has popped. -/
def LeavesRoom (maker : Matchmaker) (event : MatchmakerEvent) : Prop :=
  (∀ call ∈ maker.goesOn event, ∀ back ∈ call.putsBack,
      back.2 ∈ maker.store.queues.members back.1 ∨
        maker.store.queues.count back.1 + 1 < back.1.size) ∧
    ∀ call ∈ maker.fails event, ∀ bucketKey ∈ (call.role maker.config).fills,
      maker.store.queues.count bucketKey < bucketKey.size

instance (maker : Matchmaker) (event : MatchmakerEvent) : Decidable (maker.LeavesRoom event) :=
  inferInstanceAs (Decidable (_ ∧ _))

end Matchmaker

/-! ### Counts -/

variable {config : MatchmakingConfig} {store after : Store} {call next : QueueCall}

theorem size_pos (bucketKey : BucketKey) : 0 < bucketKey.size := by
  unfold BucketKey.size
  cases bucketKey.matchType <;> decide

/-- One bucket may be full, the others are not. -/
structure Store.Filling (store : Store) (bucketKey : BucketKey) : Prop where
  others : ∀ other, other ≠ bucketKey → store.queues.count other < other.size
  atMost : store.queues.count bucketKey ≤ bucketKey.size

/-- How many are queued while a call stands at a point. -/
def Role.Counts (store : Store) : Role → Prop
  | .joined bucketKey => store.Filling bucketKey
  | .filled bucketKey =>
      store.Filling bucketKey ∧ bucketKey.size ≤ store.queues.count bucketKey
  | .choosing bucketKey players =>
      store.Filling bucketKey ∧ players.Nodup ∧
        (∀ userId ∈ players, userId ∈ store.queues.members bucketKey) ∧
          players.length = bucketKey.size
  | _ => store.Short

theorem short_of_filling {bucketKey : BucketKey} (filling : store.Filling bucketKey)
    (few : store.queues.count bucketKey < bucketKey.size) : store.Short := by
  intro other
  by_cases same : other = bucketKey
  · rw [same]
    exact few
  · exact filling.others other same

theorem short_of_fewer (short : store.Short)
    (fewer : ∀ bucketKey, after.queues.count bucketKey ≤ store.queues.count bucketKey) :
    after.Short :=
  fun bucketKey => Nat.lt_of_le_of_lt (fewer bucketKey) (short bucketKey)

theorem short_of_queues (short : store.Short) (same : after.queues = store.queues) :
    after.Short := by
  unfold Store.Short
  rw [same]
  exact short

/-- The caller of a join is added to a bucket that is not full. -/
theorem filling_of_join (short : store.Short) (bucketKey : BucketKey) (userId : UserId)
    (now : Int) : (store.setScore bucketKey userId now).Filling bucketKey where
  others := by
    intro other different
    exact Nat.lt_of_le_of_lt (SortedSets.count_setScore_of_ne different) (short other)
  atMost := Nat.le_trans (SortedSets.count_setScore_le _ _ _ _) (short bucketKey)

theorem short_of_putBack (short : store.Short) {bucketKey : BucketKey} {userId : UserId}
    (room : userId ∈ store.queues.members bucketKey ∨
      store.queues.count bucketKey + 1 < bucketKey.size) (now : Int) :
    (store.setScore bucketKey userId now).Short := by
  intro other
  by_cases same : other = bucketKey
  · rw [same]
    rcases room with present | few
    · have fewer : (store.setScore bucketKey userId now).queues.count bucketKey ≤
          store.queues.count bucketKey := by
        apply SortedSets.count_le_of_subset
        intro wanted queued
        rcases SortedSets.mem_members_setScore.mp queued with ⟨_, rfl⟩ | wasQueued
        · exact present
        · exact wasQueued
      exact Nat.lt_of_le_of_lt fewer (short bucketKey)
    · exact Nat.lt_of_le_of_lt (SortedSets.count_setScore_le _ _ _ _) few
  · exact Nat.lt_of_le_of_lt (SortedSets.count_setScore_of_ne same) (short other)

/-- As many players as a match takes are popped, of a bucket that holds no more. -/
theorem short_of_pop {bucketKey : BucketKey} {players : List UserId}
    (counts : (Role.choosing bucketKey players).Counts store) :
    (store.sortedRemove bucketKey players).Short := by
  obtain ⟨filling, distinct, queued, enough⟩ := counts
  intro other
  by_cases same : other = bucketKey
  · have popped := SortedSets.count_remove distinct queued
    have atMost := filling.atMost
    rw [same]
    change (store.queues.remove bucketKey players).count bucketKey < _
    have positive := size_pos bucketKey
    omega
  · exact Nat.lt_of_le_of_lt (SortedSets.count_remove_le _ _ _ _) (filling.others other same)

theorem counts_of_queues {role : Role} (counts : role.Counts store)
    (same : after.queues = store.queues) : role.Counts after := by
  have filling : ∀ bucketKey, store.Filling bucketKey → after.Filling bucketKey := by
    intro bucketKey filling
    constructor
    · rw [same]
      exact filling.others
    · rw [same]
      exact filling.atMost
  cases role with
  | joined bucketKey => exact filling bucketKey counts
  | filled bucketKey =>
      refine ⟨filling bucketKey counts.1, ?_⟩
      rw [same]
      exact counts.2
  | choosing bucketKey players =>
      refine ⟨filling bucketKey counts.1, counts.2.1, ?_, counts.2.2.2⟩
      rw [same]
      exact counts.2.2.1
  | _ => exact short_of_queues counts same

/-- A call that fails leaves no bucket full. -/
theorem short_of_counts {role : Role} (counts : role.Counts store)
    (few : ∀ bucketKey ∈ role.fills, store.queues.count bucketKey < bucketKey.size) :
    store.Short := by
  cases role with
  | joined bucketKey => exact short_of_filling counts (few bucketKey rfl)
  | filled bucketKey => exact short_of_filling counts.1 (few bucketKey rfl)
  | choosing bucketKey players => exact short_of_filling counts.1 (few bucketKey rfl)
  | _ => exact counts

theorem counts_of_effect (effect : Effect config store call after next)
    (counts : (call.role config).Counts store)
    (room : ∀ back ∈ call.putsBack, back.2 ∈ store.queues.members back.1 ∨
      store.queues.count back.1 + 1 < back.1.size) : (next.role config).Counts after := by
  cases effect with
  | quiet same role =>
      rw [role]
      exact counts_of_queues counts same.queues
  | join input now isCall =>
      rw [isCall] at counts
      exact filling_of_join counts input.bucketKey input.actor now
  | wait bucketKey isJoined few role =>
      rw [isJoined] at counts
      rw [role]
      exact short_of_filling counts few
  | fill bucketKey isJoined full role =>
      rw [isJoined] at counts
      rw [role]
      exact ⟨counts, full⟩
  | choose bucketKey isFull role =>
      rw [isFull] at counts
      rw [role]
      exact ⟨counts.1, SortedSets.nodup_lowest _ _ _, fun _ => SortedSets.mem_of_lowest,
        SortedSets.length_lowest counts.2⟩
  | pop bucketKey players chose role =>
      rw [chose] at counts
      rw [role]
      exact short_of_pop counts
  | opened state new forms role =>
      rw [forms] at counts
      rw [role]
      exact short_of_queues counts rfl
  | eject bucketKey gone isIdle locked role =>
      rw [isIdle] at counts
      rw [role]
      exact short_of_fewer counts fun other => SortedSets.count_remove_le _ _ other _
  | accept matchId actor state isIdle reads stored role =>
      rw [isIdle] at counts
      rcases role with persists | finalizes
      · rw [persists]
        exact counts
      · rw [finalizes]
        exact counts
  | persist state persists role =>
      rw [persists] at counts
      rw [role]
      exact short_of_queues counts rfl
  | close matchId finalizes role =>
      rw [finalizes] at counts
      rw [role]
      exact short_of_queues counts rfl
  | start matchId starts role =>
      rw [starts] at counts
      rw [role]
      exact short_of_queues counts rfl
  | dissolve matchId dissolution isIdle reads stored role =>
      rw [isIdle] at counts
      rw [role]
      exact short_of_queues counts rfl
  | requeue dissolution playerId rest isCall role =>
      have isBack : (dissolution.state.bucketKey, playerId) ∈ call.putsBack := by
        rw [isCall]
        rfl
      rw [isCall] at counts
      rw [role]
      exact short_of_putBack counts (room _ isBack) _
  | discard matchId bucketKey dissolves role =>
      rw [dissolves] at counts
      rw [role]
      exact short_of_queues counts rfl

/-! ### Runs -/

/-- One call at most is under way, and the counts are as it stands. -/
def oneAtATime (config : MatchmakingConfig) : Outline Store QueueCall where
  world := fun _ => True
  asserts := fun store call => call ≠ .ended → (call.role config).Counts store
  apart := fun one two => one ≠ .ended → two = .ended

namespace Matchmaker

variable {maker : Matchmaker}

structure Served (maker : Matchmaker) : Prop where
  holds : (oneAtATime maker.config).Holds maker.store maker.calls
  atRest : maker.AtRest → maker.store.Short

theorem Served.spawn (served : maker.Served) (rest : maker.AtRest) {call : QueueCall}
    (isIdle : call.role maker.config = .idle) : (maker.spawn call).Served where
  holds := by
    apply served.holds.spawn
    · intro _
      rw [isIdle]
      exact served.atRest rest
    · intro other member
      have otherEnded : other = .ended := rest other member
      exact ⟨fun _ => otherEnded, fun active => absurd otherEnded active⟩
  atRest := fun restAfter =>
    served.atRest fun other member => restAfter other (List.mem_append_left _ member)

theorem Served.disturb (served : maker.Served) {after : Store}
    (queues : after.queues = maker.store.queues) :
    ({ maker with store := after } : Matchmaker).Served where
  holds := by
    apply served.holds.disturb trivial
    exact fun call _ counts active => counts_of_queues (counts active) queues
  atRest := fun rest => short_of_queues (served.atRest rest) queues

theorem Served.goOn (served : maker.Served) {position : Nat} {call next : QueueCall}
    (found : maker.calls[position]? = some call) (active : call ≠ .ended) {after : Store}
    (counts : (call.role maker.config).Counts maker.store →
      (next.role maker.config).Counts after) :
    ({ maker with
       store := after
       calls := maker.calls.set position next } : Matchmaker).Served := by
  have nextCounts := counts (served.holds.asserts call (List.mem_of_getElem? found) active)
  constructor
  · apply served.holds.goOn found trivial
    · exact fun _ => nextCounts
    · intro other member _ apart _
      have otherEnded : other = .ended := apart active
      exact ⟨fun otherActive => absurd otherEnded otherActive, fun _ => otherEnded,
        fun otherActive => absurd otherEnded otherActive⟩
  · intro rest
    have inside : position < maker.calls.length := (List.getElem?_eq_some_iff.mp found).1
    have nextEnded : next = .ended := rest next (List.mem_set inside next)
    rw [nextEnded] at nextCounts
    exact nextCounts

theorem resume_ended {position : Nat} (found : maker.calls[position]? = some .ended)
    (reply : QueueReply) : maker.resume position reply .ended = maker := by
  have same : maker.calls.set position .ended = maker.calls := by
    obtain ⟨inside, isEnded⟩ := List.getElem?_eq_some_iff.mp found
    rw [← isEnded]
    exact List.set_getElem_self inside
  unfold resume QueueCall.caught QueueCall.advance
  dsimp only
  rw [same]
  simp

theorem served_step (served : maker.Served) (event : MatchmakerEvent)
    (inTurn : maker.InTurn event) (leavesRoom : maker.LeavesRoom event) :
    (maker.step event).Served := by
  cases event with
  | joinQueue input => exact served.spawn inTurn rfl
  | leaveQueue actor => exact served.spawn inTurn rfl
  | acceptMatch actor matchId => exact served.spawn inTurn rfl
  | declineMatch actor matchId => exact served.spawn inTurn rfl
  | sweepExpiredReadyChecks now => exact served.spawn inTurn rfl
  | sweepStaleQueueEntries now => exact served.spawn inTurn rfl
  | drainMatchmaking => exact served.spawn inTurn rfl
  | expireMatchUser userId => exact served.disturb rfl
  | expireReadyUser userId => exact served.disturb rfl
  | expireReadyCheck matchId => exact served.disturb rfl
  | resume position reply =>
      obtain ⟨room, few⟩ := leavesRoom
      unfold step
      dsimp only
      split
      · exact served
      rename_i call found
      by_cases isEnded : call = .ended
      · rw [isEnded, resume_ended (isEnded ▸ found)]
        exact served
      unfold resume
      split
      · rename_i fails
        have isFailing : call ∈ maker.fails (.resume position reply) := by
          unfold Matchmaker.fails
          dsimp only
          rw [if_pos fails]
          exact found
        apply served.goOn found isEnded
        intro counts
        rw [role_caught]
        exact short_of_counts counts (few call isFailing)
      · rename_i goesOn
        split
        · exact served
        · have isNext : call ∈ maker.goesOn (.resume position reply) := by
            unfold Matchmaker.goesOn
            dsimp only
            rw [if_neg goesOn]
            exact found
          apply served.goOn found isEnded
          exact fun counts => counts_of_effect (effect_advance _ _ _) counts (room call isNext)

/-- Joins, leaves, accepts, declines and sweeps one at a time, in any order: when a player
who is put back never fills the bucket, and no join fails with a full bucket, every bucket
holds fewer players than a match takes after each of them. -/
theorem short_of_leavesRoom (opening : Matchmaker) (noCalls : opening.calls = [])
    (short : opening.store.Short) (events : List MatchmakerEvent)
    (inTurn : Runs.Each step InTurn opening events)
    (leavesRoom : Runs.Each step LeavesRoom opening events) :
    Runs.Always step (fun maker => maker.AtRest → maker.store.Short) opening events := by
  have kept : ∀ (maker : Matchmaker) (event : MatchmakerEvent), maker.Served →
      maker.InTurn event ∧ maker.LeavesRoom event → (maker.step event).Served :=
    fun _ event served permitted => served_step served event permitted.1 permitted.2
  have served : opening.Served :=
    { holds := by
        rw [noCalls]
        exact Outline.holds_nil trivial
      atRest := fun _ => short }
  have always := Runs.always_of_each kept opening served events (inTurn.and leavesRoom)
  exact always.imp fun _ served => served.atRest

end Matchmaker

theorem short_emptyStore : emptyStore.Short := size_pos

def carolJoins : MatchmakerEvent := .joinQueue { actor := "carol", bucketKey := duel }

/-- Bob declines, alice is put back, and carol is matched with her. -/
def declinedFirst : List MatchmakerEvent :=
  matched ++ [.declineMatch "bob" 0] ++ goOn 3 12 ++ [carolJoins] ++ goOn 4 18

theorem short_declinedFirst :
    Runs.Always Matchmaker.step (fun maker => maker.AtRest → maker.store.Short) emptyMatchmaker
      declinedFirst :=
  Matchmaker.short_of_leavesRoom emptyMatchmaker rfl short_emptyStore declinedFirst
    (by decide +kernel) (by decide +kernel)

/-- Carol waits when bob declines. -/
def joinedFirst : List MatchmakerEvent :=
  matched ++ [carolJoins] ++ goOn 3 7 ++ [.declineMatch "bob" 0] ++ goOn 4 12

/-- She and alice wait in one bucket, and nobody matches them. -/
theorem short_fails_when_joinedFirst :
    ¬Runs.Always Matchmaker.step (fun maker => maker.AtRest → maker.store.Short)
      emptyMatchmaker joinedFirst := by
  intro always
  have atRest : (Runs.run Matchmaker.step emptyMatchmaker joinedFirst).AtRest := by
    decide +kernel
  have two : (Runs.run Matchmaker.step emptyMatchmaker joinedFirst).store.queues.count duel = 2 := by
    decide +kernel
  have few := always.final atRest duel
  rw [two] at few
  exact absurd few (by decide)

end Soulzaa.Games.Matchmaking
