/-
How a battle ends, over whole runs.

The lock keeps the scores as a completion has read them until it writes the result.  It
keeps no cancellation away: the row is written whatever it holds, so a battle ends once
only where each write finds it active.  What winners have and what a call still owes them
is one of each prize for each winner.
-/

import Soulzaa.AudioRooms.PkBattles
import Mathlib.Algebra.Order.Group.Int

namespace Soulzaa.AudioRooms.PkBattles

open Interleaving

/-! ### What is claimed -/

inductive Prize where
  | badge
  | reward
  | win
  deriving DecidableEq, Repr

def PkContribution.amountOn (side : PkSide) (row : PkContribution) : Int :=
  if row.side = side then row.amount else 0

def PkParticipant.scoreOn (side : PkSide) (participant : PkParticipant) : Int :=
  if participant.side = side then participant.score else 0

namespace Store

def contributed (store : Store) (side : PkSide) : Int :=
  (store.contributions.map (PkContribution.amountOn side)).sum

def scored (store : Store) (side : PkSide) : Int :=
  (store.participants.map (PkParticipant.scoreOn side)).sum

/-- The members of the winning side, if the battle is over and there is one. -/
def winners (store : Store) : List UserId :=
  if store.battle.status = .completed then
    match store.battle.result.bind PkResult.winningSide with
    | none => []
    | some side => store.members side
  else []

def paid (store : Store) : Prize → List UserId
  | .badge => store.badges
  | .reward => store.rewards.map PkReward.userId
  | .win => store.wins

/-- The scores are those of the contributions, and no gift counts twice. -/
structure Counts (store : Store) : Prop where
  scores : ∀ side, store.battle.score side = store.contributed side ∧
    store.battle.score side = store.scored side
  once : ∀ giftTxnId, (store.contributions.filter fun row =>
    row.giftTxnId = some giftTxnId).length ≤ 1
  result : store.battle.status = .completed → store.battle.result = some store.battle.outcome

end Store

def World.Idle (world : World) : Prop := ∀ call ∈ world.calls, call = .ended

/-- The sweep with no other call between. -/
def World.sweeping (world : World) (now : Nat) : List Event :=
  .completeExpired now :: List.replicate 4 (.resume world.calls.length)

structure World.Right (world : World) : Prop where
  counts : world.store.Counts
  paid : world.Idle → ∀ prize userId, (world.store.paid prize).count userId =
    if userId ∈ world.store.winners then 1 else 0
  ends : world.Idle → ∀ now, world.store.battle.endsAt ≤ now →
    (Runs.run World.step world (world.sweeping now)).store.battle.status ≠ .active

/-- A battle that is over stays as it is. -/
def World.KeepsEnd (world : World) (event : Event) : Prop :=
  world.store.battle.status ≠ .active →
    (world.step event).store.battle.status = world.store.battle.status

instance (world : World) (event : Event) : Decidable (world.KeepsEnd event) :=
  inferInstanceAs (Decidable (_ → _))

instance (world : World) : Decidable world.Idle :=
  inferInstanceAs (Decidable (∀ call ∈ world.calls, _))

/-! ### The condition -/

namespace Call

/-- The winners to whom the call still owes the prize. -/
def owes (members : PkSide → List UserId) (prize : Prize) : Call → List UserId
  | .listingParticipants result => result.winningSide.elim [] members
  | .findingBadge _ winners => winners
  | .granting _ rest => rest
  | .rewarding _ userId rest => if prize = .badge then rest else userId :: rest
  | .scoring _ userId rest => if prize = .win then userId :: rest else rest
  | _ => []

/-- The battle is still active where a call ends it, and the gift is not counted yet. -/
def EndsOnce (store : Store) : Call → Prop
  | .applying gift _ =>
      ∀ giftTxnId ∈ gift.giftTxnId, ∀ row ∈ store.contributions, row.giftTxnId ≠ some giftTxnId
  | .completing _ => store.battle.status = .active
  | .cancelling => store.battle.status = .active
  | _ => True

instance (store : Store) : (call : Call) → Decidable (call.EndsOnce store)
  | .applying gift _ =>
      inferInstanceAs (Decidable (∀ giftTxnId ∈ gift.giftTxnId, ∀ row ∈ store.contributions, _))
  | .completing _ => inferInstanceAs (Decidable (_ = _))
  | .cancelling => inferInstanceAs (Decidable (_ = _))
  | .gettingActive _ => inferInstanceAs (Decidable True)
  | .lockingGift _ => inferInstanceAs (Decidable True)
  | .gettingBattle _ => inferInstanceAs (Decidable True)
  | .findingParticipant _ => inferInstanceAs (Decidable True)
  | .findingExpired _ => inferInstanceAs (Decidable True)
  | .lockingBattle => inferInstanceAs (Decidable True)
  | .gettingFresh => inferInstanceAs (Decidable True)
  | .listingParticipants _ => inferInstanceAs (Decidable True)
  | .findingBadge _ _ => inferInstanceAs (Decidable True)
  | .granting _ _ => inferInstanceAs (Decidable True)
  | .rewarding _ _ _ => inferInstanceAs (Decidable True)
  | .scoring _ _ _ => inferInstanceAs (Decidable True)
  | .publishing => inferInstanceAs (Decidable True)
  | .gettingActiveToCancel => inferInstanceAs (Decidable True)
  | .ended => inferInstanceAs (Decidable True)

end Call

/-- No call fails that owes a winner something. -/
def World.EndsOnce (world : World) : Event → Prop
  | .resume position => ∀ call ∈ world.calls[position]?, call.EndsOnce world.store
  | .fails position => ∀ call ∈ world.calls[position]?, call.owes world.store.members .win = []
  | _ => True

instance (world : World) : (event : Event) → Decidable (world.EndsOnce event)
  | .resume position => inferInstanceAs (Decidable (∀ call ∈ world.calls[position]?, _))
  | .fails position => inferInstanceAs (Decidable (∀ call ∈ world.calls[position]?, _ = _))
  | .handleGift _ => inferInstanceAs (Decidable True)
  | .complete => inferInstanceAs (Decidable True)
  | .completeExpired _ => inferInstanceAs (Decidable True)
  | .cancel => inferInstanceAs (Decidable True)

/-! ### The tables -/

variable {store after : Store} {call next other : Call} {world : World}

/-- Who fights on which side. -/
def Store.roster (store : Store) : List (UserId × PkSide) :=
  store.participants.map fun participant => (participant.userId, participant.side)

theorem members_eq_roster (store : Store) (side : PkSide) :
    store.members side =
      (store.roster.filter fun entry => entry.2 = side).map Prod.fst := by
  unfold Store.members Store.roster
  rw [List.filter_map, List.map_map]
  rfl

theorem members_congr (same : after.roster = store.roster) : after.members = store.members := by
  funext side
  rw [members_eq_roster, members_eq_roster, same]

theorem roster_advance (call : Call) (store : Store) :
    (call.advance store).1.roster = store.roster := by
  cases call with
  | applying gift side =>
      unfold Store.roster
      apply KeyedRows.map_update
      exact fun _ => rfl
  | granting side rest =>
      cases rest with
      | nil => rfl
      | cons userId rest =>
          unfold Call.advance Store.grantToUser
          dsimp only
          split
          · rfl
          · rfl
  | _ => rfl

theorem members_advance (call : Call) (store : Store) :
    (call.advance store).1.members = store.members := members_congr (roster_advance call store)

/-- The battle is written in three places. -/
theorem battle_advance (call : Call) (store : Store) :
    (call.advance store).1.battle = store.battle ∨ (∃ gift side, call = .applying gift side) ∨
      (∃ result, call = .completing result) ∨ call = .cancelling := by
  cases call with
  | applying gift side => exact Or.inr (Or.inl ⟨gift, side, rfl⟩)
  | completing result => exact Or.inr (Or.inr (Or.inl ⟨result, rfl⟩))
  | cancelling => exact Or.inr (Or.inr (Or.inr rfl))
  | granting side rest =>
      left
      cases rest with
      | nil => rfl
      | cons userId rest =>
          unfold Call.advance Store.grantToUser
          dsimp only
          split
          · rfl
          · rfl
  | _ => exact Or.inl rfl

theorem status_addScore (battle : PkBattle) (side : PkSide) (amount : Int) :
    (battle.addScore side amount).status = battle.status := by
  cases side with
  | red => rfl
  | blue => rfl

theorem score_addScore (battle : PkBattle) (side wanted : PkSide) (amount : Int) :
    (battle.addScore side amount).score wanted =
      battle.score wanted + if side = wanted then amount else 0 := by
  cases side with
  | red =>
      cases wanted with
      | red => rfl
      | blue => exact (add_zero _).symm
  | blue =>
      cases wanted with
      | red => exact (add_zero _).symm
      | blue => rfl

/-! ### The scores under the lock -/

structure Store.Regular (store : Store) : Prop where
  distinct : (store.participants.map PkParticipant.userId).Nodup
  counts : store.Counts

/-- What a call has seen under the lock. -/
def Call.Relies (store : Store) : Call → Prop
  | .findingParticipant _ => store.battle.status ≠ .completed
  | .applying gift side => store.battle.status ≠ .completed ∧
      ∃ participant, store.findParticipant gift.receiverId = some participant ∧
        participant.side = side
  | .completing result => store.battle.status ≠ .completed ∧ result = store.battle.outcome
  | .listingParticipants result =>
      store.battle.status = .completed ∧ store.battle.result = some result
  | _ => True

theorem scoreOn_addToScore (amount : Int) (wanted : PkSide) (participant : PkParticipant) :
    (Store.addToScore amount participant).scoreOn wanted =
      participant.scoreOn wanted + if participant.side = wanted then amount else 0 := by
  unfold PkParticipant.scoreOn Store.addToScore
  dsimp only
  split
  · rfl
  · exact (add_zero 0).symm

theorem counts_applyContribution (regular : store.Regular) {gift : Gift} {side : PkSide}
    (relies : (Call.applying gift side).Relies store)
    (isNew : (Call.applying gift side).EndsOnce store) :
    (store.applyContribution gift side).Counts where
  scores := by
    intro wanted
    obtain ⟨-, participant, found, rfl⟩ := relies
    obtain ⟨contributed, scored⟩ := regular.counts.scores wanted
    constructor
    · change (store.battle.addScore participant.side gift.amount).score wanted = _
      unfold Store.contributed Store.applyContribution
      rw [score_addScore, List.map_append, List.sum_append, List.map_singleton, List.sum_singleton,
        contributed]
      rfl
    · change (store.battle.addScore participant.side gift.amount).score wanted = _
      unfold Store.scored Store.applyContribution
      rw [score_addScore, scored, KeyedRows.sum_update (PkParticipant.scoreOn wanted) _
        regular.distinct found (scoreOn_addToScore gift.amount wanted participant)]
      rfl
  once := by
    intro giftTxnId
    change (List.filter _ (store.contributions ++ [_])).length ≤ 1
    rw [List.filter_append, List.length_append]
    by_cases same : gift.giftTxnId = some giftTxnId
    · have none : store.contributions.filter (fun row => row.giftTxnId = some giftTxnId) = [] := by
        apply List.filter_eq_nil_iff.mpr
        intro row member
        rw [decide_eq_true_eq]
        exact isNew giftTxnId same row member
      rw [none, List.length_nil, Nat.zero_add]
      exact List.length_filter_le _ _
    · rw [List.filter_cons_of_neg, List.filter_nil]
      · exact regular.counts.once giftTxnId
      · rw [decide_eq_true_eq]
        exact same
  result := by
    intro completed
    have isStatus : (store.battle.addScore side gift.amount).status = .completed := completed
    rw [status_addScore] at isStatus
    exact absurd isStatus relies.1

theorem distinct_applyContribution (regular : store.Regular) (gift : Gift) (side : PkSide) :
    ((store.applyContribution gift side).participants.map PkParticipant.userId).Nodup := by
  have same : (store.applyContribution gift side).participants.map PkParticipant.userId =
      store.participants.map PkParticipant.userId := KeyedRows.keys_update fun _ => rfl
  rw [same]
  exact regular.distinct

theorem counts_of_ended (counts : store.Counts) (battle : PkBattle)
    (scores : ∀ side, battle.score side = store.battle.score side)
    (result : battle.status = .completed → battle.result = some battle.outcome) :
    Store.Counts { store with battle := battle } where
  scores := by
    intro side
    rw [scores side]
    exact counts.scores side
  once := counts.once
  result := result

theorem score_status (battle : PkBattle) (status : PkStatus) (result : Option PkResult)
    (side : PkSide) :
    PkBattle.score { battle with status := status, result := result } side = battle.score side := by
  cases side with
  | red => rfl
  | blue => rfl

/-- Prizes are no part of the scores. -/
theorem regular_of_same (regular : store.Regular) (battle : after.battle = store.battle)
    (participants : after.participants = store.participants)
    (contributions : after.contributions = store.contributions) : after.Regular where
  distinct := by
    rw [participants]
    exact regular.distinct
  counts := by
    refine ⟨?_, ?_, ?_⟩
    · intro side
      unfold Store.contributed Store.scored
      rw [battle, participants, contributions]
      exact regular.counts.scores side
    · rw [contributions]
      exact regular.counts.once
    · rw [battle]
      exact regular.counts.result

theorem regular_advance (regular : store.Regular) (relies : call.Relies store)
    (endsOnce : call.EndsOnce store) : (call.advance store).1.Regular := by
  cases call with
  | applying gift side =>
      exact ⟨distinct_applyContribution regular gift side,
        counts_applyContribution regular relies endsOnce⟩
  | completing result =>
      refine ⟨regular.distinct, counts_of_ended regular.counts _ (score_status _ _ _) ?_⟩
      intro _
      exact congrArg some relies.2
  | cancelling =>
      exact ⟨regular.distinct, counts_of_ended regular.counts _ (score_status _ _ _) nofun⟩
  | granting side rest =>
      cases rest with
      | nil => exact regular
      | cons userId rest =>
          unfold Call.advance Store.grantToUser
          dsimp only
          split
          · exact regular
          · exact regular_of_same regular rfl rfl rfl
  | rewarding side userId rest => exact regular_of_same regular rfl rfl rfl
  | scoring side userId rest => exact regular_of_same regular rfl rfl rfl
  | _ => exact regular

/-- The call that goes on has seen what it relies on next. -/
theorem relies_advance (relies : call.Relies store) :
    (call.advance store).2.Relies (call.advance store).1 := by
  cases call with
  | gettingActive gift =>
      unfold Call.advance
      dsimp only
      split
      · exact trivial
      · exact trivial
  | gettingBattle gift =>
      unfold Call.advance
      dsimp only
      split
      · exact trivial
      · rename_i isActive
        rw [Decidable.not_not] at isActive
        change store.battle.status ≠ .completed
        rw [isActive]
        exact nofun
  | findingParticipant gift =>
      unfold Call.advance
      dsimp only
      cases found : store.findParticipant gift.receiverId with
      | none => exact trivial
      | some participant => exact ⟨relies, participant, found, rfl⟩
  | findingExpired now =>
      unfold Call.advance
      dsimp only
      split
      · exact trivial
      · exact trivial
  | gettingFresh =>
      unfold Call.advance
      dsimp only
      split
      · exact trivial
      · rename_i isActive
        rw [Decidable.not_not] at isActive
        refine ⟨?_, rfl⟩
        rw [isActive]
        exact nofun
  | completing result => exact ⟨rfl, rfl⟩
  | listingParticipants result =>
      unfold Call.advance
      dsimp only
      split
      · exact trivial
      · exact trivial
  | findingBadge side winners =>
      cases winners with
      | nil => exact trivial
      | cons userId rest => exact trivial
  | granting side rest =>
      cases rest with
      | nil => exact trivial
      | cons userId rest => exact trivial
  | scoring side userId rest =>
      cases rest with
      | nil => exact trivial
      | cons next rest => exact trivial
  | gettingActiveToCancel =>
      unfold Call.advance
      dsimp only
      split
      · exact trivial
      · exact trivial
  | _ => exact trivial

theorem relies_of_unlocked (free : call.locks = []) : call.Relies store := by
  cases call with
  | findingParticipant gift => cases free
  | applying gift side => cases free
  | completing result => cases free
  | listingParticipants result => cases free
  | _ => exact trivial

theorem relies_congr (battle : after.battle = store.battle)
    (participants : after.participants = store.participants) (relies : call.Relies store) :
    call.Relies after := by
  cases call with
  | findingParticipant gift =>
      change after.battle.status ≠ .completed
      rw [battle]
      exact relies
  | applying gift side =>
      change after.battle.status ≠ .completed ∧ ∃ participant,
        KeyedRows.find PkParticipant.userId gift.receiverId after.participants =
          some participant ∧ _
      rw [battle, participants]
      exact relies
  | completing result =>
      change after.battle.status ≠ .completed ∧ result = after.battle.outcome
      rw [battle]
      exact relies
  | listingParticipants result =>
      change after.battle.status = .completed ∧ after.battle.result = some result
      rw [battle]
      exact relies
  | _ => exact trivial

theorem participants_advance (call : Call) (store : Store) :
    (call.advance store).1.participants = store.participants ∨
      ∃ gift side, call = .applying gift side := by
  cases call with
  | applying gift side => exact Or.inr ⟨gift, side, rfl⟩
  | granting side rest =>
      left
      cases rest with
      | nil => rfl
      | cons userId rest =>
          unfold Call.advance Store.grantToUser
          dsimp only
          split
          · rfl
          · rfl
  | _ => exact Or.inl rfl

theorem relies_cancelled (active : store.battle.status = .active) (relies : call.Relies store) :
    call.Relies store.cancel := by
  cases call with
  | findingParticipant gift => exact nofun
  | applying gift side => exact ⟨nofun, relies.2⟩
  | completing result => exact ⟨nofun, relies.2⟩
  | listingParticipants result => exact absurd (active.symm.trans relies.1) (by decide)
  | _ => exact trivial

/-- With the lock the other call has nothing to fear; a cancellation finds no completion. -/
theorem relies_of_other (apart : Apart Call.locks call other) (endsOnce : call.EndsOnce store)
    (relies : other.Relies store) : other.Relies (call.advance store).1 := by
  have alone : .pkBattle ∈ call.locks → other.Relies (call.advance store).1 := by
    intro held
    apply relies_of_unlocked
    have notHeld := apart _ held
    cases isLocks : other.locks with
    | nil => rfl
    | cons key rest =>
        cases key
        rw [isLocks] at notHeld
        exact absurd List.mem_cons_self notHeld
  rcases battle_advance call store with battle | ⟨gift, side, rfl⟩ | ⟨result, rfl⟩ | rfl
  · rcases participants_advance call store with participants | ⟨gift, side, rfl⟩
    · exact relies_congr battle participants relies
    · exact alone List.mem_cons_self
  · exact alone List.mem_cons_self
  · exact alone List.mem_cons_self
  · exact relies_cancelled endsOnce relies

theorem takes_advance (store : Store) (call : Call) :
    ∀ key ∈ (call.advance store).2.locks, key ∈ call.awaits ∨ key ∈ call.locks := by
  rintro ⟨⟩ held
  cases call with
  | lockingGift gift => exact Or.inl rfl
  | lockingBattle => exact Or.inl rfl
  | gettingActive gift =>
      unfold Call.advance at held
      dsimp only at held
      split at held
      · cases held
      · cases held
  | findingExpired now =>
      unfold Call.advance at held
      dsimp only at held
      split at held
      · cases held
      · cases held
  | gettingActiveToCancel =>
      unfold Call.advance at held
      dsimp only at held
      split at held
      · cases held
      · cases held
  | publishing => cases held
  | cancelling => cases held
  | ended => cases held
  | _ => exact Or.inr List.mem_cons_self

/-! ### The prizes -/

def Call.owing (members : PkSide → List UserId) (prize : Prize) (userId : UserId) (call : Call) :
    Int :=
  (call.owes members prize).count userId

/-- Each winner has a prize or is owed it. -/
def World.Owed (world : World) : Prop :=
  ∀ prize userId, ((world.store.paid prize).count userId : Int) +
    underWay (Call.owing world.store.members prize userId) world.calls =
      world.store.winners.count userId

theorem winners_of_notCompleted (notCompleted : store.battle.status ≠ .completed) :
    store.winners = [] := if_neg notCompleted

theorem winners_completed (store : Store) (result : PkResult) :
    (store.complete result).winners = result.winningSide.elim [] store.members := by
  unfold Store.winners Store.complete
  rw [if_pos rfl]
  cases result with
  | red => rfl
  | blue => rfl
  | draw => rfl

theorem nodup_winners (distinct : (store.participants.map PkParticipant.userId).Nodup) :
    store.winners.Nodup := by
  unfold Store.winners
  split
  · split
    · exact List.nodup_nil
    · unfold Store.members
      exact distinct.sublist (List.filter_sublist.map _)
  · exact List.nodup_nil

theorem owes_rewardingNext (members : PkSide → List UserId) (prize : Prize) (side : PkSide)
    (rest : List UserId) : (Call.rewardingNext side rest).owes members prize = rest := by
  cases rest with
  | nil => rfl
  | cons userId rest => rfl

/-- The prize moves from what is owed to what is paid. -/
theorem count_paid {paid owed : List UserId} (winner userId : UserId) :
    (paid ++ [winner]).count userId + owed.count userId =
      paid.count userId + (winner :: owed).count userId := by
  rw [List.count_append, add_assoc, ← List.count_append, List.singleton_append]

theorem badges_grantToUser {userId : UserId} (fresh : userId ∉ store.badges) :
    store.grantToUser userId = { store with badges := store.badges ++ [userId] } := if_neg fresh

/-- What is paid and owed moves as the winners do. -/
theorem owed_advance (relies : call.Relies store) (endsOnce : call.EndsOnce store)
    (fresh : ∀ side userId rest, call = .granting side (userId :: rest) → userId ∉ store.badges)
    (prize : Prize) (userId : UserId) :
    ((call.advance store).1.paid prize).count userId +
        ((call.advance store).2.owes store.members prize).count userId +
          store.winners.count userId =
      (store.paid prize).count userId + (call.owes store.members prize).count userId +
        (call.advance store).1.winners.count userId := by
  cases call with
  | gettingActive gift =>
      unfold Call.advance
      dsimp only
      split
      · rfl
      · rfl
  | gettingBattle gift =>
      unfold Call.advance
      dsimp only
      split
      · rfl
      · rfl
  | findingParticipant gift =>
      unfold Call.advance
      dsimp only
      split
      · rfl
      · rfl
  | findingExpired now =>
      unfold Call.advance
      dsimp only
      split
      · rfl
      · rfl
  | gettingFresh =>
      unfold Call.advance
      dsimp only
      split
      · rfl
      · rfl
  | gettingActiveToCancel =>
      unfold Call.advance
      dsimp only
      split
      · rfl
      · rfl
  | applying gift side =>
      have after : (store.applyContribution gift side).winners = [] := by
        apply winners_of_notCompleted
        change (store.battle.addScore side gift.amount).status ≠ .completed
        rw [status_addScore]
        exact relies.1
      change _ + _ + store.winners.count userId =
        _ + _ + (store.applyContribution gift side).winners.count userId
      rw [after, winners_of_notCompleted relies.1]
      rfl
  | completing result =>
      change (store.paid prize).count userId + (result.winningSide.elim [] store.members).count
        userId + store.winners.count userId =
          (store.paid prize).count userId + 0 + (store.complete result).winners.count userId
      rw [winners_completed, winners_of_notCompleted relies.1]
      rfl
  | cancelling =>
      have before : store.winners = [] := by
        apply winners_of_notCompleted
        intro isCompleted
        exact absurd (endsOnce.symm.trans isCompleted) (by decide)
      have after : store.cancel.winners = [] := winners_of_notCompleted nofun
      change _ + _ + store.winners.count userId = _ + _ + store.cancel.winners.count userId
      rw [after, before]
      rfl
  | listingParticipants result =>
      cases result with
      | red => rfl
      | blue => rfl
      | draw => rfl
  | findingBadge side winners =>
      unfold Call.advance
      dsimp only
      rw [owes_rewardingNext]
      rfl
  | granting side rest =>
      cases rest with
      | nil => rfl
      | cons winner rest =>
          unfold Call.advance
          dsimp only
          rw [badges_grantToUser (fresh side winner rest rfl)]
          cases prize with
          | badge => exact congrArg (· + store.winners.count userId) (count_paid winner userId)
          | reward => rfl
          | win => rfl
  | rewarding side winner rest =>
      cases prize with
      | badge => rfl
      | reward =>
          change ((store.rewards ++ [_]).map PkReward.userId).count userId + rest.count userId +
            store.winners.count userId = _
          rw [List.map_append]
          exact congrArg (· + store.winners.count userId) (count_paid winner userId)
      | win => rfl
  | scoring side winner rest =>
      unfold Call.advance
      dsimp only
      rw [owes_rewardingNext]
      cases prize with
      | badge => rfl
      | reward => rfl
      | win => exact congrArg (· + store.winners.count userId) (count_paid winner userId)
  | _ => rfl

/-! ### Every run -/

def locked : Outline Store Call where
  world := Store.Regular
  asserts := fun store call => call.Relies store
  apart := Apart Call.locks

namespace World

structure Sound (world : World) : Prop where
  holds : locked.Holds world.store world.calls
  owed : world.Owed

theorem Sound.spawn (sound : world.Sound) {call : Call} (free : call.locks = [])
    (owes : ∀ prize, call.owes world.store.members prize = []) : (world.spawn call).Sound where
  holds := Outline.Holds.spawn sound.holds (relies_of_unlocked free) fun other _ =>
    ⟨apart_of_none free, (apart_of_none free).symm⟩
  owed := by
    intro prize userId
    have isNone : call.owing world.store.members prize userId = 0 := by
      unfold Call.owing
      rw [owes prize]
      rfl
    unfold World.spawn
    dsimp only
    rw [underWay_spawn, isNone, add_zero]
    exact sound.owed prize userId

/-- No winner has a badge that a call still owes him. -/
theorem Sound.fresh (sound : world.Sound) {position : Nat} {side : PkSide} {userId : UserId}
    {rest : List UserId}
    (found : world.calls[position]? = some (.granting side (userId :: rest))) :
    userId ∉ world.store.badges := by
  have once := (List.nodup_iff_count_le_one.mp
    (nodup_winners sound.holds.world.distinct)) userId
  have owed := sound.owed .badge userId
  have nonneg : 0 ≤ underWay (Call.owing world.store.members .badge userId)
      (world.calls.set position .ended) := underWay_nonneg (fun _ => Int.natCast_nonneg _) _
  have moved := underWay_set (Call.owing world.store.members .badge userId) found .ended
  have isOwed : Call.owing world.store.members .badge userId
      (.granting side (userId :: rest)) = rest.count userId + 1 :=
    congrArg Int.ofNat List.count_cons_self
  have isNone : Call.owing world.store.members .badge userId .ended = 0 := rfl
  rw [isOwed, isNone] at moved
  have isPaid : (world.store.paid .badge).count userId = 0 := by omega
  exact List.count_eq_zero.mp isPaid

theorem owed_resume (sound : world.Sound) {position : Nat} {call : Call}
    (found : world.calls[position]? = some call) (endsOnce : call.EndsOnce world.store) :
    World.Owed
      { store := (call.advance world.store).1
        calls := world.calls.set position (call.advance world.store).2 } := by
  intro prize userId
  have relies := sound.holds.asserts call (List.mem_of_getElem? found)
  have step := owed_advance relies endsOnce
    (fun side userId rest isGranting => Sound.fresh sound (isGranting ▸ found)) prize userId
  have moved := underWay_set (Call.owing world.store.members prize userId) found
    (call.advance world.store).2
  have before := sound.owed prize userId
  have isNow : Call.owing world.store.members prize userId call =
      ((call.owes world.store.members prize).count userId : Int) := rfl
  have isNext : Call.owing world.store.members prize userId (call.advance world.store).2 =
      (((call.advance world.store).2.owes world.store.members prize).count userId : Int) := rfl
  dsimp only
  rw [members_advance]
  omega

theorem Sound.resume (sound : world.Sound) {position : Nat} {call : Call}
    (found : world.calls[position]? = some call) (endsOnce : call.EndsOnce world.store) :
    (world.resume position call).Sound := by
  unfold World.resume
  split
  · exact sound
  · rename_i unblocked
    have relies := sound.holds.asserts call (List.mem_of_getElem? found)
    refine ⟨?_, owed_resume sound found endsOnce⟩
    refine Outline.Holds.goOn sound.holds found
      (regular_advance sound.holds.world relies endsOnce) (relies_advance relies) ?_
    intro other member otherRelies apart _
    have nextApart : Apart Call.locks (call.advance world.store).2 other :=
      apart.of_taken (takes_advance world.store call) (untaken unblocked member)
    exact ⟨relies_of_other apart endsOnce otherRelies, nextApart, nextApart.symm⟩

theorem owes_of_none {members : PkSide → List UserId} {call : Call}
    (none : call.owes members .win = []) (prize : Prize) : call.owes members prize = [] := by
  cases call with
  | rewarding side userId rest => cases none
  | scoring side userId rest => cases none
  | _ => exact none

theorem sound_step (sound : world.Sound) (event : Event) (endsOnce : world.EndsOnce event) :
    (world.step event).Sound := by
  cases event with
  | handleGift gift =>
      unfold step
      dsimp only
      split
      · exact sound
      · exact sound.spawn rfl fun _ => rfl
  | complete => exact sound.spawn rfl fun _ => rfl
  | completeExpired now => exact sound.spawn rfl fun _ => rfl
  | cancel => exact sound.spawn rfl fun _ => rfl
  | resume position =>
      unfold step
      dsimp only
      cases found : world.calls[position]? with
      | none => exact sound
      | some call => exact sound.resume found (endsOnce call found)
  | fails position =>
      unfold step
      dsimp only
      cases found : world.calls[position]? with
      | none =>
          rw [List.set_eq_of_length_le (List.getElem?_eq_none_iff.mp found)]
          exact sound
      | some call =>
          constructor
          · refine Outline.Holds.goOn sound.holds found sound.holds.world trivial ?_
            exact fun other _ relies _ _ =>
              ⟨relies, apart_of_none rfl, (apart_of_none rfl).symm⟩
          · intro prize userId
            have moved := underWay_set (Call.owing world.store.members prize userId) found .ended
            have isNone : Call.owing world.store.members prize userId .ended = 0 := rfl
            have wasNone : call.owing world.store.members prize userId = 0 := by
              unfold Call.owing
              rw [owes_of_none (endsOnce call found) prize]
              rfl
            rw [isNone, wasNone, add_zero, add_zero] at moved
            dsimp only
            rw [moved]
            exact sound.owed prize userId

theorem keepsEnd_of_endsOnce (event : Event) (endsOnce : world.EndsOnce event) :
    world.KeepsEnd event := by
  intro isOver
  cases event with
  | handleGift gift =>
      unfold step
      dsimp only
      split
      · rfl
      · rfl
  | resume position =>
      unfold step
      dsimp only
      cases found : world.calls[position]? with
      | none => rfl
      | some call =>
          unfold World.resume
          dsimp only
          split
          · rfl
          · have isOnce := endsOnce call found
            rcases battle_advance call world.store with same | ⟨gift, side, rfl⟩ | ⟨result, rfl⟩ | rfl
            · rw [same]
            · exact status_addScore world.store.battle side gift.amount
            · exact absurd isOnce isOver
            · exact absurd isOnce isOver
  | _ => rfl

end World

/-! ### The sweep -/

/-- The last call goes on, the others have ended. -/
theorem step_last {calls : List Call} (idle : ∀ call ∈ calls, call = .ended) (store : Store)
    (call : Call) :
    World.step { store := store, calls := calls ++ [call] } (.resume calls.length) =
      { store := (call.advance store).1
        calls := calls ++ [(call.advance store).2] } := by
  have unblocked : ¬World.Blocked { store := store, calls := calls ++ [call] } call := by
    rintro ⟨key, awaited, taken⟩
    apply taken
    intro other member held
    rcases List.mem_append.mp member with before | isLast
    · rw [idle other before] at held
      cases held
    · rw [List.mem_singleton.mp isLast] at held
      cases call with
      | lockingGift gift => cases held
      | lockingBattle => cases held
      | _ => cases awaited
  unfold World.step World.resume
  dsimp only
  rw [List.getElem?_concat_length]
  dsimp only
  rw [if_neg unblocked, List.set_append_right _ _ (le_refl _), Nat.sub_self, List.set_cons_zero]

theorem ends_of_idle {world : World} (idle : world.Idle) {now : Nat}
    (expired : world.store.battle.endsAt ≤ now) :
    (Runs.run World.step world (world.sweeping now)).store.battle.status ≠ .active := by
  change (World.step (World.step (World.step (World.step
    { store := world.store, calls := world.calls ++ [.findingExpired now] } (.resume _))
      (.resume _)) (.resume _)) (.resume _)).store.battle.status ≠ .active
  rw [step_last idle, step_last idle, step_last idle, step_last idle]
  by_cases isActive : world.store.battle.status = .active
  · have isFound : (Call.findingExpired now).advance world.store = (world.store, .lockingBattle) := by
      unfold Call.advance
      dsimp only
      rw [if_pos ⟨isActive, expired⟩]
    have isFresh : Call.gettingFresh.advance world.store =
        (world.store, .completing world.store.battle.outcome) := by
      unfold Call.advance
      dsimp only
      rw [if_neg (not_not_intro isActive)]
    rw [isFound]
    change ((Call.gettingFresh.advance world.store).2.advance
      (Call.gettingFresh.advance world.store).1).1.battle.status ≠ .active
    rw [isFresh]
    exact nofun
  · have isOver : (Call.findingExpired now).advance world.store = (world.store, .ended) := by
      unfold Call.advance
      dsimp only
      rw [if_neg fun both => isActive both.1]
    rw [isOver]
    exact isActive

theorem World.Sound.right {world : World} (sound : world.Sound) : world.Right where
  counts := sound.holds.world.counts
  paid := by
    intro idle prize userId
    have owed := sound.owed prize userId
    rw [underWay_eq_zero, add_zero] at owed
    · rw [Int.natCast_inj.mp owed]
      exact List.Nodup.count (nodup_winners sound.holds.world.distinct)
    · intro call member
      rw [idle call member]
      rfl
  ends := fun idle _ expired => ends_of_idle idle expired

/-! ### From the start -/

/-- A battle as it is created, with its participants. -/
def started (endsAt : Nat) (roster : List (UserId × PkSide)) : World where
  store :=
    { battle := { endsAt := endsAt }
      participants := roster.map fun entry =>
        { userId := entry.1
          side := entry.2 } }

theorem sound_started (endsAt : Nat) {roster : List (UserId × PkSide)}
    (distinct : (roster.map Prod.fst).Nodup) : (started endsAt roster).Sound where
  holds := by
    refine Outline.holds_nil ⟨?_, ?_, ?_, ?_⟩
    · unfold started
      dsimp only
      rw [List.map_map]
      exact distinct
    · intro side
      have scored : (started endsAt roster).store.scored side = 0 := by
        apply List.sum_eq_zero
        intro score member
        obtain ⟨participant, inside, rfl⟩ := List.mem_map.mp member
        obtain ⟨entry, -, rfl⟩ := List.mem_map.mp inside
        exact ite_self 0
      have isNone : (started endsAt roster).store.battle.score side = 0 := by
        cases side with
        | red => rfl
        | blue => rfl
      exact ⟨isNone, isNone.trans scored.symm⟩
    · exact fun _ => Nat.zero_le 1
    · exact nofun
  owed := by
    intro prize userId
    cases prize with
    | badge => rfl
    | reward => rfl
    | win => rfl

/-- Where each write that ends the battle finds it active, no gift is counted again and no
call fails that owes a prize, every run is right. -/
theorem right_of_endsOnce (endsAt : Nat) (roster : List (UserId × PkSide))
    (distinct : (roster.map Prod.fst).Nodup) (events : List Event)
    (endsOnce : Runs.Each World.step World.EndsOnce (started endsAt roster) events) :
    Runs.Always World.step World.Right (started endsAt roster) events ∧
      Runs.Each World.step World.KeepsEnd (started endsAt roster) events := by
  have kept : ∀ (world : World) (event : Event), world.Sound → world.EndsOnce event →
      (world.step event).Sound := fun _ event sound once => World.sound_step sound event once
  have gives : ∀ (world : World) (event : Event), world.Sound → world.EndsOnce event →
      world.KeepsEnd event := fun _ event _ once => World.keepsEnd_of_endsOnce event once
  have sound := sound_started endsAt distinct
  refine ⟨?_, Runs.each_of_each kept gives _ sound events endsOnce⟩
  have always := Runs.always_of_each kept _ sound events endsOnce
  exact always.imp fun _ isSound => isSound.right

def duel : World := started 100 [("alice", .red), ("bob", .blue)]

def resumes (position times : Nat) : List Event := List.replicate times (.resume position)

def gifted (receiverId : UserId) (amount : Int) (giftTxnId : String) : Event :=
  .handleGift
    { receiverId := receiverId
      amount := amount
      giftTxnId := some giftTxnId }

/-- A sweep dies before it ends the battle, the next rewards the winner, and a cancellation
comes too late. -/
def swept : List Event :=
  [gifted "alice" 30 "rose"] ++ resumes 0 6 ++ [gifted "bob" 20 "car"] ++ resumes 1 6 ++
    [.completeExpired 100] ++ resumes 2 3 ++ [.fails 2, .completeExpired 100] ++ resumes 3 10 ++
      [.cancel] ++ resumes 4 2

theorem right_swept :
    Runs.Always World.step World.Right duel swept ∧
      Runs.Each World.step World.KeepsEnd duel swept :=
  right_of_endsOnce 100 _ (by decide) swept (by decide +kernel)

/-- A cancellation reads the battle before it is completed, and writes it after. -/
def cancelledLate : List Event :=
  [gifted "alice" 30 "rose"] ++ resumes 0 6 ++ [.cancel] ++ resumes 1 1 ++ [.complete] ++
    resumes 2 9 ++ resumes 1 1

/-- A gift is delivered twice. -/
def redelivered : List Event :=
  [gifted "alice" 30 "rose"] ++ resumes 0 6 ++ [gifted "alice" 30 "rose"] ++ resumes 1 6

/-- The completion dies before it rewards the winner, and the sweep comes again. -/
def cutOff : List Event :=
  [gifted "alice" 30 "rose"] ++ resumes 0 6 ++ [.complete] ++ resumes 1 4 ++
    [.fails 1, .completeExpired 100] ++ resumes 2 9

def RightRun (events : List Event) : Prop :=
  Runs.Always World.step World.Right duel events ∧
    Runs.Each World.step World.KeepsEnd duel events

theorem not_right_raced : ¬RightRun cancelledLate ∧ ¬RightRun redelivered ∧ ¬RightRun cutOff := by
  refine ⟨?_, ?_, ?_⟩
  · rintro ⟨-, keepsEnd⟩
    exact absurd keepsEnd (by decide +kernel)
  · rintro ⟨always, -⟩
    exact absurd (always.final.counts.once "rose") (by decide +kernel)
  · rintro ⟨always, -⟩
    exact absurd (always.final.paid (by decide +kernel) .win "alice") (by decide +kernel)

end Soulzaa.AudioRooms.PkBattles
