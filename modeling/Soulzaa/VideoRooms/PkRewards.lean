/-
The money of a settled video PK battle.

A settlement that commits adds exactly the rewards that the shares of its pool give, and their
credits.  What is credited is what is allocated wherever no reward is rounded on its way into
the wallet.
-/

import Soulzaa.Lib.Runs
import Soulzaa.VideoRooms.PkSettlement

namespace Soulzaa.VideoRooms

open Portions Runs

namespace PkStore

/-! ### What is promised -/

def credited (store : PkStore) : Int := (store.credits.map GoldCredit.amount).sum

/-- Everything but the scores. -/
def unscored (store : PkStore) : PkStore :=
  { store with
    teams := store.teams.map fun team => { team with score := 0 }
    participants := store.participants.map fun participant => { participant with score := 0 }
    contributions := store.contributions.map fun row => { row with scoredAmount := 0 } }

structure Funded (store : PkStore) : Prop where
  unpaid : store.pool = none → store.credits = []
  allocated : ∀ pool, store.pool = some pool → store.credited = pool.allocatedAmount
  bounded : ∀ pool, store.pool = some pool → 0 ≤ pool.allocatedAmount ∧
    pool.allocatedAmount ≤ pool.poolAmount ∧ pool.poolAmount ≤ pool.sourceAmount
  draw : store.isDraw = true → ∀ credit ∈ store.credits, credit.kind ≠ .winner
  once : (store.credits.map fun credit => (credit.userId, credit.kind)).Nodup

/-- Nothing of the battle is settled yet. -/
structure Unsettled (store : PkStore) : Prop where
  pool : store.pool = none
  rewards : store.rewards = []
  credits : store.credits = []

/-- The rewards of a settlement of these rows. -/
def grants (store : PkStore) : List VideoRoomPkReward :=
  store.winnerRewards ++ store.participationRewards ++ store.bonusRewards

/-- Every reward is a number of the wallet's interface. -/
def Exact (store : PkStore) : Prop :=
  ∀ reward ∈ store.grants, asNumber reward.amount = reward.amount

/-! ### The snapshot and the shares -/

theorem clampBps_bounds (number : JsonNumber) :
    0 ≤ clampBps number ∧ clampBps number ≤ bpsDenominator := by
  cases number with
  | infinite negative =>
      have whole : 0 ≤ bpsDenominator := by decide
      exact ⟨Int.le_refl 0, whole⟩
  | finite value =>
      unfold clampBps
      exact ⟨le_min (by decide) (le_max_left _ _), min_le_left _ _⟩

theorem bps_bounds (raw : Json) (field : String) :
    0 ≤ raw.bps field ∧ raw.bps field ≤ bpsDenominator := by
  unfold Json.bps
  split
  · split
    · exact clampBps_bounds _
    · exact ⟨Int.le_refl 0, by decide⟩
  · exact ⟨Int.le_refl 0, by decide⟩

structure Safe (snapshot : PkRewardSnapshot) : Prop where
  pool : 0 ≤ snapshot.poolBps ∧ snapshot.poolBps ≤ bpsDenominator
  split : ∀ rate ∈ [snapshot.winnerBps, snapshot.participationBps, snapshot.bonusBps], 0 ≤ rate
  within : [snapshot.winnerBps, snapshot.participationBps, snapshot.bonusBps].sum ≤ bpsDenominator

/-- Whatever the snapshot is, the rates of the split come to at most the whole. -/
theorem safe_snapshot (raw : Json) : Safe (toSafeRewardSnapshot raw) := by
  have winner := (bps_bounds raw "winnerBps").1
  have participation := (bps_bounds raw "participationBps").1
  have bonus := (bps_bounds raw "bonusBps").1
  have rated : ∀ rate ∈ [raw.bps "winnerBps", raw.bps "participationBps", raw.bps "bonusBps"],
      0 ≤ rate := by
    simp only [List.forall_mem_cons, List.not_mem_nil, false_implies, implies_true, and_true]
    exact ⟨winner, participation, bonus⟩
  have summed : [raw.bps "winnerBps", raw.bps "participationBps", raw.bps "bonusBps"].sum =
      raw.bps "winnerBps" + raw.bps "participationBps" + raw.bps "bonusBps" := by
    simp only [List.sum_cons, List.sum_nil, Int.add_zero, Int.add_assoc]
  unfold toSafeRewardSnapshot
  dsimp only
  split
  · rename_i exceeds
    have positive : 0 < raw.bps "winnerBps" + raw.bps "participationBps" + raw.bps "bonusBps" :=
      Int.lt_trans (by decide) exceeds
    refine ⟨bps_bounds raw "poolBps", ?_, ?_⟩
    · simp only [List.forall_mem_cons, List.not_mem_nil, false_implies, implies_true, and_true]
      exact ⟨portion_nonneg positive (by decide) winner,
        portion_nonneg positive (by decide) participation,
        portion_nonneg positive (by decide) bonus⟩
    · exact sum_portion_le positive (by decide) rated (Int.le_of_eq summed)
  · rename_i fits
    exact ⟨bps_bounds raw "poolBps", rated, summed.trans_le (Int.not_lt.mp fits)⟩

variable {store after : PkStore} {rewards : List VideoRoomPkReward} {paid : PkStore × Int}

theorem poolAmount_bounds (nonneg : 0 ≤ store.sourceAmount) :
    0 ≤ store.poolAmount ∧ store.poolAmount ≤ store.sourceAmount := by
  have safe := safe_snapshot store.rewardSnapshot
  exact ⟨portion_nonneg (by decide) nonneg safe.pool.1,
    portion_le (by decide) nonneg safe.pool.1 safe.pool.2⟩

/-- The three shares together are at most the pool. -/
theorem shares_le (nonneg : 0 ≤ store.sourceAmount) :
    (0 ≤ store.winnerShare ∧ 0 ≤ store.participationShare ∧ 0 ≤ store.bonusShare) ∧
      store.winnerShare + store.participationShare + store.bonusShare ≤ store.poolAmount := by
  have safe := safe_snapshot store.rewardSnapshot
  have pool := (poolAmount_bounds nonneg).1
  obtain ⟨winner, participation, bonus, -⟩ := List.forall_mem_cons.mp safe.split |>.imp id
    fun rest => List.forall_mem_cons.mp rest |>.imp id List.forall_mem_cons.mp
  have whole := sum_portion_le (by decide) pool safe.split safe.within
  simp only [List.map_cons, List.map_nil, List.sum_cons, List.sum_nil, Int.add_zero] at whole
  have won : 0 ≤ portion bpsDenominator store.poolAmount store.snapshot.winnerBps :=
    portion_nonneg (by decide) pool winner
  have joined : 0 ≤ store.participationShare := portion_nonneg (by decide) pool participation
  have extra : 0 ≤ store.bonusShare := portion_nonneg (by decide) pool bonus
  have atMost : store.winnerShare ≤
      portion bpsDenominator store.poolAmount store.snapshot.winnerBps := by
    unfold winnerShare
    split
    · exact won
    · exact Int.le_refl _
  refine ⟨⟨?_, joined, extra⟩, ?_⟩
  · unfold winnerShare
    split
    · exact Int.le_refl 0
    · exact won
  · have split : portion bpsDenominator store.poolAmount store.snapshot.winnerBps +
        (store.participationShare + store.bonusShare) ≤ store.poolAmount := whole
    omega

def total (rewards : List VideoRoomPkReward) : Int :=
  (rewards.map VideoRoomPkReward.amount).sum

theorem total_append (one two : List VideoRoomPkReward) :
    total (one ++ two) = total one + total two := by
  unfold total
  rw [List.map_append, List.sum_append]

/-- Equal rewards are positive and come to at most the share. -/
theorem shareOut_spec {recipients : List VideoRoomPkReward} {share : Int} (nonneg : 0 ≤ share) :
    0 ≤ total (shareOut recipients share) ∧ total (shareOut recipients share) ≤ share := by
  unfold shareOut
  split
  · dsimp only
    split
    · have same : total (recipients.map fun recipient =>
          { recipient with amount := share.tdiv recipients.length }) =
          recipients.length * share.tdiv recipients.length := by
        unfold total
        rw [List.map_map]
        have constant : (VideoRoomPkReward.amount ∘ fun recipient : VideoRoomPkReward =>
            { recipient with amount := share.tdiv recipients.length }) =
            fun _ => share.tdiv recipients.length := rfl
        rw [constant, List.map_const', List.sum_replicate, nsmul_eq_mul]
      rw [same]
      exact ⟨Int.mul_nonneg (Int.natCast_nonneg _) (tdiv_nonneg nonneg _),
        mul_tdiv_le nonneg recipients.length⟩
    · exact ⟨Int.le_refl 0, nonneg⟩
  · exact ⟨Int.le_refl 0, nonneg⟩

theorem total_grants (nonneg : 0 ≤ store.sourceAmount) :
    0 ≤ total store.grants ∧ total store.grants ≤ store.poolAmount := by
  obtain ⟨⟨won, joined, extra⟩, within⟩ := shares_le nonneg
  have winner := @shareOut_spec (store.winners.map (rewardOf .winner)) _ won
  have participation := @shareOut_spec (store.participants.map (rewardOf .participation)) _ joined
  have bonus := @shareOut_spec ((topContributor store.contributions).toList.map bonusOf) _ extra
  unfold grants winnerRewards participationRewards bonusRewards
  rw [total_append, total_append]
  omega

theorem kind_of_shareOut {recipients : List VideoRoomPkReward} {share : Int}
    {kind : VideoRoomPkRewardKind} (all : ∀ reward ∈ recipients, reward.kind = kind) :
    ∀ reward ∈ shareOut recipients share, reward.kind = kind := by
  unfold shareOut
  split
  · dsimp only
    split
    · intro reward member
      obtain ⟨recipient, inside, rfl⟩ := List.mem_map.mp member
      exact all recipient inside
    · exact nofun
  · exact nofun

/-- In a draw nobody has a winner's reward. -/
theorem no_winner_of_draw (draw : VideoRooms.isDraw store.teams = true) :
    ∀ reward ∈ store.grants, reward.kind ≠ .winner := by
  have nobody : store.winnerRewards = [] := by
    unfold winnerRewards winnerShare shareOut
    rw [if_pos draw]
    exact if_neg fun shared => absurd shared.2 (by decide)
  intro reward member isWinner
  unfold grants at member
  rw [nobody, List.nil_append] at member
  rcases List.mem_append.mp member with joined | extra
  · have joining : ∀ recipient ∈ store.participants.map (rewardOf .participation),
        recipient.kind = .participation := by
      intro recipient inside
      obtain ⟨participant, -, rfl⟩ := List.mem_map.mp inside
      rfl
    exact nomatch (kind_of_shareOut joining reward joined).symm.trans isWinner
  · have extras : ∀ recipient ∈ (topContributor store.contributions).toList.map bonusOf,
        recipient.kind = .bonus := by
      intro recipient inside
      obtain ⟨userId, -, rfl⟩ := List.mem_map.mp inside
      rfl
    exact nomatch (kind_of_shareOut extras reward extra).symm.trans isWinner

/-! ### Payouts -/

def rewardKey (reward : VideoRoomPkReward) : UserId × VideoRoomPkRewardKind :=
  (reward.userId, reward.kind)

def creditOf (reward : VideoRoomPkReward) : GoldCredit where
  userId := reward.userId
  kind := reward.kind
  amount := asNumber reward.amount

/-- Each reward has its credit, and no user has two of a kind. -/
structure Booked (store : PkStore) : Prop where
  credits : store.credits = store.rewards.map creditOf
  once : (store.rewards.map rewardKey).Nodup

def add (store : PkStore) (rewards : List VideoRoomPkReward) : PkStore :=
  { store with
    rewards := store.rewards ++ rewards
    credits := store.credits ++ rewards.map creditOf }

theorem payOne_eq {reward : VideoRoomPkReward} (booked : store.Booked) :
    store.payOne reward =
      if rewardKey reward ∈ store.rewards.map rewardKey then none else some (store.add [reward]) := by
  have there : (store.rewards.any fun row => row.userId = reward.userId && row.kind = reward.kind) =
      decide (rewardKey reward ∈ store.rewards.map rewardKey) := by
    rw [List.any_eq, decide_eq_decide]
    constructor
    · rintro ⟨row, member, same⟩
      obtain ⟨sameUser, sameKind⟩ := Bool.and_eq_true_iff.mp same
      exact List.mem_map.mpr
        ⟨row, member, Prod.ext (of_decide_eq_true sameUser) (of_decide_eq_true sameKind)⟩
    · intro inside
      obtain ⟨row, member, same⟩ := List.mem_map.mp inside
      obtain ⟨sameUser, sameKind⟩ := Prod.mk.inj same
      exact ⟨row, member, by rw [decide_eq_true sameUser, decide_eq_true sameKind]; rfl⟩
  unfold payOne
  rw [there]
  by_cases known : rewardKey reward ∈ store.rewards.map rewardKey
  · rw [if_pos known, decide_eq_true known, if_pos rfl]
  · rw [if_neg known, decide_eq_false known, if_neg Bool.false_ne_true]
    have unposted : ({ store with rewards := store.rewards ++ [reward] }.credits.any fun posted =>
        posted.userId = reward.userId && posted.kind = reward.kind) = false := by
      apply List.any_eq_false.mpr
      intro posted member
      dsimp only at member
      rw [booked.credits] at member
      obtain ⟨row, inside, rfl⟩ := List.mem_map.mp member
      intro same
      obtain ⟨sameUser, sameKind⟩ := Bool.and_eq_true_iff.mp same
      exact known (List.mem_map.mpr
        ⟨row, inside, Prod.ext (of_decide_eq_true sameUser) (of_decide_eq_true sameKind)⟩)
    unfold credit
    rw [unposted, if_neg Bool.false_ne_true]
    rfl

theorem Booked.add (booked : store.Booked)
    (once : ((store.rewards ++ rewards).map rewardKey).Nodup) : (store.add rewards).Booked where
  credits := by
    unfold PkStore.add
    dsimp only
    rw [List.map_append, booked.credits]
  once := once

/-- Either every reward is paid, or a unique key stops the payout. -/
theorem payEach_eq {allocated : Int} (booked : store.Booked) :
    payEach rewards (store, allocated) =
      if ((store.rewards ++ rewards).map rewardKey).Nodup then
        some (store.add rewards, allocated + total rewards)
      else none := by
  induction rewards generalizing store allocated with
  | nil =>
      unfold payEach PkStore.add total
      rw [List.append_nil, if_pos booked.once, List.map_nil, List.map_nil, List.append_nil,
        List.sum_nil, Int.add_zero]
  | cons reward rest ih =>
      unfold payEach
      rw [payOne_eq booked]
      by_cases known : rewardKey reward ∈ store.rewards.map rewardKey
      · rw [if_pos known, if_neg]
        intro distinct
        rw [List.map_append, List.map_cons] at distinct
        have apart := (List.nodup_append.mp distinct).2.2 _ known _ List.mem_cons_self
        exact apart rfl
      · rw [if_neg known]
        have onceMore : ((store.rewards ++ [reward]).map rewardKey).Nodup := by
          rw [List.map_append]
          apply booked.once.append (List.nodup_singleton _)
          exact List.disjoint_singleton.mpr known
        dsimp only
        rw [ih (booked.add onceMore)]
        have sameRewards : (store.add [reward]).rewards ++ rest = store.rewards ++ reward :: rest :=
          List.append_assoc _ _ _
        have sameStore : (store.add [reward]).add rest = store.add (reward :: rest) := by
          unfold PkStore.add
          dsimp only
          rw [List.append_assoc, List.append_assoc]
          rfl
        rw [sameRewards, sameStore, Int.add_assoc]
        rfl

theorem payEach_cons {allocated : Int} {reward : VideoRoomPkReward} :
    payEach (reward :: rewards) (store, allocated) =
      match store.payOne reward with
      | none => none
      | some next => payEach rewards (next, allocated + reward.amount) := rfl

/-- Payouts in a row are one payout. -/
theorem payEach_append {one two : List VideoRoomPkReward} :
    payEach (one ++ two) paid = (payEach one paid).bind (payEach two) := by
  induction one generalizing paid with
  | nil => rfl
  | cons reward rest ih =>
      obtain ⟨store, allocated⟩ := paid
      rw [List.cons_append, payEach_cons, payEach_cons]
      cases store.payOne reward with
      | none => rfl
      | some next => exact ih

/-! ### One settlement -/

/-- The pool of a settlement of these rows. -/
def settledPool (store : PkStore) : VideoRoomPkRewardPool where
  sourceAmount := store.sourceAmount
  poolAmount := store.poolAmount
  winnerBps := store.snapshot.winnerBps
  participationBps := store.snapshot.participationBps
  bonusBps := store.snapshot.bonusBps
  allocatedAmount := if total store.grants > 0 then total store.grants else 0

/-- The store after a settlement of these rows. -/
def settled (store : PkStore) : PkStore :=
  { store.add store.grants with
    status := .completed
    winningTeamId := (winningTeam store.teams).map VideoRoomPkTeam.id
    isDraw := VideoRooms.isDraw store.teams
    pool := some store.settledPool }

/-- What a settlement is refused for, once it has found the battle as it was. -/
def Refused (store : PkStore) : Prop :=
  store.teams = [] ∨ store.pool.isSome ∨
    ((winningTeam store.teams).isSome ∧ store.winnerShare > 0 ∧ store.winners = []) ∨
      ¬((store.rewards ++ store.grants).map rewardKey).Nodup

instance : Decidable store.Refused :=
  inferInstanceAs (Decidable (_ ∨ _ ∨ _ ∨ _))

def finish : PkStore × Int → PkStore
  | (paid, allocated) => if allocated > 0 then paid.addAllocated allocated else paid

/-- The three payouts are the payout of all the grants. -/
theorem payouts_eq (decided : PkStore) :
    (match payEach store.winnerRewards (decided, 0) with
      | none => none
      | some won =>
          match payEach store.participationRewards won with
          | none => none
          | some joined =>
              match payEach store.bonusRewards joined with
              | none => none
              | some (paid, allocated) =>
                  if allocated > 0 then some (paid.addAllocated allocated) else some paid) =
      (payEach store.grants (decided, 0)).map finish := by
  unfold grants
  rw [payEach_append, payEach_append]
  cases payEach store.winnerRewards (decided, 0) with
  | none => rfl
  | some won =>
      dsimp only [Option.bind_some]
      cases payEach store.participationRewards won with
      | none => rfl
      | some joined =>
          dsimp only [Option.bind_some]
          cases payEach store.bonusRewards joined with
          | none => rfl
          | some result =>
              obtain ⟨paid, allocated⟩ := result
              dsimp only [Option.map_some, finish]
              split
              · rfl
              · rfl

/-- All of the settlement is committed, or nothing. -/
theorem settleTx_eq (booked : store.Booked) (seen : VideoRoomPkStatus) :
    store.settleTx seen =
      if (assertTransition seen .completed).isSome then none
      else if store.status ≠ seen then some store
      else if store.Refused then none
      else some store.settled := by
  unfold settleTx
  by_cases illegal : (assertTransition seen .completed).isSome
  · rw [if_pos illegal, if_pos illegal]
  · rw [if_neg illegal, if_neg illegal]
    by_cases moved : store.status ≠ seen
    · rw [if_pos moved, if_pos moved]
    · rw [if_neg moved, if_neg moved]
      by_cases teamless : store.teams = []
      · rw [if_pos teamless, if_pos (.inl teamless)]
      · rw [if_neg teamless]
        unfold createPool
        dsimp only
        by_cases pooled : store.pool.isSome
        · rw [if_pos pooled, if_pos (.inr (.inl pooled))]
        · rw [if_neg pooled]
          dsimp only
          by_cases nobody : (winningTeam store.teams).isSome ∧ store.winnerShare > 0 ∧
              store.winners = []
          · rw [if_pos nobody, if_pos (.inr (.inr (.inl nobody)))]
          · rw [if_neg nobody]
            refine (payouts_eq _).trans ?_
            have bookedNow : Booked
                { store with
                  status := .completed
                  winningTeamId := (winningTeam store.teams).map VideoRoomPkTeam.id
                  isDraw := VideoRooms.isDraw store.teams
                  pool := some { store.settledPool with allocatedAmount := 0 } } :=
              ⟨booked.credits, booked.once⟩
            have paid := @payEach_eq _ store.grants 0 bookedNow
            refine (congrArg (Option.map finish) paid).trans ?_
            dsimp only
            by_cases distinct : ((store.rewards ++ store.grants).map rewardKey).Nodup
            · have allowed : ¬store.Refused := by
                rintro (none | some | nobodyWins | twice)
                · exact teamless none
                · exact pooled some
                · exact nobody nobodyWins
                · exact twice distinct
              rw [if_pos distinct, if_neg allowed, Int.zero_add]
              unfold finish settled settledPool
              dsimp only [Option.map_some]
              split
              · unfold addAllocated PkStore.add
                dsimp only [Option.map_some]
                rw [Int.zero_add]
              · rfl
            · rw [if_neg distinct, if_pos (.inr (.inr (.inr distinct)))]
              rfl

/-! ### Runs -/

theorem mem_shareOut_le {recipients : List VideoRoomPkReward} {share : Int}
    {reward : VideoRoomPkReward} (nonneg : 0 ≤ share) (member : reward ∈ shareOut recipients share) :
    0 ≤ reward.amount ∧ reward.amount ≤ share := by
  unfold shareOut at member
  split at member
  · dsimp only at member
    split at member
    · obtain ⟨recipient, -, rfl⟩ := List.mem_map.mp member
      exact ⟨tdiv_nonneg nonneg _, tdiv_le nonneg _⟩
    · exact absurd member List.not_mem_nil
  · exact absurd member List.not_mem_nil

/-- Nothing is rounded where the whole source is a number of the interface. -/
theorem exact_of_small (nonneg : 0 ≤ store.sourceAmount)
    (small : store.sourceAmount ≤ Binary64.exactLimit) : store.Exact := by
  obtain ⟨⟨won, joined, extra⟩, within⟩ := shares_le nonneg
  have pool := (poolAmount_bounds nonneg).2
  intro reward member
  have bounds : 0 ≤ reward.amount ∧ reward.amount ≤ store.sourceAmount := by
    rcases List.mem_append.mp member with front | bonus
    · rcases List.mem_append.mp front with winner | participation
      · have inside := mem_shareOut_le won winner
        omega
      · have inside := mem_shareOut_le joined participation
        omega
    · have inside := mem_shareOut_le extra bonus
      omega
  apply Binary64.round_eq_self
  omega

structure Sound (store : PkStore) : Prop extends Booked store where
  source : 0 ≤ store.sourceAmount
  exact : store.Exact
  unpaid : store.pool = none → store.rewards = []
  paid : ∀ pool, store.pool = some pool → total store.rewards = pool.allocatedAmount ∧
    ∀ reward ∈ store.rewards, asNumber reward.amount = reward.amount
  bounded : ∀ pool, store.pool = some pool → 0 ≤ pool.allocatedAmount ∧
    pool.allocatedAmount ≤ pool.poolAmount ∧ pool.poolAmount ≤ pool.sourceAmount
  draw : store.isDraw = true → ∀ reward ∈ store.rewards, reward.kind ≠ .winner

theorem Sound.funded (sound : store.Sound) : store.Funded where
  unpaid := by
    intro none
    rw [sound.credits, sound.unpaid none]
    rfl
  allocated := by
    intro pool isPool
    obtain ⟨sum, exact⟩ := sound.paid pool isPool
    unfold credited
    rw [sound.credits, List.map_map, ← sum]
    congr 1
    exact List.map_congr_left exact
  bounded := sound.bounded
  draw := by
    intro draw credit member
    rw [sound.credits] at member
    obtain ⟨reward, inside, rfl⟩ := List.mem_map.mp member
    exact sound.draw draw reward inside
  once := by
    rw [sound.credits, List.map_map]
    exact sound.once

theorem Unsettled.sound (unsettled : store.Unsettled) (source : 0 ≤ store.sourceAmount)
    (exact : store.Exact) : store.Sound where
  credits := by
    rw [unsettled.credits, unsettled.rewards]
    rfl
  once := by
    rw [unsettled.rewards]
    exact List.nodup_nil
  source := source
  exact := exact
  unpaid := fun _ => unsettled.rewards
  paid := fun pool isPool => nomatch unsettled.pool.symm.trans isPool
  bounded := fun pool isPool => nomatch unsettled.pool.symm.trans isPool
  draw := by
    intro _ reward member
    rw [unsettled.rewards] at member
    exact absurd member List.not_mem_nil

theorem sound_settled (sound : store.Sound) (allowed : ¬store.Refused) : store.settled.Sound := by
  have unpooled : store.pool = none := by
    cases pooled : store.pool with
    | none => rfl
    | some pool => exact absurd (.inr (.inl (by rw [pooled]; rfl))) allowed
  have distinct : ((store.rewards ++ store.grants).map rewardKey).Nodup :=
    Decidable.not_not.mp fun twice => allowed (.inr (.inr (.inr twice)))
  have booked := sound.toBooked.add distinct
  have bounds := total_grants sound.source
  have rewarded : store.settled.rewards = store.grants := by
    unfold settled PkStore.add
    dsimp only
    rw [sound.unpaid unpooled, List.nil_append]
  have allocated : store.settledPool.allocatedAmount = total store.grants := by
    unfold settledPool
    dsimp only
    split
    · rfl
    · omega
  refine ⟨⟨booked.credits, booked.once⟩, sound.source, sound.exact, nofun, ?_, ?_, ?_⟩
  · intro pool isPool
    obtain rfl := Option.some.inj isPool
    rw [rewarded, allocated]
    exact ⟨rfl, sound.exact⟩
  · intro pool isPool
    obtain rfl := Option.some.inj isPool
    rw [allocated]
    exact ⟨bounds.1, bounds.2, (poolAmount_bounds sound.source).2⟩
  · intro draw reward member
    rw [rewarded] at member
    exact no_winner_of_draw draw reward member

theorem settle_cases (booked : store.Booked) (seen : VideoRoomPkStatus) (stops : Bool) :
    store.settle seen stops = store ∨
      (¬store.Refused ∧ store.settle seen stops = store.settled) := by
  unfold settle
  split
  · exact .inl rfl
  · split
    · exact .inl rfl
    · rw [settleTx_eq booked]
      split
      · exact .inl rfl
      · split
        · exact .inl rfl
        · split
          · exact .inl rfl
          · rename_i allowed
            exact .inr ⟨allowed, rfl⟩

theorem Sound.of_status (sound : store.Sound) (status : VideoRoomPkStatus) :
    Sound { store with status := status } where
  credits := sound.credits
  once := sound.once
  source := sound.source
  exact := sound.exact
  unpaid := sound.unpaid
  paid := sound.paid
  bounded := sound.bounded
  draw := sound.draw

theorem sound_step (sound : store.Sound) (event : PkStep) : (store.step event).Sound := by
  cases event with
  | settle seen stops =>
      unfold PkStore.step
      dsimp only
      rcases settle_cases sound.toBooked seen stops with same | ⟨allowed, settled⟩
      · rw [same]
        exact sound
      · rw [settled]
        exact sound_settled sound allowed
  | move source target =>
      unfold PkStore.step
      dsimp only
      split
      · exact sound.of_status target
      · exact sound

/-! ### Scores -/

def clearTeam (team : VideoRoomPkTeam) : VideoRoomPkTeam := { team with score := 0 }

def clearParticipant (participant : VideoRoomPkParticipant) : VideoRoomPkParticipant :=
  { participant with score := 0 }

def clearRow (row : VideoRoomPkContribution) : VideoRoomPkContribution :=
  { row with scoredAmount := 0 }

variable {other : PkStore}

/-- A list of rows is read the same with its scores cleared. -/
theorem map_of_cleared {Row Value : Type} {clear : Row → Row} {read : Row → Value}
    {one two : List Row} (same : one.map clear = two.map clear)
    (unread : ∀ row, read (clear row) = read row) : one.map read = two.map read := by
  have plain : read = read ∘ clear := funext fun row => (unread row).symm
  rw [plain, ← List.map_map, same, List.map_map]

theorem filter_of_cleared {Row : Type} {clear : Row → Row} {keep : Row → Bool}
    {one two : List Row} (same : one.map clear = two.map clear)
    (unread : ∀ row, keep (clear row) = keep row) :
    (one.filter keep).map clear = (two.filter keep).map clear := by
  have plain : keep = keep ∘ clear := funext fun row => (unread row).symm
  rw [plain, ← List.filter_map, ← List.filter_map, same]

theorem sentBy_of_cleared {one two : List VideoRoomPkContribution}
    (same : one.map clearRow = two.map clearRow) (userId : UserId) :
    sentBy one userId = sentBy two userId := by
  unfold sentBy sumBaseAmount
  congr 1
  exact map_of_cleared (filter_of_cleared same fun _ => rfl) fun _ => rfl

theorem topContributor_of_cleared {one two : List VideoRoomPkContribution}
    (same : one.map clearRow = two.map clearRow) : topContributor one = topContributor two := by
  have senders : one.map VideoRoomPkContribution.senderId =
      two.map VideoRoomPkContribution.senderId := map_of_cleared same fun _ => rfl
  have amounts : sentBy one = sentBy two := funext (sentBy_of_cleared same)
  unfold topContributor
  rw [senders]
  congr 2
  funext first second
  rw [amounts]

/-- Equal but for their scores, with the same winner. -/
structure SameButScores (store other : PkStore) : Prop where
  unscored : store.unscored = other.unscored
  winner : (winningTeam store.teams).map VideoRoomPkTeam.id =
    (winningTeam other.teams).map VideoRoomPkTeam.id

namespace SameButScores

variable (same : SameButScores store other)

include same

theorem teams : store.teams.map clearTeam = other.teams.map clearTeam :=
  congrArg PkStore.teams same.unscored

theorem participants :
    store.participants.map clearParticipant = other.participants.map clearParticipant :=
  congrArg PkStore.participants same.unscored

theorem contributions : store.contributions.map clearRow = other.contributions.map clearRow :=
  congrArg PkStore.contributions same.unscored

theorem status : store.status = other.status := by
  have fields := congrArg PkStore.status same.unscored
  exact fields

theorem pool : store.pool = other.pool := by
  have fields := congrArg PkStore.pool same.unscored
  exact fields

theorem rewardRows : store.rewards = other.rewards := by
  have fields := congrArg PkStore.rewards same.unscored
  exact fields

theorem credits : store.credits = other.credits := by
  have fields := congrArg PkStore.credits same.unscored
  exact fields

theorem snapshot : store.snapshot = other.snapshot := by
  have fields := congrArg PkStore.snapshot same.unscored
  exact fields

theorem teamless : store.teams = [] ↔ other.teams = [] := by
  rw [← List.map_eq_nil_iff, same.teams, List.map_eq_nil_iff]

theorem winningTeam_isSome :
    (winningTeam store.teams).isSome = (winningTeam other.teams).isSome := by
  rw [← Option.isSome_map, same.winner, Option.isSome_map]

theorem sourceAmount : store.sourceAmount = other.sourceAmount := by
  unfold PkStore.sourceAmount sumBaseAmount
  congr 1
  exact map_of_cleared same.contributions fun _ => rfl

theorem poolAmount : store.poolAmount = other.poolAmount := by
  unfold PkStore.poolAmount
  rw [same.sourceAmount, same.snapshot]

/-- A battle with teams is a draw where nobody wins. -/
theorem isDraw : VideoRooms.isDraw store.teams = VideoRooms.isDraw other.teams := by
  have drawn : ∀ teams : List VideoRoomPkTeam,
      VideoRooms.isDraw teams = (!(winningTeam teams).isSome && decide (teams ≠ [])) := by
    intro teams
    have length := List.length_insertionSort (fun one two : VideoRoomPkTeam =>
      two.score ≤ one.score) teams
    unfold winningTeam
    cases isDraw : VideoRooms.isDraw teams with
    | true =>
        have present : teams ≠ [] := by
          rintro rfl
          cases isDraw
        rw [if_pos rfl, decide_eq_true present]
        rfl
    | false =>
        rw [if_neg Bool.false_ne_true]
        cases order : ranked teams with
        | nil =>
            have none : teams = [] := by
              unfold ranked at order
              rw [order] at length
              exact List.eq_nil_of_length_eq_zero length.symm
            rw [decide_eq_false (not_not_intro none), Bool.and_false]
        | cons first rest => rfl
  rw [drawn, drawn, same.winningTeam_isSome]
  congr 1
  exact decide_eq_decide.mpr (not_congr same.teamless)

theorem winnerShare : store.winnerShare = other.winnerShare := by
  unfold PkStore.winnerShare
  rw [same.isDraw, same.poolAmount, same.snapshot]

theorem winners : store.winners.map clearParticipant = other.winners.map clearParticipant := by
  have byId : ∀ store : PkStore, store.winners =
      match (winningTeam store.teams).map VideoRoomPkTeam.id with
      | some id => store.participants.filter fun participant => participant.teamId = id
      | none => [] := by
    intro store
    unfold PkStore.winners
    cases winningTeam store.teams with
    | none => rfl
    | some team => rfl
  rw [byId, byId, same.winner]
  cases (winningTeam other.teams).map VideoRoomPkTeam.id with
  | none => rfl
  | some id => exact filter_of_cleared same.participants fun _ => rfl

theorem grants : store.grants = other.grants := by
  have won : store.winnerRewards = other.winnerRewards := by
    unfold winnerRewards
    rw [same.winnerShare]
    congr 1
    exact map_of_cleared same.winners fun _ => rfl
  have joined : store.participationRewards = other.participationRewards := by
    unfold participationRewards participationShare
    rw [same.poolAmount, same.snapshot]
    congr 1
    exact map_of_cleared same.participants fun _ => rfl
  have extra : store.bonusRewards = other.bonusRewards := by
    unfold bonusRewards bonusShare
    rw [same.poolAmount, same.snapshot, topContributor_of_cleared same.contributions]
  unfold PkStore.grants
  rw [won, joined, extra]

theorem refused : store.Refused ↔ other.Refused := by
  have sameWinners : store.winners = [] ↔ other.winners = [] := by
    rw [← List.map_eq_nil_iff, same.winners, List.map_eq_nil_iff]
  unfold Refused
  rw [same.teamless, same.pool, same.winningTeam_isSome, same.winnerShare, sameWinners,
    same.rewardRows, same.grants]

theorem settledPool : store.settledPool = other.settledPool := by
  unfold PkStore.settledPool
  rw [same.sourceAmount, same.poolAmount, same.snapshot, same.grants]

theorem settled : SameButScores store.settled other.settled := by
  refine ⟨?_, same.winner⟩
  have decided : ∀ store : PkStore, store.settled.unscored =
      { store.unscored with
        status := .completed
        winningTeamId := (winningTeam store.teams).map VideoRoomPkTeam.id
        isDraw := VideoRooms.isDraw store.teams
        pool := some store.settledPool
        rewards := store.rewards ++ store.grants
        credits := store.credits ++ store.grants.map creditOf } := fun _ => rfl
  rw [decided, decided, same.unscored, same.winner, same.isDraw, same.settledPool, same.rewardRows,
    same.credits, same.grants]

theorem step (booked : store.Booked) (event : PkStep) :
    SameButScores (store.step event) (other.step event) := by
  have bookedOther : other.Booked := by
    have credits := booked.credits
    have once := booked.once
    rw [same.credits, same.rewardRows] at credits
    rw [same.rewardRows] at once
    exact ⟨credits, once⟩
  cases event with
  | settle seen stops =>
      unfold PkStore.step settle
      dsimp only
      rw [settleTx_eq booked, settleTx_eq bookedOther, same.status]
      by_cases isOver : isPkTerminal seen = true
      · rw [if_pos isOver, if_pos isOver]
        exact same
      · rw [if_neg isOver, if_neg isOver]
        by_cases stopped : stops = true
        · rw [if_pos stopped, if_pos stopped]
          exact same
        · rw [if_neg stopped, if_neg stopped]
          by_cases illegal : (assertTransition seen .completed).isSome
          · rw [if_pos illegal, if_pos illegal]
            exact same
          · rw [if_neg illegal, if_neg illegal]
            by_cases moved : other.status ≠ seen
            · rw [if_pos moved, if_pos moved]
              exact same
            · rw [if_neg moved, if_neg moved]
              by_cases refused : store.Refused
              · rw [if_pos refused, if_pos (same.refused.mp refused)]
                exact same
              · rw [if_neg refused, if_neg (mt same.refused.mpr refused)]
                exact same.settled
  | move source target =>
      unfold PkStore.step
      dsimp only
      rw [same.status]
      split
      · refine ⟨?_, same.winner⟩
        have placed : ∀ store : PkStore,
            PkStore.unscored { store with status := target } =
              { store.unscored with status := target } := fun _ => rfl
        rw [placed, placed, same.unscored]
      · exact same

end SameButScores

end PkStore

/-- Where no reward is rounded on its way into the wallet, what is credited is what the pool
has allocated; and in every run it depends on the scores through the winner alone. -/
theorem funded_of_exact (store : PkStore) (unsettled : store.Unsettled)
    (source : 0 ≤ store.sourceAmount) (exact : store.Exact) (events : List PkStep) :
    Always PkStore.step PkStore.Funded store events ∧
      ∀ other, other.unscored = store.unscored →
        (winningTeam other.teams).map VideoRoomPkTeam.id =
          (winningTeam store.teams).map VideoRoomPkTeam.id →
        (run PkStore.step other events).credits = (run PkStore.step store events).credits := by
  have sound := unsettled.sound source exact
  have kept : ∀ (store : PkStore) (event : PkStep), store.Sound → (store.step event).Sound :=
    fun _ event sound => PkStore.sound_step sound event
  refine ⟨(always_of_step kept store sound events).imp fun _ => PkStore.Sound.funded, ?_⟩
  intro other sameRows sameWinner
  have along : ∀ (events : List PkStep) (store other : PkStore), store.Sound →
      PkStore.SameButScores store other →
        PkStore.SameButScores (run PkStore.step store events)
          (run PkStore.step other events) := by
    intro events
    induction events with
    | nil => exact fun _ _ _ same => same
    | cons event rest ih =>
        intro store other sound same
        exact ih _ _ (PkStore.sound_step sound event) (same.step sound.toBooked event)
  exact (along events store other sound ⟨sameRows.symm, sameWinner.symm⟩).credits.symm

def contributed (senderId : UserId) (baseAmount : Int) (giftTxnId : String) :
    VideoRoomPkContribution where
  teamId := "team-red"
  participantId := "participant-anna"
  side := .red
  senderId := senderId
  receiverId := "anna"
  baseAmount := baseAmount
  multiplierBps := 10000
  scoredAmount := baseAmount
  giftTxnId := .gift giftTxnId

/-- Anna against Bert, with two gifts of Carl's to Anna. -/
def duel (rewardSnapshot : List (String × Json)) (one two : Int) : PkStore where
  status := .live
  rewardSnapshot := .object rewardSnapshot
  teams :=
    [{ id := "team-red"
       side := .red
       score := one + two },
     { id := "team-blue"
       side := .blue }]
  participants :=
    [{ id := "participant-anna"
       teamId := "team-red"
       userId := "anna"
       side := .red
       score := one + two },
     { id := "participant-bert"
       teamId := "team-blue"
       userId := "bert"
       side := .blue }]
  contributions := [contributed "carl" one "gift-1", contributed "carl" two "gift-2"]

def rate (value : Rat) : Json := .number (.finite value)

/-- Rates that come to more than the whole. -/
def generous : List (String × Json) :=
  [("poolBps", rate 5000), ("winnerBps", rate 9000), ("participationBps", rate 9000),
    ("bonusBps", rate (1 / 2))]

theorem funded_generous :
    Always PkStore.step PkStore.Funded (duel generous 700 301)
        [.settle .live true, .settle .live false, .settle .live false] ∧
      (run PkStore.step (duel generous 700 301)
        [.settle .live true, .settle .live false, .settle .live false]).credits.map
          GoldCredit.amount = [250, 125, 125] := by
  have small : (duel generous 700 301).Exact :=
    PkStore.exact_of_small (by decide) (by decide)
  exact ⟨(funded_of_exact (duel generous 700 301) ⟨rfl, rfl, rfl⟩ (by decide) small _).1,
    by decide +kernel⟩

def bonusOnly : List (String × Json) := [("poolBps", rate 10000), ("bonusBps", rate 10000)]

/-- A bonus of 2 ^ 53 + 1 is credited as 2 ^ 53. -/
theorem not_funded_huge :
    (duel bonusOnly (2 ^ 53) 1).Unsettled ∧ 0 ≤ (duel bonusOnly (2 ^ 53) 1).sourceAmount ∧
      ¬Always PkStore.step PkStore.Funded (duel bonusOnly (2 ^ 53) 1) [.settle .live false] := by
  refine ⟨⟨rfl, rfl, rfl⟩, by decide, fun always => ?_⟩
  have settled : (run PkStore.step (duel bonusOnly (2 ^ 53) 1) [.settle .live false]).pool.map
      VideoRoomPkRewardPool.allocatedAmount = some (2 ^ 53 + 1) := by decide +kernel
  have credited : (run PkStore.step (duel bonusOnly (2 ^ 53) 1) [.settle .live false]).credited =
      2 ^ 53 := by decide +kernel
  obtain ⟨pool, isPool, allocated⟩ := Option.map_eq_some_iff.mp settled
  have same := always.final.allocated pool isPool
  rw [credited, allocated] at same
  exact absurd same (by decide)

end Soulzaa.VideoRooms
