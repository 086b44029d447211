/-
What a treasure box pays, in every run of its ladder.

A box is opened by the transaction that mints its pool, and the pool's key lets one such
transaction commit.  What it pays is of its own draw, whatever another delivery has drawn.
-/

import Soulzaa.Lib.Runs
import Soulzaa.VideoRooms.TreasureClimbs

namespace Soulzaa.VideoRooms.Ladders

open Runs
open Treasure (TreasureBoxStatus TreasureSessionStatus)

/-! ### What is promised -/

namespace Store

def won (store : Store) (level : Nat) : Int :=
  KeyedRows.total TreasureWinner.level TreasureWinner.amount level store.winners

def paid (store : Store) (level : Nat) : Int :=
  KeyedRows.total GoldCredit.level GoldCredit.amount level store.credits

/-- The wallets are paid what was allocated, as far as a pool's shares are numbers exactly. -/
structure Exact (store : Store) (pool : TreasureRewardPool) : Prop where
  won : store.won pool.level = pool.allocatedAmount
  within : 0 ≤ pool.poolAmount → pool.allocatedAmount ≤ pool.poolAmount
  paid : 0 ≤ pool.poolAmount → pool.poolAmount ≤ Binary64.exactLimit →
    store.paid pool.level = pool.allocatedAmount

/-- A box that is not open has been paid nothing. -/
structure Paid (store : Store) : Prop where
  once : (store.pools.map TreasureRewardPool.level).Nodup
  exactly : ∀ pool ∈ store.pools, store.Exact pool
  opened : ∀ level, store.statusOf level = some .opened ↔
    level ∈ store.pools.map TreasureRewardPool.level
  unpaid : ∀ level, level ∉ store.pools.map TreasureRewardPool.level →
    (∀ winner ∈ store.winners, winner.level ≠ level) ∧
      (∀ credit ∈ store.credits, credit.level ≠ level) ∧
        ∀ reward ∈ store.rewards, reward.level ≠ level

end Store

/-- A delivery that fails before its commit has left what is paid as it was, and one that fails
in its broadcast or its chain has paid its box. -/
def Failure.Clean (failure : Failure) (store : Store) : Prop :=
  if failure.stage.committed then failure.level ∈ store.pools.map TreasureRewardPool.level
  else failure.wrote = false

structure World.Pays (world : World) : Prop where
  paid : world.store.Paid
  clean : ∀ failure ∈ world.failures, failure.Clean world.store

/-- A ladder before its first payout, and nobody at work on it. -/
structure World.Unopened (world : World) : Prop where
  closed : ∀ box ∈ world.store.boxes, box.status ≠ .opened
  nothing : world.store.pools = [] ∧ world.store.winners = [] ∧ world.store.rewards = [] ∧
    world.store.credits = []
  idle : world.calls = [] ∧ world.failures = []

/-! ### The draw and the shares -/

theorem mem_of_takeOut {count : Nat} {picks : List Nat} {pool : List UserId} {user : UserId}
    (member : user ∈ takeOut count picks pool) : user ∈ pool := by
  induction count generalizing picks pool with
  | zero => cases member
  | succ count ih =>
      unfold takeOut at member
      dsimp only at member
      split at member
      · cases member
      · rename_i winner found
        rcases List.mem_cons.mp member with rfl | later
        · exact List.mem_of_getElem? found
        · exact List.mem_of_mem_eraseIdx (ih later)

/-- Nobody is drawn twice. -/
theorem takeOut_nodup {count : Nat} {picks : List Nat} {pool : List UserId}
    (distinct : pool.Nodup) : (takeOut count picks pool).Nodup := by
  induction count generalizing picks pool with
  | zero => exact List.nodup_nil
  | succ count ih =>
      unfold takeOut
      dsimp only
      split
      · exact List.nodup_nil
      · rename_i winner found
        refine List.nodup_cons.mpr ⟨?_, ih (distinct.sublist (List.eraseIdx_sublist _ _))⟩
        intro again
        obtain ⟨place, elsewhere, there⟩ :=
          List.mem_eraseIdx_iff_getElem?.mp (mem_of_takeOut again)
        have inside := (List.getElem?_eq_some_iff.mp found).1
        exact elsewhere (((List.getElem?_inj inside distinct).mp (found.trans there.symm)).symm)

theorem select_nodup {algorithm : Option TreasureWinnerAlgorithm} {want : Int} {draw : Draw}
    {drawn : List UserId} (selected : select algorithm want draw = some drawn) : drawn.Nodup := by
  unfold select at selected
  split at selected
  · cases selected
  · split at selected
    · cases selected
      exact List.nodup_nil
    · cases selected
      exact takeOut_nodup draw.distinct

theorem users_allocate (poolAmount : Int) (winnerIds : List UserId) :
    (allocate poolAmount winnerIds).map PoolAllocation.userId = winnerIds := by
  unfold allocate
  split
  · rename_i nobody
    exact nobody.symm
  · rw [List.map_map]
    exact List.map_id _

theorem amount_of_allocate {poolAmount : Int} {winnerIds : List UserId}
    {allocation : PoolAllocation} (member : allocation ∈ allocate poolAmount winnerIds) :
    allocation.amount = poolAmount.tdiv winnerIds.length := by
  unfold allocate at member
  split at member
  · cases member
  · obtain ⟨userId, -, rfl⟩ := List.mem_map.mp member
    rfl

theorem sum_allocate_le {poolAmount : Int} (nonneg : 0 ≤ poolAmount) (winnerIds : List UserId) :
    ((allocate poolAmount winnerIds).map PoolAllocation.amount).sum ≤ poolAmount := by
  have each : (allocate poolAmount winnerIds).map PoolAllocation.amount =
      List.replicate winnerIds.length (poolAmount.tdiv winnerIds.length) := by
    refine List.eq_replicate_iff.mpr ⟨?_, ?_⟩
    · rw [List.length_map, ← users_allocate poolAmount winnerIds, List.length_map,
        users_allocate]
    · intro amount member
      obtain ⟨allocation, inside, rfl⟩ := List.mem_map.mp member
      exact amount_of_allocate inside
  rw [each, List.sum_replicate, nsmul_eq_mul]
  exact Portions.mul_tdiv_le nonneg winnerIds.length

/-! ### The transaction -/

namespace Store

def creditsOf (rewards : List TreasureReward) : List GoldCredit :=
  (credited rewards).map fun reward =>
    { level := reward.level
      rank := reward.rank
      userId := reward.userId
      amount := asNumber reward.coins }

variable {store after : Store} {level other : Nat} {correlationId : String}
  {computed : ComputedPool} {allocations : List PoolAllocation}

theorem level_of_rewardsOf {reward : TreasureReward}
    (member : reward ∈ rewardsOf level allocations) : reward.level = level := by
  obtain ⟨pair, -, rfl⟩ := List.mem_map.mp member
  rfl

theorem ranks_rewardsOf (level : Nat) (allocations : List PoolAllocation) :
    ((rewardsOf level allocations).map TreasureReward.rank).Nodup := by
  have ranks : (rewardsOf level allocations).map TreasureReward.rank =
      (allocations.zipIdx.map Prod.snd).map (· + 1) := by
    unfold rewardsOf
    rw [List.map_map, List.map_map]
    rfl
  rw [ranks, List.zipIdx_map_snd]
  exact List.Nodup.map (fun _ _ same => Nat.succ.inj same) List.nodup_range'

theorem coins_rewardsOf : (rewardsOf level allocations).map TreasureReward.coins =
    allocations.map PoolAllocation.amount := by
  have coins : (rewardsOf level allocations).map TreasureReward.coins =
      (allocations.zipIdx.map Prod.fst).map PoolAllocation.amount := by
    unfold rewardsOf
    rw [List.map_map, List.map_map]
    rfl
  rw [coins, List.zipIdx_map_fst]

/-- All winners are new, and nobody wins twice. -/
theorem createWinners_eq (distinct : (allocations.map PoolAllocation.userId).Nodup)
    (unpaid : ∀ winner ∈ store.winners, winner.level ≠ level) :
    (store.createWinners (winnersOf level allocations)).winners =
      store.winners ++ winnersOf level allocations := by
  unfold createWinners
  refine KeyedRows.insertEach_fresh ?_ ?_
  · have keys : (winnersOf level allocations).map (fun winner => (winner.level, winner.userId)) =
        (allocations.map PoolAllocation.userId).map fun userId => (level, userId) := by
      unfold winnersOf
      rw [List.map_map, List.map_map]
      rfl
    rw [keys]
    exact distinct.map fun _ _ same => (Prod.mk.inj same).2
  · intro winner member there
    obtain ⟨allocation, -, rfl⟩ := List.mem_map.mp member
    obtain ⟨old, inside, same⟩ := List.mem_map.mp there
    exact unpaid old inside (Prod.mk.inj same).1

theorem creditEach_eq (unpaid : ∀ credit ∈ store.credits, credit.level ≠ level) :
    (store.distribute (rewardsOf level allocations)).credits =
      store.credits ++ creditsOf (rewardsOf level allocations) := by
  unfold distribute creditEach
  refine KeyedRows.insertEach_fresh ?_ ?_
  · have keys : (creditsOf (rewardsOf level allocations)).map
          (fun credit => (credit.level, credit.rank)) =
        (credited (rewardsOf level allocations)).map fun reward => (reward.level, reward.rank) := by
      unfold creditsOf
      rw [List.map_map]
      rfl
    show ((creditsOf _).map _).Nodup
    rw [keys]
    have ranks : ((credited (rewardsOf level allocations)).map TreasureReward.rank).Nodup :=
      (ranks_rewardsOf level allocations).sublist (List.filter_sublist.map _)
    refine List.Nodup.of_map Prod.snd ?_
    rw [List.map_map]
    exact ranks
  · intro credit member there
    obtain ⟨reward, inside, rfl⟩ := List.mem_map.mp member
    obtain ⟨old, oldInside, same⟩ := List.mem_map.mp there
    refine unpaid old oldInside ((Prod.mk.inj same).1.trans ?_)
    exact level_of_rewardsOf (List.mem_of_mem_filter inside)

/-- What the transaction of a box that awaits its unlock leaves behind. -/
structure Unlocks (before after : Store) (level : Nat) (pool : TreasureRewardPool)
    (allocations : List PoolAllocation) : Prop where
  pools : after.pools = before.pools ++ [pool]
  winners : after.winners = before.winners ++ winnersOf level allocations
  credits : after.credits = before.credits ++ creditsOf (rewardsOf level allocations)
  rewards : after.rewards = ((credited (rewardsOf level allocations)).map
    TreasureReward.userId).foldl (markDistributed level)
      (before.rewards ++ rewardsOf level allocations)
  rules : after.rules = before.rules
  frames : after.boxes.map TreasureBox.frame = before.boxes.map TreasureBox.frame
  opened : ∀ other, after.statusOf other = some .opened ↔
    other = level ∨ before.statusOf other = some .opened
  claimed : ∀ other, before.Claimed other → after.Claimed other

def mintedPool (level : Nat) (correlationId : String) (computed : ComputedPool)
    (allocations : List PoolAllocation) : TreasureRewardPool where
  level := level
  sourceAmount := computed.sourceAmount
  poolAmount := computed.poolAmount
  allocatedAmount := (allocations.map PoolAllocation.amount).sum
  winnerCount := allocations.length
  selectionSeed := (level, correlationId)

theorem getPool_none (none_there : level ∉ store.pools.map TreasureRewardPool.level) :
    store.getPool level = none := by
  refine List.find?_eq_none.mpr ?_
  intro pool member same
  exact none_there (of_decide_eq_true same ▸ List.mem_map_of_mem member)

theorem payOut_replay (there : level ∈ store.pools.map TreasureRewardPool.level) :
    store.payOut level correlationId computed allocations = none := by
  obtain ⟨pool, member, same⟩ := List.mem_map.mp there
  have found : (store.getPool level).isSome = true :=
    List.find?_isSome.mpr ⟨pool, member, decide_eq_true same⟩
  obtain ⟨first, isFirst⟩ := Option.isSome_iff_exists.mp found
  unfold payOut createPool
  rw [isFirst]

theorem openBox_eq (waits : store.statusOf level = some .unlocking) :
    store.openBox level = store.setStatus level .opened := by
  unfold openBox
  rcases casStatus_spec store level .unlocking .opened with
    ⟨-, other⟩ | ⟨moved, -⟩
  · exact absurd waits other
  · rw [moved]

theorem payOut_spec (unpaid : level ∉ store.pools.map TreasureRewardPool.level)
    (nobody : ∀ winner ∈ store.winners, winner.level ≠ level)
    (nothing : ∀ credit ∈ store.credits, credit.level ≠ level)
    (distinct : (allocations.map PoolAllocation.userId).Nodup)
    (waits : store.statusOf level = some .unlocking)
    (pays : store.payOut level correlationId computed allocations = some after) :
    Unlocks store after level (mintedPool level correlationId computed allocations)
      allocations := by
  unfold payOut createPool at pays
  rw [getPool_none unpaid] at pays
  dsimp only at pays
  obtain rfl := Option.some.inj pays
  generalize isSettled : Store.setAllocated _ level _ = settled
  have boxes : settled.boxes = store.boxes := by
    rw [← isSettled]
    rfl
  have stillWaits : settled.statusOf level = some .unlocking := by
    unfold statusOf getBox
    rw [boxes]
    exact waits
  rw [openBox_eq stillWaits]
  have climbs : Climbs (settled.setStatus level .opened)
      ((settled.setStatus level .opened).advance level) := climbs_advance
  have status : ∀ other, (settled.setStatus level .opened).statusOf other =
      if other = level then (store.statusOf other).map fun _ => .opened
      else store.statusOf other := by
    intro other
    rw [statusOf_setStatus]
    unfold statusOf getBox
    rw [boxes]
  refine ⟨climbs.pools.trans ?_, climbs.winners.trans ?_, climbs.credits.trans ?_,
    climbs.rewards.trans ?_, climbs.rules.trans ?_, climbs.frames.trans ?_, ?_, ?_⟩
  · show settled.pools = _
    rw [← isSettled]
    show KeyedRows.update _ level _ (store.pools ++ [_]) = _
    have absent : KeyedRows.update TreasureRewardPool.level level (fun pool =>
        { pool with allocatedAmount := (allocations.map PoolAllocation.amount).sum })
        store.pools = store.pools := KeyedRows.update_of_absent unpaid
    unfold KeyedRows.update at absent ⊢
    rw [List.map_append, absent, List.map_singleton, if_pos rfl]
    rfl
  · show settled.winners = _
    rw [← isSettled]
    exact createWinners_eq distinct nobody
  · show settled.credits = _
    rw [← isSettled]
    exact creditEach_eq nothing
  · show settled.rewards = _
    rw [← isSettled]
    rfl
  · show settled.rules = _
    rw [← isSettled]
    rfl
  · rw [show (settled.setStatus level .opened).boxes.map TreasureBox.frame =
      settled.boxes.map TreasureBox.frame from frames_changeBox fun _ => rfl, boxes]
  · intro other
    rw [climbs.opened, status]
    split
    · rename_i same
      rw [same, waits]
      exact iff_of_true rfl (.inl rfl)
    · rename_i different
      exact ⟨.inr, fun either => either.resolve_left different⟩
  · rintro other ⟨was, isWas, isClaimed⟩
    refine climbs.claimed other ?_
    unfold Claimed
    rw [status]
    split
    · rename_i same
      rw [same, waits]
      exact ⟨.opened, rfl, rfl⟩
    · exact ⟨was, isWas, isClaimed⟩

end Store

/-! ### Marks -/

section Marks

variable {rows : List TreasureReward} {row : TreasureReward} {level : Nat}

theorem foldl_markDistributed (users : List UserId) :
    users.foldl (Store.markDistributed level) rows = rows.map fun row =>
      if row.level = level ∧ row.userId ∈ users ∧ row.status = .pending then
        { row with status := .distributed }
      else row := by
  induction users generalizing rows with
  | nil =>
      refine (List.map_id rows).symm.trans (List.map_congr_left ?_)
      intro row _
      rw [if_neg fun marked => nomatch marked.2.1]
      rfl
  | cons first rest ih =>
      show rest.foldl (Store.markDistributed level) (Store.markDistributed level rows first) = _
      rw [ih]
      unfold Store.markDistributed
      rw [List.map_map]
      apply List.map_congr_left
      intro row _
      show (if _ then _ else _) = _
      unfold TreasureReward.mark
      by_cases isFirst : row.level = level ∧ row.userId = first ∧ row.status = .pending
      · obtain ⟨sameLevel, sameUser, pending⟩ := isFirst
        simp only [sameLevel, sameUser, pending, List.mem_cons, true_or, and_self, if_true,
          decide_true, Bool.and_self]
        rw [if_neg fun marked => nomatch marked.2.2]
      · have unmarked : (decide (row.level = level) && decide (row.userId = first) &&
            decide (row.status = .pending)) = false := by
          rw [Bool.and_assoc, ← Bool.decide_and, ← Bool.decide_and]
          exact decide_eq_false isFirst
        rw [unmarked]
        show (if row.level = level ∧ row.userId ∈ rest ∧ row.status = .pending then _ else row) = _
        refine if_congr ?_ rfl rfl
        rw [List.mem_cons]
        constructor
        · rintro ⟨sameLevel, later, pending⟩
          exact ⟨sameLevel, .inr later, pending⟩
        · rintro ⟨sameLevel, isUser | later, pending⟩
          · exact absurd ⟨sameLevel, isUser, pending⟩ isFirst
          · exact ⟨sameLevel, later, pending⟩

theorem level_mark {selects : TreasureReward → Bool} {target : TreasureRewardStatus} :
    (row.mark level selects target).level = row.level := by
  unfold TreasureReward.mark
  split
  · rfl
  · rfl

theorem coins_mark {selects : TreasureReward → Bool} {target : TreasureRewardStatus} :
    (row.mark level selects target).coins = row.coins := by
  unfold TreasureReward.mark
  split
  · rfl
  · rfl

/-- A reward that has been distributed stays so. -/
theorem mark_distributed {selects : TreasureReward → Bool} {target : TreasureRewardStatus}
    (distributed : row.status = .distributed) : row.mark level selects target = row := by
  unfold TreasureReward.mark
  rw [distributed]
  split
  · rename_i impossible
    exact nomatch of_decide_eq_true (Bool.and_eq_true_iff.mp impossible).2
  · rfl

end Marks

theorem asNumber_pos {coins : Int} (positive : 0 < coins) : 0 < asNumber coins := by
  have nonneg := Binary64.round_nonneg (Int.le_of_lt positive)
  have nonzero : Binary64.round coins ≠ 0 := by
    rw [Ne, Binary64.round_eq_zero_iff]
    omega
  unfold asNumber
  omega

/-- The credits of small rewards come to the rewards. -/
theorem sum_creditsOf {rewards : List TreasureReward}
    (small : ∀ reward ∈ rewards, 0 ≤ reward.coins ∧ reward.coins ≤ Binary64.exactLimit) :
    ((Store.creditsOf rewards).map GoldCredit.amount).sum =
      (rewards.map TreasureReward.coins).sum := by
  induction rewards with
  | nil => rfl
  | cons first rest ih =>
      have later := ih fun reward member => small reward (List.mem_cons_of_mem first member)
      obtain ⟨nonneg, limited⟩ := small first List.mem_cons_self
      have whole : asNumber first.coins = first.coins :=
        Binary64.round_eq_self (by omega)
      unfold Store.creditsOf Store.credited at later ⊢
      rw [List.filter_cons, List.map_cons, List.sum_cons, ← later]
      by_cases positive : asNumber first.coins > 0
      · rw [if_pos (decide_eq_true positive), List.map_cons, List.map_cons, List.sum_cons]
        show asNumber first.coins + _ = _
        rw [whole]
      · rw [if_neg fun more => positive (of_decide_eq_true more)]
        omega

/-! ### The tables -/

/-- What is paid, and that no reward with coins is left unmarked. -/
structure Store.Ledger (store : Store) : Prop extends Store.Paid store where
  marked : ∀ reward ∈ store.rewards, 0 < reward.coins → reward.status = .distributed

namespace Store

variable {store before after : Store} {level : Nat}

theorem Ledger.climbs (ledger : Ledger before) (climbs : Climbs before after) : Ledger after where
  once := by
    rw [climbs.pools]
    exact ledger.once
  exactly := by
    rw [climbs.pools]
    intro pool member
    obtain ⟨won, within, paid⟩ := ledger.exactly pool member
    unfold Store.won at won
    unfold Store.paid at paid
    constructor
    · unfold Store.won
      rw [climbs.winners]
      exact won
    · exact within
    · unfold Store.paid
      rw [climbs.credits]
      exact paid
  opened := by
    intro level
    rw [climbs.opened, climbs.pools]
    exact ledger.opened level
  unpaid := by
    rw [climbs.pools, climbs.winners, climbs.credits, climbs.rewards]
    exact ledger.unpaid
  marked := by
    rw [climbs.rewards]
    exact ledger.marked

theorem Unlocks.ledger {pool : TreasureRewardPool} {drawn : List UserId}
    (unlocks : Unlocks before after level pool (allocate pool.poolAmount drawn))
    (ledger : Ledger before) (isOwn : pool.level = level)
    (unpaid : level ∉ before.pools.map TreasureRewardPool.level)
    (allocated : pool.allocatedAmount =
      ((allocate pool.poolAmount drawn).map PoolAllocation.amount).sum) : Ledger after := by
  have levels : ∀ other, other ∈ after.pools.map TreasureRewardPool.level ↔
      other = level ∨ other ∈ before.pools.map TreasureRewardPool.level := by
    intro other
    rw [unlocks.pools, List.map_append, List.mem_append, List.map_singleton, List.mem_singleton,
      isOwn]
    exact Or.comm
  have ownWinners : ∀ winner ∈ winnersOf level (allocate pool.poolAmount drawn),
      winner.level = level := by
    intro winner member
    obtain ⟨allocation, -, rfl⟩ := List.mem_map.mp member
    rfl
  have ownCredits : ∀ credit ∈ creditsOf (rewardsOf level (allocate pool.poolAmount drawn)),
      credit.level = level := by
    intro credit member
    obtain ⟨reward, inside, rfl⟩ := List.mem_map.mp member
    exact level_of_rewardsOf (List.mem_of_mem_filter inside)
  have won : ∀ other, after.won other = before.won other +
      if other = level then pool.allocatedAmount else 0 := by
    intro other
    have amounts : (winnersOf level (allocate pool.poolAmount drawn)).map TreasureWinner.amount =
        (allocate pool.poolAmount drawn).map PoolAllocation.amount := by
      unfold winnersOf
      rw [List.map_map]
      rfl
    unfold Store.won
    rw [unlocks.winners, KeyedRows.total_append ownWinners, amounts, allocated]
  have paid : ∀ other, after.paid other = before.paid other + if other = level then
      ((creditsOf (rewardsOf level (allocate pool.poolAmount drawn))).map GoldCredit.amount).sum
      else 0 := by
    intro other
    unfold Store.paid
    rw [unlocks.credits, KeyedRows.total_append ownCredits]
  obtain ⟨noWinners, noCredits, noRewards⟩ := ledger.unpaid level unpaid
  refine ⟨⟨?_, ?_, ?_, ?_⟩, ?_⟩
  · rw [unlocks.pools, List.map_append, List.map_singleton, isOwn]
    exact List.nodup_append'.mpr ⟨ledger.once, List.nodup_singleton level,
      List.disjoint_singleton.mpr unpaid⟩
  · intro other member
    rw [unlocks.pools] at member
    rcases List.mem_append.mp member with older | isNew
    · have different : other.level ≠ level := by
        rintro rfl
        exact unpaid (List.mem_map_of_mem older)
      obtain ⟨wasWon, within, wasPaid⟩ := ledger.exactly other older
      refine ⟨?_, within, ?_⟩
      · rw [won, if_neg different, add_zero]
        exact wasWon
      · rw [paid, if_neg different, add_zero]
        exact wasPaid
    · obtain rfl := List.mem_singleton.mp isNew
      refine ⟨?_, ?_, ?_⟩
      · rw [won, if_pos isOwn, isOwn]
        unfold Store.won
        rw [KeyedRows.total_eq_zero noWinners, zero_add]
      · intro nonneg
        rw [allocated]
        exact sum_allocate_le nonneg drawn
      · intro nonneg limited
        rw [paid, if_pos isOwn, isOwn]
        unfold Store.paid
        rw [KeyedRows.total_eq_zero noCredits, zero_add, sum_creditsOf, coins_rewardsOf, allocated]
        intro reward member
        have coins : reward.coins ∈
            (rewardsOf level (allocate other.poolAmount drawn)).map TreasureReward.coins :=
          List.mem_map_of_mem member
        rw [coins_rewardsOf] at coins
        obtain ⟨allocation, inside, isAmount⟩ := List.mem_map.mp coins
        rw [← isAmount, amount_of_allocate inside]
        exact ⟨Portions.tdiv_nonneg nonneg _, (Portions.tdiv_le nonneg _).trans limited⟩
  · intro other
    rw [unlocks.opened, levels, ledger.opened]
  · intro other notThere
    have different : other ≠ level := fun same => notThere ((levels other).mpr (.inl same))
    obtain ⟨winners, credits, rewards⟩ :=
      ledger.unpaid other fun there => notThere ((levels other).mpr (.inr there))
    refine ⟨?_, ?_, ?_⟩
    · intro winner member same
      rw [unlocks.winners] at member
      rcases List.mem_append.mp member with older | isNew
      · exact winners winner older same
      · exact different (same.symm.trans (ownWinners winner isNew))
    · intro credit member same
      rw [unlocks.credits] at member
      rcases List.mem_append.mp member with older | isNew
      · exact credits credit older same
      · exact different (same.symm.trans (ownCredits credit isNew))
    · intro reward member same
      rw [unlocks.rewards, foldl_markDistributed] at member
      obtain ⟨row, inside, rfl⟩ := List.mem_map.mp member
      have level_row : row.level = other := by
        rw [← same]
        split
        · rfl
        · rfl
      rcases List.mem_append.mp inside with older | isNew
      · exact rewards row older level_row
      · exact different (level_row.symm.trans (level_of_rewardsOf isNew))
  · intro reward member positive
    rw [unlocks.rewards, foldl_markDistributed] at member
    obtain ⟨row, inside, rfl⟩ := List.mem_map.mp member
    by_cases selected : row.level = level ∧
        row.userId ∈ (credited (rewardsOf level (allocate pool.poolAmount drawn))).map
          TreasureReward.userId ∧ row.status = .pending
    · rw [if_pos selected]
    · rw [if_neg selected] at positive ⊢
      rcases List.mem_append.mp inside with older | isNew
      · exact ledger.marked row older positive
      · refine absurd ⟨level_of_rewardsOf isNew, ?_, ?_⟩ selected
        · exact List.mem_map_of_mem
            (List.mem_filter.mpr ⟨isNew, decide_eq_true (asNumber_pos positive)⟩)
        · obtain ⟨pair, -, rfl⟩ := List.mem_map.mp isNew
          rfl

/-- Marking a failure leaves alone what is paid. -/
theorem Ledger.markFailed (ledger : Ledger store) : Ledger (store.markFailed level) where
  once := ledger.once
  exactly := by
    intro pool member
    obtain ⟨won, within, paid⟩ := ledger.exactly pool member
    exact ⟨won, within, paid⟩
  opened := ledger.opened
  unpaid := by
    intro other notThere
    obtain ⟨winners, credits, rewards⟩ := ledger.unpaid other notThere
    refine ⟨winners, credits, ?_⟩
    intro reward member
    obtain ⟨row, inside, rfl⟩ := List.mem_map.mp member
    rw [level_mark]
    exact rewards row inside
  marked := by
    intro reward member positive
    obtain ⟨row, inside, rfl⟩ := List.mem_map.mp member
    rw [coins_mark] at positive
    rw [mark_distributed (ledger.marked row inside positive)]
    exact ledger.marked row inside positive

theorem payment_markFailed (ledger : Ledger store) (other : Nat) :
    (store.markFailed level).payment other = store.payment other := by
  have unchanged : (store.markFailed level).rewards.filter
      (fun reward => reward.level = other && reward.coins > 0) =
        store.rewards.filter fun reward => reward.level = other && reward.coins > 0 := by
    have marked := ledger.marked
    unfold Store.markFailed
    dsimp only
    generalize store.rewards = rows at marked
    induction rows with
    | nil => rfl
    | cons first rest ih =>
        rw [List.map_cons, List.filter_cons, List.filter_cons, level_mark, coins_mark,
          ih fun reward member => marked reward (List.mem_cons_of_mem first member)]
        split
        · rename_i selected
          have positive := of_decide_eq_true (Bool.and_eq_true_iff.mp selected).2
          rw [mark_distributed (marked first List.mem_cons_self positive)]
        · rfl
  unfold Store.payment
  rw [unchanged]
  rfl

end Store

/-! ### Deliveries -/

def Store.Minted (store : Store) (level : Nat) : Prop :=
  level ∈ store.pools.map TreasureRewardPool.level

/-- What a delivery relies on: before its commit it has changed nothing and its box has been
claimed, and afterwards its box has its pool. -/
def Call.Relies (store : Store) : Call → Prop
  | .gettingBox delivery => delivery.wrote = false
  | .gettingSession delivery => delivery.wrote = false ∧ store.Claimed delivery.job.level
  | .drawing delivery _ _ => delivery.wrote = false ∧ store.Claimed delivery.job.level
  | .distributing delivery computed allocations =>
      delivery.wrote = false ∧ store.Claimed delivery.job.level ∧
        ∃ drawn : List UserId, drawn.Nodup ∧ allocations = allocate computed.poolAmount drawn
  | .broadcasting delivery => store.Minted delivery.job.level
  | .chaining delivery => store.Minted delivery.job.level
  | .claiming delivery _ => store.Minted delivery.job.level
  | .enqueueingNext delivery _ => store.Minted delivery.job.level
  | .failing delivery stage => (delivery.failure stage).Clean store
  | _ => True

/-- What no step takes back. -/
structure Store.Later (before after : Store) : Prop where
  claimed : ∀ level, before.Claimed level → after.Claimed level
  minted : ∀ level, before.Minted level → after.Minted level

section Turns

variable {store after : Store} {call : Call} {turn : Turn}

theorem Store.Later.refl (store : Store) : store.Later store := ⟨fun _ => id, fun _ => id⟩

theorem Store.Climbs.later (climbs : store.Climbs after) : store.Later after where
  claimed := climbs.claimed
  minted := by
    intro level minted
    unfold Minted
    rw [climbs.pools]
    exact minted

theorem Failure.Clean.later {failure : Failure} (clean : failure.Clean store)
    (later : store.Later after) : failure.Clean after := by
  unfold Clean at clean ⊢
  split
  · rename_i committed
    rw [if_pos committed] at clean
    exact later.minted _ clean
  · rename_i uncommitted
    rw [if_neg uncommitted] at clean
    exact clean

theorem Call.Relies.later (relies : call.Relies store) (later : store.Later after) :
    call.Relies after := by
  cases call with
  | gettingSession delivery => exact ⟨relies.1, later.claimed _ relies.2⟩
  | drawing delivery rules computed =>
      exact ⟨relies.1, later.claimed _ relies.2⟩
  | distributing delivery computed allocations =>
      exact ⟨relies.1, later.claimed _ relies.2.1, relies.2.2⟩
  | broadcasting delivery => exact later.minted _ relies
  | chaining delivery => exact later.minted _ relies
  | claiming delivery next => exact later.minted _ relies
  | enqueueingNext delivery job => exact later.minted _ relies
  | failing delivery stage => exact Failure.Clean.later relies later
  | _ => exact relies

/-- A turn that keeps the tables, and what its call relies on. -/
structure Turn.Keeps (turn : Turn) (store : Store) : Prop where
  ledger : turn.store.Ledger
  later : store.Later turn.store
  relies : turn.call.Relies turn.store
  clean : ∀ failure ∈ turn.failure, failure.Clean turn.store

/-- A turn that changes nothing. -/
theorem keeps_still (ledger : store.Ledger) (relies : call.Relies store)
    {enqueued : Option UnlockJob} {delivered : Option Nat} :
    Turn.Keeps { store := store, call := call, enqueued := enqueued, delivered := delivered }
      store :=
  ⟨ledger, .refl store, relies, nofun⟩

theorem keeps_ended (ledger : store.Ledger) {enqueued : Option UnlockJob}
    {delivered : Option Nat} :
    Turn.Keeps { store := store, call := .ended, enqueued := enqueued, delivered := delivered }
      store :=
  keeps_still ledger (show Call.ended.Relies store from trivial)

theorem keeps_failing {delivery : Delivery} {stage : TreasureUnlockStage} (ledger : store.Ledger)
    (clean : (delivery.failure stage).Clean store) :
    Turn.Keeps { store := store, call := .failing delivery stage } store :=
  keeps_still ledger (show (Call.failing delivery stage).Relies store from clean)

/-- A turn that goes up the ladder. -/
theorem keeps_climbs (ledger : store.Ledger) (climbs : store.Climbs after)
    (relies : call.Relies after) {enqueued : Option UnlockJob} {delivered : Option Nat} :
    Turn.Keeps { store := after, call := call, enqueued := enqueued, delivered := delivered }
      store :=
  ⟨ledger.climbs climbs, climbs.later, relies, nofun⟩

theorem keeps_throws (ledger : store.Ledger) (relies : call.Relies store) :
    (call.throws store).Keeps store := by
  cases call with
  | gettingBox delivery => exact keeps_failing ledger relies
  | gettingSession delivery => exact keeps_failing ledger relies.1
  | drawing delivery rules computed => exact keeps_failing ledger relies.1
  | distributing delivery computed allocations => exact keeps_failing ledger relies.1
  | broadcasting delivery => exact keeps_failing ledger relies
  | chaining delivery => exact keeps_failing ledger relies
  | claiming delivery next => exact keeps_failing ledger relies
  | enqueueingNext delivery job => exact keeps_failing ledger relies
  | failing delivery stage =>
      refine ⟨ledger, .refl store, trivial, ?_⟩
      rintro failure ⟨⟩
      exact relies
  | _ => exact keeps_ended ledger

/-- The box of a delivery that reaches its transaction without a pool awaits its unlock. -/
theorem Store.Ledger.waits {level : Nat} (ledger : store.Ledger) (isClaimed : store.Claimed level)
    (unpaid : ¬store.Minted level) : store.statusOf level = some .unlocking := by
  obtain ⟨status, isStatus, was⟩ := isClaimed
  have isStatus : store.statusOf level = some status := isStatus
  rcases Bool.or_eq_true_iff.mp was with unlocking | opened
  · rw [isStatus, of_decide_eq_true unlocking]
  · rw [of_decide_eq_true opened] at isStatus
    exact absurd ((ledger.opened level).mp isStatus) unpaid

theorem keeps_distributing {delivery : Delivery} {computed : ComputedPool}
    {allocations : List PoolAllocation} {meets : Meets} (ledger : store.Ledger)
    (relies : (Call.distributing delivery computed allocations).Relies store) :
    ((Call.distributing delivery computed allocations).goOn store meets).Keeps store := by
  obtain ⟨-, isClaimed, drawn, distinct, rfl⟩ := relies
  rw [Call.goOn]
  split
  · exact keeps_ended ledger
  · rename_i after pays
    have unpaid : ¬store.Minted delivery.job.level := by
      intro minted
      rw [Store.payOut_replay minted] at pays
      cases pays
    obtain ⟨noWinners, noCredits, -⟩ := ledger.unpaid _ unpaid
    have unlocks := Store.payOut_spec unpaid noWinners noCredits
      (by rw [users_allocate]; exact distinct) (ledger.waits isClaimed unpaid) pays
    have minted : ∀ level, level ∈ after.pools.map TreasureRewardPool.level ↔
        level ∈ store.pools.map TreasureRewardPool.level ∨ level = delivery.job.level := by
      intro level
      rw [unlocks.pools, List.map_append, List.mem_append, List.map_singleton,
        List.mem_singleton]
      rfl
    refine ⟨?_, ⟨unlocks.claimed, fun level was => (minted level).mpr (.inl was)⟩,
      (minted _).mpr (.inr rfl), nofun⟩
    exact Store.Unlocks.ledger unlocks ledger rfl unpaid rfl

theorem keeps_goOn {meets : Meets} (ledger : store.Ledger) (relies : call.Relies store) :
    (call.goOn store meets).Keeps store := by
  cases call with
  | reading amount correlationId =>
      rw [Call.goOn]
      split
      · exact keeps_ended ledger
      · refine keeps_still ledger ?_
        exact trivial
  | listing amount correlationId level =>
      refine keeps_still ledger ?_
      exact trivial
  | pouring amount correlationId level boxes =>
      rw [Call.goOn]
      split
      · exact keeps_climbs ledger Store.climbs_apply (by trivial)
      · exact keeps_climbs ledger Store.climbs_apply (by trivial)
  | enqueueing job => exact keeps_ended ledger
  | starting =>
      rw [Call.goOn]
      split
      · exact keeps_ended ledger
      · rename_i started
        exact keeps_climbs ledger (Store.climbs_transitionSession started) (by trivial)
  | activating level => exact keeps_climbs ledger Store.climbs_activateBox (by trivial)
  | gettingBox delivery =>
      rw [Call.goOn]
      split
      · exact keeps_failing ledger relies
      · rename_i box found
        split
        · exact keeps_ended ledger
        · split
          · exact keeps_failing ledger relies
          · rename_i unlocking
            refine keeps_still ledger ?_
            refine ⟨relies, box.status, ?_, ?_⟩
            · show (store.getBox _).map _ = _
              rw [found]
              rfl
            · rw [not_not.mp unlocking]
              rfl
  | gettingSession delivery =>
      rw [Call.goOn]
      split
      · exact keeps_failing ledger relies.1
      · split
        · exact keeps_failing ledger relies.1
        · split
          · exact keeps_failing ledger relies.1
          · refine keeps_still ledger ?_
            exact relies
  | drawing delivery rules computed =>
      rw [Call.goOn]
      split
      · exact keeps_failing ledger relies.1
      · rename_i drawn selected
        refine keeps_still ledger ?_
        exact ⟨relies.1, relies.2, drawn, select_nodup selected, rfl⟩
  | distributing delivery computed allocations => exact keeps_distributing ledger relies
  | broadcasting delivery =>
      refine keeps_still ledger ?_
      exact relies
  | chaining delivery =>
      rw [Call.goOn]
      split
      · exact keeps_ended ledger
      · split
        · exact keeps_ended ledger
        · refine keeps_still ledger ?_
          exact relies
  | claiming delivery next =>
      rw [Call.goOn]
      split
      · refine keeps_climbs ledger Store.climbs_claimUnlock ?_
        exact Store.climbs_claimUnlock.later.minted _ relies
      · exact keeps_ended ledger
  | enqueueingNext delivery job => exact keeps_ended ledger
  | failing delivery stage =>
      have clean : (delivery.failure stage).Clean store := relies
      refine ⟨ledger.markFailed, ⟨fun _ => id, fun _ => id⟩, trivial, ?_⟩
      rintro failure ⟨⟩
      show Failure.Clean _ (store.markFailed delivery.job.level)
      unfold Failure.Clean Delivery.failure Delivery.saw at *
      rw [Store.payment_markFailed ledger, Bool.or_eq_left_iff_imp.mpr fun differs =>
        absurd rfl (of_decide_eq_true differs)]
      exact clean
  | ended => exact keeps_ended ledger

end Turns

/-! ### Runs -/

namespace World

structure Sound (world : World) : Prop where
  ledger : world.store.Ledger
  relies : ∀ call ∈ world.calls, call.Relies world.store
  clean : ∀ failure ∈ world.failures, failure.Clean world.store

variable {world : World}

theorem Sound.pays (sound : Sound world) : world.Pays where
  paid := sound.ledger.toPaid
  clean := sound.clean

theorem Unopened.sound (unopened : world.Unopened) : Sound world := by
  obtain ⟨pools, winners, rewards, credits⟩ := unopened.nothing
  refine ⟨⟨⟨?_, ?_, ?_, ?_⟩, ?_⟩, ?_, ?_⟩
  · rw [pools]
    exact List.nodup_nil
  · rw [pools]
    exact List.forall_mem_nil _
  · intro level
    rw [pools]
    refine iff_of_false ?_ nofun
    intro opened
    obtain ⟨box, found, isOpened⟩ := Option.map_eq_some_iff.mp opened
    exact unopened.closed box (KeyedRows.mem_of_find found) isOpened
  · rw [winners, credits, rewards]
    exact fun _ _ => ⟨nofun, nofun, nofun⟩
  · rw [rewards]
    exact List.forall_mem_nil _
  · rw [unopened.idle.1]
    exact List.forall_mem_nil _
  · rw [unopened.idle.2]
    exact List.forall_mem_nil _

theorem Sound.spawn (sound : Sound world) {call : Call} (relies : call.Relies world.store) :
    Sound (world.spawn call) where
  ledger := sound.ledger
  relies := by
    intro other member
    rcases List.mem_append.mp member with older | isNew
    · exact sound.relies other older
    · rw [List.mem_singleton.mp isNew]
      exact relies
  clean := sound.clean

theorem Sound.command (sound : Sound world) (source : List TreasureSessionStatus)
    (target : TreasureSessionStatus) : Sound (world.command source target) where
  ledger := sound.ledger.climbs (Store.climbs_getD_transitionSession source target)
  relies := fun call member =>
    (sound.relies call member).later (Store.climbs_getD_transitionSession source target).later
  clean := fun failure member =>
    (sound.clean failure member).later (Store.climbs_getD_transitionSession source target).later

theorem Sound.take (sound : Sound world) {turn : Turn} (keeps : turn.Keeps world.store)
    (position : Nat) : Sound (world.take position turn) where
  ledger := keeps.ledger
  relies := by
    intro other member
    rcases List.mem_or_eq_of_mem_set member with older | rfl
    · exact (sound.relies other older).later keeps.later
    · exact keeps.relies
  clean := by
    intro failure member
    rcases List.mem_append.mp member with isNew | older
    · exact keeps.clean failure (Option.mem_toList.mp isNew)
    · exact (sound.clean failure older).later keeps.later

theorem sound_step (sound : Sound world) (event : Event) : Sound (world.step event) := by
  cases event with
  | gift amount correlationId => exact sound.spawn trivial
  | start => exact sound.spawn trivial
  | pause => exact sound.command [.active] .paused
  | resume => exact sound.command [.paused] .active
  | close => exact sound.command [.draft, .active, .paused] .closed
  | deliver job => exact sound.spawn rfl
  | goOn position meets =>
      rw [step]
      split
      · exact sound
      · rename_i call found
        have relies := sound.relies call (List.mem_of_getElem? found)
        exact sound.take (keeps_goOn sound.ledger relies) position
  | fail position =>
      rw [step]
      split
      · exact sound
      · rename_i call found
        have relies := sound.relies call (List.mem_of_getElem? found)
        exact sound.take (keeps_throws sound.ledger relies) position
  | crash position =>
      refine ⟨sound.ledger, ?_, sound.clean⟩
      intro other member
      rcases List.mem_or_eq_of_mem_set member with older | rfl
      · exact sound.relies other older
      · exact trivial

/-- In every run of a ladder each box pays at most once, and what its pool allocates. -/
theorem pays_always (world : World) (unopened : world.Unopened) (events : List Event) :
    Always World.step World.Pays world events := by
  have kept : ∀ (world : World) (event : Event), Sound world → Sound (world.step event) :=
    fun _ event sound => sound_step sound event
  exact (always_of_step kept world unopened.sound events).imp fun _ sound => sound.pays

end World

/-- A ladder of one level, its box claimed. -/
def oneBox (rules : TreasureLevelRules) : World where
  store :=
    { session := .active
      boxes := [{ level := 1, threshold := rules.threshold, progress := rules.threshold
                  status := .unlocking }]
      rules := [rules] }

def seeded : World := oneBox { level := 1, threshold := 15000 }

theorem unopened_seeded : seeded.Unopened where
  closed := by decide
  nothing := ⟨rfl, rfl, rfl, rfl⟩
  idle := ⟨rfl, rfl⟩

def anna_bert_carl : Draw := ⟨["anna", "bert", "carl", "dora"], by decide, [1, 0, 1]⟩

def meetsDraw : Meets := { draw := anna_bert_carl }

def goOnWith (position times : Nat) : List Event :=
  List.replicate times (.goOn position meetsDraw)

/-- Two deliveries of one box; the second is stopped in its transaction, and comes again. -/
def deliveredThrice : List Event :=
  .deliver { level := 1, correlationId := "gift" } ::
    .deliver { level := 1, correlationId := "recovery" } ::
      goOnWith 0 3 ++ goOnWith 1 3 ++ [.fail 1, .goOn 1 {}] ++ goOnWith 0 3 ++
        .deliver { level := 1, correlationId := "recovery" } :: goOnWith 2 1

theorem pays_deliveredThrice :
    Always World.step World.Pays seeded deliveredThrice ∧
      (run World.step seeded deliveredThrice).store.credits.map GoldCredit.amount =
        [500, 500, 500] :=
  ⟨World.pays_always seeded unopened_seeded deliveredThrice, by decide +kernel⟩

def failsInBroadcast : List Event :=
  .deliver { level := 1, correlationId := "gift" } :: goOnWith 0 4 ++ [.fail 0, .goOn 0 {}]

/-- Three shares of one coin more than a number holds exactly. -/
def huge : World :=
  oneBox { level := 1
           threshold := 15000
           poolStrategy := some .fixed
           poolFixedAmount := some (3 * 2 ^ 53 + 4) }

/-- A delivery that fails after its commit has paid its box, and a huge share is credited as the
number next to it. -/
theorem wrote_failsInBroadcast :
    (∃ failure ∈ (run World.step seeded failsInBroadcast).failures, failure.wrote = true) ∧
      (run World.step huge (failsInBroadcast.take 5)).store.paid 1 <
        (run World.step huge (failsInBroadcast.take 5)).store.won 1 := by
  decide +kernel

end Soulzaa.VideoRooms.Ladders
