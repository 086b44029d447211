/-
WealthRewardService: one reward of one user in one period.

Level-ups and the monthly reset grant the reward, and the user claims it.  All three find
the claim row, upsert it and pay; the upsert does not say who inserted the row.  A call
stands where its last await has left it, and the coins are paid under a random key, so
that every payment is a new one.
-/

import Mathlib.Algebra.Order.Group.Int
import Soulzaa.Lib.Interleaving
import Soulzaa.Lib.Runs

namespace Soulzaa.Wealth.Rewards

open Interleaving

inductive WealthRewardType where
  | goldCoins
  | cosmetic
  | badge
  | profileFrame
  | other
  deriving DecidableEq, Repr

inductive WealthRewardFrequency where
  | oneTime
  | daily
  | weekly
  | monthly
  deriving DecidableEq, Repr

inductive WealthRewardGrantType where
  | automatic
  | claimable
  deriving DecidableEq, Repr

structure WealthLevelReward where
  level : Int
  rewardType : WealthRewardType := .goldCoins
  /-- `rewardValue.amount`. -/
  amount : Int
  frequency : WealthRewardFrequency := .monthly
  grantType : WealthRewardGrantType
  isActive : Bool := true
  deriving DecidableEq, Repr

inductive WealthClaimStatus where
  | granted
  | claimed
  deriving DecidableEq, Repr

structure Store where
  reward : WealthLevelReward
  claim : Option WealthClaimStatus := none
  /-- The coins that were credited for the reward. -/
  credits : List Int := []
  deriving DecidableEq, Repr

/-! ### WealthRepository -/

/-- The row as it is, or a new one. -/
def grantRewardClaim (store : Store) : Store :=
  { store with claim := some (store.claim.getD .granted) }

def markClaimed (store : Store) : Store :=
  { store with claim := store.claim.map fun _ => .claimed }

/-! ### Calls -/

/-- On whose behalf the reward is given. -/
inductive Caller where
  /-- `grantAutomaticForCrossedLevels`, under the lock of the user's wealth. -/
  | crossedLevels (fromLevel toLevel : Int)
  /-- `grantAutomaticForPeriod` -/
  | period (level : Int)
  /-- `claimReward` -/
  | user (userLevel : Int)
  deriving DecidableEq, Repr

def Caller.admits (caller : Caller) (reward : WealthLevelReward) : Bool :=
  match caller with
  | .crossedLevels fromLevel toLevel =>
      reward.isActive && fromLevel < reward.level && reward.level ≤ toLevel &&
        reward.grantType = .automatic
  | .period level =>
      reward.isActive && reward.level ≤ level && reward.grantType = .automatic &&
        reward.frequency ≠ .oneTime
  | .user userLevel =>
      reward.isActive && reward.grantType = .claimable && reward.level ≤ userLevel

/-- A grant is done where there is a row, a claim where it is claimed. -/
def Caller.isDone (caller : Caller) (claim : Option WealthClaimStatus) : Bool :=
  match caller with
  | .user _ => claim = some .claimed
  | _ => claim.isSome

/-- What a call awaits. -/
inductive Call where
  | locking (caller : Caller)
  | reading (caller : Caller)
  | finding (caller : Caller) (reward : WealthLevelReward)
  | upserting (caller : Caller) (reward : WealthLevelReward)
  | marking (caller : Caller) (reward : WealthLevelReward)
  | fulfilling (caller : Caller) (reward : WealthLevelReward)
  | ended
  deriving DecidableEq, Repr

structure Reply where
  outsideWindow : Bool := false
  /-- The wallet refuses the credit. -/
  fails : Bool := false
  deriving DecidableEq, Repr

/-- A failure is logged, and no more. -/
def fulfill (store : Store) (reward : WealthLevelReward) (fails : Bool) : Store :=
  if reward.rewardType = .goldCoins ∧ 0 < reward.amount ∧ fails = false then
    { store with credits := store.credits ++ [reward.amount] }
  else store

namespace Call

def caller : Call → Option Caller
  | .reading caller => some caller
  | .finding caller _ => some caller
  | .upserting caller _ => some caller
  | .marking caller _ => some caller
  | .fulfilling caller _ => some caller
  | _ => none

/-- The lock of the user's wealth, which an award holds. -/
def locks (call : Call) : List Unit :=
  match call.caller with
  | some (.crossedLevels _ _) => [()]
  | _ => []

def awaits : Call → Option Unit
  | .locking (.crossedLevels _ _) => some ()
  | _ => none

def advance (store : Store) (reply : Reply) : Call → Store × Call
  | .locking caller => (store, .reading caller)
  | .reading caller =>
      (store,
        if caller.admits store.reward ∧ reply.outsideWindow = false then
          .finding caller store.reward
        else .ended)
  | .finding caller reward =>
      (store, if caller.isDone store.claim then .ended else .upserting caller reward)
  | .upserting caller reward =>
      (grantRewardClaim store,
        match caller with
        | .user _ =>
            if (grantRewardClaim store).claim = some .claimed then .ended
            else .marking caller reward
        | _ => .fulfilling caller reward)
  | .marking caller reward => (markClaimed store, .fulfilling caller reward)
  | .fulfilling _ reward => (fulfill store reward reply.fails, .ended)
  | .ended => (store, .ended)

/-- Past its upsert, and about to pay. -/
def isPaying : Call → Bool
  | .marking _ _ => true
  | .fulfilling _ _ => true
  | _ => false

end Call

/-! ### Runs -/

structure World where
  store : Store
  calls : List Call := []

inductive Event where
  | call (caller : Caller)
  | resume (position : Nat) (reply : Reply)
  /-- The await rejects, or the process ends. -/
  | ends (position : Nat)
  | updateReward (reward : WealthLevelReward)
  deriving DecidableEq, Repr

namespace World

def Blocked (world : World) (call : Call) : Prop :=
  ∃ key ∈ call.awaits, ¬Free Call.locks world.calls key

instance (world : World) (call : Call) : Decidable (world.Blocked call) :=
  inferInstanceAs (Decidable (∃ key ∈ call.awaits, _))

def resume (world : World) (position : Nat) (reply : Reply) (call : Call) : World :=
  if world.Blocked call then world
  else
    { store := (call.advance world.store reply).1
      calls := world.calls.set position (call.advance world.store reply).2 }

def step (world : World) : Event → World
  | .call caller => { world with calls := world.calls ++ [.locking caller] }
  | .resume position reply =>
      match world.calls[position]? with
      | none => world
      | some call => world.resume position reply call
  | .ends position => { world with calls := world.calls.set position .ended }
  | .updateReward reward => { world with store := { world.store with reward := reward } }

/-- The coins are credited once at most, and once where there is a claim and no call is
about to pay. -/
structure PaidOnce (world : World) : Prop where
  atMostOnce : world.store.credits.length ≤ 1
  paid : (∀ call ∈ world.calls, call.isPaying = false) → world.store.claim ≠ none →
    world.store.credits.length = 1

end World

/-! ### The condition -/

def Caller.isUser : Caller → Bool
  | .user _ => true
  | _ => false

/-- Whoever goes on to pay has inserted the row; and whoever has, pays. -/
def Call.Inserts (store : Store) (reply : Reply) : Call → Prop
  | .upserting caller _ =>
      store.claim = none ∨ (caller.isUser = true ∧ store.claim = some .claimed)
  | .fulfilling _ reward =>
      reward.rewardType = .goldCoins ∧ 0 < reward.amount ∧ reply.fails = false
  | _ => True

instance (store : Store) (reply : Reply) : (call : Call) → Decidable (call.Inserts store reply)
  | .upserting _ _ => inferInstanceAs (Decidable (_ ∨ _))
  | .fulfilling _ _ => inferInstanceAs (Decidable (_ ∧ _))
  | .locking _ => inferInstanceAs (Decidable True)
  | .reading _ => inferInstanceAs (Decidable True)
  | .finding _ _ => inferInstanceAs (Decidable True)
  | .marking _ _ => inferInstanceAs (Decidable True)
  | .ended => inferInstanceAs (Decidable True)

def World.PaysOnce (world : World) : Event → Prop
  | .resume position reply => ∀ call ∈ world.calls[position]?, call.Inserts world.store reply
  | .ends position => ∀ call ∈ world.calls[position]?, call.isPaying = false
  | _ => True

instance (world : World) : (event : Event) → Decidable (world.PaysOnce event)
  | .resume position _ => inferInstanceAs (Decidable (∀ call ∈ world.calls[position]?, _))
  | .ends position => inferInstanceAs (Decidable (∀ call ∈ world.calls[position]?, _))
  | .call _ => inferInstanceAs (Decidable True)
  | .updateReward _ => inferInstanceAs (Decidable True)

/-! ### One payment for one row -/

/-- The payment that a call is about to make. -/
def Call.due (call : Call) : Int := if call.isPaying then 1 else 0

/-- The payment that there is to be. -/
def Store.owed (store : Store) : Int := if store.claim = none then 0 else 1

/-- What is paid and what calls are about to pay is one payment if there is a row, and none
otherwise. -/
def World.Balanced (world : World) : Prop :=
  (world.store.credits.length : Int) + underWay Call.due world.calls = world.store.owed

variable {store : Store} {call : Call} {reply : Reply} {world : World} {position : Nat}

theorem due_nonneg (call : Call) : 0 ≤ call.due := by
  unfold Call.due
  split
  · exact Int.one_nonneg
  · exact le_refl 0

theorem due_of_idle (idle : call.isPaying = false) : call.due = 0 := by
  unfold Call.due
  rw [idle]
  rfl

theorem owed_markClaimed (store : Store) : (markClaimed store).owed = store.owed := by
  unfold Store.owed markClaimed
  exact if_congr Option.map_eq_none_iff rfl rfl

/-- A step moves what is paid and what is about to be as it moves what is to be. -/
theorem balance_advance (inserts : call.Inserts store reply) :
    ((call.advance store reply).1.credits.length : Int) + (call.advance store reply).2.due +
        store.owed =
      (store.credits.length : Int) + call.due + (call.advance store reply).1.owed := by
  have quiet : ∀ next : Call, next.isPaying = false → call.isPaying = false →
      (store.credits.length : Int) + next.due + store.owed =
        (store.credits.length : Int) + call.due + store.owed := by
    intro next nextIdle idle
    rw [due_of_idle nextIdle, due_of_idle idle]
  cases call with
  | locking caller => exact quiet _ rfl rfl
  | reading caller =>
      unfold Call.advance
      dsimp only
      split
      · exact quiet _ rfl rfl
      · exact quiet _ rfl rfl
  | finding caller reward =>
      unfold Call.advance
      dsimp only
      split
      · exact quiet _ rfl rfl
      · exact quiet _ rfl rfl
  | upserting caller reward =>
      rcases inserts with isNew | ⟨isUser, isClaimed⟩
      · -- The row is new, so the call goes on to pay.
        have unowed : store.owed = 0 := if_pos isNew
        have unclaimed : (grantRewardClaim store).claim ≠ some .claimed := by
          unfold grantRewardClaim
          rw [isNew]
          exact nofun
        have pays : ((Call.upserting caller reward).advance store reply).2.due = 1 := by
          cases caller with
          | crossedLevels fromLevel toLevel => rfl
          | period level => rfl
          | user userLevel =>
              unfold Call.advance
              dsimp only
              rw [if_neg unclaimed]
              rfl
        rw [pays, unowed]
        change (store.credits.length : Int) + 1 + 0 = store.credits.length + 0 + 1
        omega
      · -- The row is claimed, and the call is done.
        have isOwed : store.owed = 1 := by
          unfold Store.owed
          rw [isClaimed]
          rfl
        have idle : ((Call.upserting caller reward).advance store reply).2.due = 0 := by
          cases caller with
          | crossedLevels fromLevel toLevel => cases isUser
          | period level => cases isUser
          | user userLevel =>
              have claimed : (grantRewardClaim store).claim = some .claimed := by
                unfold grantRewardClaim
                rw [isClaimed]
                rfl
              unfold Call.advance
              dsimp only
              rw [if_pos claimed]
              rfl
        rw [idle, isOwed]
        rfl
  | marking caller reward =>
      change (store.credits.length : Int) + 1 + store.owed =
        store.credits.length + 1 + (markClaimed store).owed
      rw [owed_markClaimed]
  | fulfilling caller reward =>
      have isPaid : fulfill store reward reply.fails =
          { store with credits := store.credits ++ [reward.amount] } := if_pos inserts
      change ((fulfill store reward reply.fails).credits.length : Int) + 0 + store.owed =
        store.credits.length + 1 + (fulfill store reward reply.fails).owed
      rw [isPaid]
      change ((store.credits ++ [reward.amount]).length : Int) + 0 + store.owed =
        store.credits.length + 1 + store.owed
      rw [List.length_append, List.length_singleton]
      omega
  | ended => exact quiet _ rfl rfl

theorem balanced_step (balanced : world.Balanced) (event : Event) (pays : world.PaysOnce event) :
    (world.step event).Balanced := by
  unfold World.Balanced at balanced ⊢
  cases event with
  | call caller =>
      change (world.store.credits.length : Int) +
        underWay Call.due (world.calls ++ [.locking caller]) = world.store.owed
      rw [underWay_spawn, due_of_idle rfl, add_zero]
      exact balanced
  | updateReward reward => exact balanced
  | ends position =>
      change (world.store.credits.length : Int) +
        underWay Call.due (world.calls.set position .ended) = world.store.owed
      cases found : world.calls[position]? with
      | none =>
          rw [List.set_eq_of_length_le (List.getElem?_eq_none_iff.mp found)]
          exact balanced
      | some call =>
          have moved : underWay Call.due (world.calls.set position .ended) + call.due =
              underWay Call.due world.calls + Call.ended.due := underWay_set _ found .ended
          rw [due_of_idle (pays call found), due_of_idle rfl, add_zero, add_zero] at moved
          rw [moved]
          exact balanced
  | resume position reply =>
      unfold World.step
      dsimp only
      cases found : world.calls[position]? with
      | none => exact balanced
      | some call =>
          dsimp only
          unfold World.resume
          split
          · exact balanced
          · have moved : underWay Call.due
                  (world.calls.set position (call.advance world.store reply).2) + call.due =
                underWay Call.due world.calls + (call.advance world.store reply).2.due :=
              underWay_set _ found _
            have steps := balance_advance (pays call found)
            dsimp only
            omega

theorem paidOnce_of_balanced (balanced : world.Balanced) : world.PaidOnce := by
  unfold World.Balanced Store.owed at balanced
  have nonneg := underWay_nonneg due_nonneg world.calls
  constructor
  · split at balanced
    · omega
    · omega
  · intro idle isClaim
    have none : underWay Call.due world.calls = 0 :=
      underWay_eq_zero fun call member => due_of_idle (idle call member)
    rw [if_neg isClaim, none] at balanced
    omega

/-- Nothing is granted yet. -/
def unclaimed (reward : WealthLevelReward) : World := { store := { reward := reward } }

/-- Any calls for one reward of one user and period in any order: the reward is paid once
where each call that goes on to pay has inserted the row, and pays. -/
theorem paidOnce_of_inserted (reward : WealthLevelReward) (events : List Event)
    (pays : Runs.Each World.step World.PaysOnce (unclaimed reward) events) :
    Runs.Always World.step World.PaidOnce (unclaimed reward) events := by
  have kept : ∀ (world : World) (event : Event), world.Balanced → world.PaysOnce event →
      (world.step event).Balanced := fun _ event balanced pays => balanced_step balanced event pays
  have always := Runs.always_of_each kept (unclaimed reward) rfl events pays
  exact always.imp fun _ balanced => paidOnce_of_balanced balanced

/-! ### A reward of 100 coins -/

def claimable : WealthLevelReward :=
  { level := 1
    amount := 100
    grantType := .claimable }

def automatic : WealthLevelReward :=
  { level := 1
    amount := 100
    grantType := .automatic }

def goOn (positions : List Nat) : List Event :=
  positions.map fun position => .resume position {}

/-- Two clicks, the second between the claim and the payment of the first. -/
theorem paidOnce_twoClicks :
    Runs.Always World.step World.PaidOnce (unclaimed claimable)
      ([.call (.user 1), .call (.user 1)] ++ goOn [0, 1, 0, 1, 0, 1, 0, 0, 1, 0]) :=
  paidOnce_of_inserted claimable _ (by decide)

/-- Two clicks that both find no row. -/
def twoClicks : World :=
  Runs.run World.step (unclaimed claimable)
    ([.call (.user 1), .call (.user 1)] ++ goOn [0, 1, 0, 1, 0, 1, 0, 1, 0, 1, 0, 1])

/-- A level-up and the reset, which both find no row. -/
def twoGrants : World :=
  Runs.run World.step (unclaimed automatic)
    ([.call (.crossedLevels 0 1), .call (.period 1)] ++ goOn [0, 1, 0, 1, 0, 1, 0, 1, 0, 1])

/-- The wallet refuses the payment, and the user claims again. -/
def unpaidClaim : World :=
  Runs.run World.step (unclaimed claimable)
    (.call (.user 1) :: goOn [0, 0, 0, 0, 0] ++ [.resume 0 { fails := true }, .call (.user 1)] ++
      goOn [1, 1, 1])

/-- The coins are credited twice, or never. -/
theorem not_paidOnce_races :
    (twoClicks.store.credits = [100, 100]) ∧
    (twoGrants.store.credits = [100, 100]) ∧
    (unpaidClaim.store.claim = some .claimed ∧ unpaidClaim.store.credits = [] ∧
      unpaidClaim.calls = [.ended, .ended]) := by
  refine ⟨?_, ?_, ?_⟩
  · decide
  · decide
  · decide

end Soulzaa.Wealth.Rewards
