/-
The house edge.

Weigh each single outcome by 450 over its multiplier and the bonus outcomes by
nothing.  Every bet then returns at most 450 on average, while the weights add
up to 463, so the outcome that pays the least pays less than was staked.
-/

import Soulzaa.Casino.Settlement

namespace Soulzaa.Casino

open CasinoService

/-- What every bet returns at most, summed over the weighted outcomes. -/
def edgeBudget : Int := 450

def CasinoGame.bonusOutcomes : CasinoGame → List Item
  | .greedyFood => ["vegSalad", "nonVegSalad"]
  | .luckyFruit => ["smallLucky", "bigLucky"]

/-- Inverse to what the outcome pays on its own item. -/
def edgeWeight (game : CasinoGame) (outcome : Item) : Int :=
  if outcome ∈ game.bonusOutcomes then 0
  else edgeBudget / game.effectiveMultiplier outcome outcome

def CasinoGame.accepted : CasinoGame → List Item
  | .greedyFood => greedyItems ++ objectPrototypeKeys
  | .luckyFruit => luckyBettable

theorem mem_accepted {game : CasinoGame} {item : Item} (bettable : game.bettable item = true) :
    item ∈ game.accepted := by
  cases game with
  | greedyFood =>
      change (greedyItems.contains item || objectPrototypeKeys.contains item) = true at bettable
      rcases Bool.or_eq_true_iff.mp bettable with own | inherited
      · exact List.mem_append_left _ (List.contains_iff_mem.mp own)
      · exact List.mem_append_right _ (List.contains_iff_mem.mp inherited)
  | luckyFruit => exact List.contains_iff_mem.mp bettable

theorem edgeWeight_nonneg (game : CasinoGame) :
    ∀ outcome ∈ game.outcomes, 0 ≤ edgeWeight game outcome := by
  cases game <;> decide

theorem effectiveMultiplier_nonneg (game : CasinoGame) :
    ∀ item ∈ game.accepted, ∀ outcome ∈ game.outcomes,
      0 ≤ game.effectiveMultiplier item outcome := by
  cases game <;> decide

theorem edgeBudget_lt_weights (game : CasinoGame) :
    edgeBudget < (game.outcomes.map (edgeWeight game)).sum := by
  cases game <;> decide

theorem weighted_le_edgeBudget (game : CasinoGame) :
    ∀ item ∈ game.accepted,
      LowestTotal.weighted (edgeWeight game) (game.effectiveMultiplier item) game.outcomes ≤
        edgeBudget := by
  cases game <;> decide

def BelowStakes (paid : Int) (bets : List CasinoBet) : Prop :=
  paid ≤ staked bets ∧ (0 < staked bets → paid < staked bets)

theorem won_eq_liability (game : CasinoGame) (outcome : Item) (bets : List CasinoBet) :
    won game outcome bets =
      liability game.effectiveMultiplier (bets.map CasinoBet.betLike) outcome := by
  rw [liability_eq_total]
  unfold won LowestTotal.total
  rw [List.map_map]
  rfl

theorem belowStakes_of_lowest {game : CasinoGame} {bets : List CasinoBet} {outcome : Item}
    (bettable : ∀ bet ∈ bets, game.bettable bet.betItem = true)
    (positive : ∀ bet ∈ bets, 0 < bet.betAmount)
    (lowest : ∀ other ∈ game.outcomes, won game outcome bets ≤ won game other bets) :
    BelowStakes (won game outcome bets) bets :=
  LowestTotal.lowest_le_sum (by decide) (edgeBudget_lt_weights game)
    (edgeWeight_nonneg game) (fun bet member => le_of_lt (positive bet member))
    (fun bet member => weighted_le_edgeBudget game bet.betItem
      (mem_accepted (bettable bet member))) lowest

theorem staked_nonneg {bets : List CasinoBet} (positive : ∀ bet ∈ bets, 0 < bet.betAmount) :
    0 ≤ staked bets := by
  apply List.sum_nonneg
  intro amount member
  obtain ⟨bet, placed, rfl⟩ := List.mem_map.mp member
  exact le_of_lt (positive bet placed)

theorem payout_nonneg {game : CasinoGame} {bet : CasinoBet} {outcome : Item}
    (bettable : game.bettable bet.betItem = true) (positive : 0 < bet.betAmount)
    (isOutcome : outcome ∈ game.outcomes) : 0 ≤ payout game outcome bet :=
  Int.mul_nonneg (le_of_lt positive)
    (effectiveMultiplier_nonneg game bet.betItem (mem_accepted bettable) outcome isOutcome)

end Soulzaa.Casino
