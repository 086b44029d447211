/-
Choosing an outcome of lowest total.

`runningMin` is the minimum a loop keeps while it adds up totals.  The lowest of
several prices is at most their weighted average, so when every item's weighted
rate stays within a budget below the sum of the weights, the lowest total is
below the sum of the amounts.
-/

import Mathlib.Algebra.BigOperators.Ring.List
import Mathlib.Algebra.Order.BigOperators.Group.List
import Mathlib.Algebra.Order.Ring.Defs
import Mathlib.Algebra.Order.WithTop.Untop0
import Mathlib.Tactic.Ring

namespace Soulzaa.LowestTotal

section Minimum

variable {Value : Type} [LinearOrder Value]

/-- The loop's minimum, infinite before the first value. -/
def runningMin (start : WithTop Value) (values : List Value) : WithTop Value :=
  values.foldl (fun least value => if (value : WithTop Value) < least then value else least)
    start

theorem runningMin_cons (start : WithTop Value) (first : Value) (rest : List Value) :
    runningMin start (first :: rest) =
      runningMin (if (first : WithTop Value) < start then first else start) rest :=
  rfl

theorem runningMin_le_start (start : WithTop Value) (values : List Value) :
    runningMin start values ≤ start := by
  induction values generalizing start with
  | nil => exact le_refl start
  | cons first rest ih =>
      rw [runningMin_cons]
      apply le_trans (ih _)
      split
      · exact le_of_lt (by assumption)
      · exact le_refl start

theorem runningMin_le {start : WithTop Value} {values : List Value} {value : Value}
    (member : value ∈ values) : runningMin start values ≤ value := by
  induction values generalizing start with
  | nil => exact absurd member List.not_mem_nil
  | cons first rest ih =>
      rw [runningMin_cons]
      rcases List.mem_cons.mp member with rfl | later
      · apply le_trans (runningMin_le_start _ rest)
        split
        · exact le_refl _
        · exact not_lt.mp (by assumption)
      · exact ih later

theorem runningMin_eq_start_or_mem (start : WithTop Value) (values : List Value) :
    runningMin start values = start ∨ ∃ value ∈ values, runningMin start values = value := by
  induction values generalizing start with
  | nil => exact Or.inl rfl
  | cons first rest ih =>
      rw [runningMin_cons]
      rcases ih (if (first : WithTop Value) < start then first else start) with kept | found
      · by_cases lower : (first : WithTop Value) < start
        · rw [if_pos lower] at kept ⊢
          exact Or.inr ⟨first, List.mem_cons_self, kept⟩
        · rw [if_neg lower] at kept ⊢
          exact Or.inl kept
      · obtain ⟨value, member, reached⟩ := found
        exact Or.inr ⟨value, List.mem_cons_of_mem first member, reached⟩

theorem runningMin_mem {values : List Value} (nonempty : values ≠ []) :
    ∃ value ∈ values, runningMin ⊤ values = value := by
  rcases runningMin_eq_start_or_mem ⊤ values with infinite | found
  · obtain ⟨first, member⟩ := List.exists_mem_of_ne_nil values nonempty
    have bounded : runningMin ⊤ values ≤ first := runningMin_le member
    rw [infinite] at bounded
    exact absurd (WithTop.coe_lt_top first) (not_lt.mpr bounded)
  · exact found

end Minimum

section Average

variable {Outcome Item Number : Type} [CommSemiring Number]

def weighted (weight price : Outcome → Number) (outcomes : List Outcome) : Number :=
  (outcomes.map fun outcome => weight outcome * price outcome).sum

def total (amount rate : Item → Number) (items : List Item) : Number :=
  (items.map fun item => amount item * rate item).sum

/-- Averaging the totals is adding up the averages. -/
theorem weighted_total (weight : Outcome → Number) (amount : Item → Number)
    (rate : Item → Outcome → Number) (outcomes : List Outcome) (items : List Item) :
    weighted weight (fun outcome => total amount (fun item => rate item outcome) items) outcomes =
      total amount (fun item => weighted weight (rate item) outcomes) items := by
  -- One outcome more adds its weighted price to both sides, item by item.
  induction outcomes with
  | nil =>
      have nothing : ∀ item ∈ items, amount item * weighted weight (rate item) [] = 0 :=
        fun item _ => mul_zero (amount item)
      exact (List.sum_eq_zero (by simpa using nothing)).symm
  | cons first rest ih =>
      change weight first * total amount (fun item => rate item first) items +
        weighted weight (fun outcome => total amount (fun item => rate item outcome) items) rest = _
      rw [ih]
      unfold total
      rw [← List.sum_map_mul_left, ← List.sum_map_add]
      apply congrArg List.sum
      apply List.map_congr_left
      intro item _
      change weight first * (amount item * rate item first) +
          amount item * weighted weight (rate item) rest =
        amount item * (weight first * rate item first + weighted weight (rate item) rest)
      ring

variable [LinearOrder Number] [IsStrictOrderedRing Number]

theorem lowest_le_weighted {weight price : Outcome → Number} {outcomes : List Outcome}
    {lowest : Number} (nonneg : ∀ outcome ∈ outcomes, 0 ≤ weight outcome)
    (least : ∀ outcome ∈ outcomes, lowest ≤ price outcome) :
    (outcomes.map weight).sum * lowest ≤ weighted weight price outcomes := by
  induction outcomes with
  | nil => exact le_of_eq (zero_mul lowest)
  | cons first rest ih =>
      have tail := ih (fun outcome member => nonneg outcome (List.mem_cons_of_mem first member))
        (fun outcome member => least outcome (List.mem_cons_of_mem first member))
      have head : weight first * lowest ≤ weight first * price first :=
        mul_le_mul_of_nonneg_left (least first List.mem_cons_self)
          (nonneg first List.mem_cons_self)
      change (weight first + (rest.map weight).sum) * lowest ≤
        weight first * price first + weighted weight price rest
      rw [add_mul]
      exact add_le_add head tail

theorem total_le {amount rate : Item → Number} {items : List Item} {budget : Number}
    (amounts : ∀ item ∈ items, 0 ≤ amount item) (within : ∀ item ∈ items, rate item ≤ budget) :
    total amount rate items ≤ budget * (items.map amount).sum := by
  rw [← List.sum_map_mul_left]
  apply List.sum_le_sum
  intro item member
  rw [mul_comm budget]
  exact mul_le_mul_of_nonneg_left (within item member) (amounts item member)

/-- The lowest total is below the sum of the amounts when every item's weighted
rate is within a budget that the weights exceed. -/
theorem lowest_le_sum {weight : Outcome → Number} {amount : Item → Number}
    {rate : Item → Outcome → Number} {outcomes : List Outcome} {items : List Item}
    {budget lowest : Number} (budgetNonneg : 0 ≤ budget)
    (edge : budget < (outcomes.map weight).sum)
    (nonneg : ∀ outcome ∈ outcomes, 0 ≤ weight outcome)
    (amounts : ∀ item ∈ items, 0 ≤ amount item)
    (within : ∀ item ∈ items, weighted weight (rate item) outcomes ≤ budget)
    (least : ∀ outcome ∈ outcomes, lowest ≤ total amount (fun item => rate item outcome) items) :
    lowest ≤ (items.map amount).sum ∧
      (0 < (items.map amount).sum → lowest < (items.map amount).sum) := by
  have averaged : (outcomes.map weight).sum * lowest ≤ budget * (items.map amount).sum := by
    calc (outcomes.map weight).sum * lowest
        ≤ weighted weight (fun outcome => total amount (fun item => rate item outcome) items)
            outcomes := lowest_le_weighted nonneg least
      _ = total amount (fun item => weighted weight (rate item) outcomes) items :=
          weighted_total weight amount rate outcomes items
      _ ≤ budget * (items.map amount).sum := total_le amounts within
  have weights : 0 < (outcomes.map weight).sum := lt_of_le_of_lt budgetNonneg edge
  have sumNonneg : 0 ≤ (items.map amount).sum := by
    apply List.sum_nonneg
    simpa using amounts
  constructor
  · apply le_of_mul_le_mul_left _ weights
    exact le_trans averaged (mul_le_mul_of_nonneg_right (le_of_lt edge) sumNonneg)
  · intro positive
    apply lt_of_mul_lt_mul_left _ (le_of_lt weights)
    exact lt_of_le_of_lt averaged (mul_lt_mul_of_pos_right edge positive)

end Average

end Soulzaa.LowestTotal
