/-
Portions of a whole, rounded towards zero.

Rates are counted in parts of a base.  Portions at rates that add up to at most the base never
exceed the whole, and neither do equal shares of one portion.
-/

import Mathlib.Algebra.BigOperators.Ring.List
import Mathlib.Algebra.Order.BigOperators.Group.List
import Mathlib.Algebra.Order.Ring.Int
import Mathlib.Tactic.Ring

namespace Soulzaa.Portions

def portion (base whole rate : Int) : Int := (whole * rate).tdiv base

variable {base whole rate : Int}

theorem portion_nonneg (positive : 0 < base) (nonneg : 0 ≤ whole) (rated : 0 ≤ rate) :
    0 ≤ portion base whole rate :=
  Int.tdiv_nonneg (Int.mul_nonneg nonneg rated) (Int.le_of_lt positive)

theorem base_mul_portion_le (positive : 0 < base) (nonneg : 0 ≤ whole) (rated : 0 ≤ rate) :
    base * portion base whole rate ≤ whole * rate := by
  unfold portion
  rw [Int.tdiv_eq_ediv_of_nonneg (Int.mul_nonneg nonneg rated)]
  exact Int.mul_ediv_self_le (Int.ne_of_gt positive)

/-- The portions together are at most the whole. -/
theorem sum_portion_le {rates : List Int} (positive : 0 < base) (nonneg : 0 ≤ whole)
    (rated : ∀ rate ∈ rates, 0 ≤ rate) (within : rates.sum ≤ base) :
    (rates.map (portion base whole)).sum ≤ whole := by
  have scaled : base * (rates.map (portion base whole)).sum ≤ whole * rates.sum := by
    have plain : whole * rates.sum = (rates.map fun rate => whole * rate).sum := by
      rw [List.sum_map_mul_left, List.map_id']
    rw [plain, ← List.sum_map_mul_left]
    apply List.sum_le_sum
    intro rate member
    exact base_mul_portion_le positive nonneg (rated rate member)
  have bounded : whole * rates.sum ≤ base * whole := by
    rw [Int.mul_comm base whole]
    exact Int.mul_le_mul_of_nonneg_left within nonneg
  exact Int.le_of_mul_le_mul_left (scaled.trans bounded) positive

theorem portion_le (positive : 0 < base) (nonneg : 0 ≤ whole) (rated : 0 ≤ rate)
    (within : rate ≤ base) : portion base whole rate ≤ whole := by
  have single := @sum_portion_le base whole [rate] positive nonneg
    (List.forall_mem_singleton.mpr rated) (by rw [List.sum_singleton]; exact within)
  rw [List.map_singleton, List.sum_singleton] at single
  exact single

/-- Equal shares of an amount are at most the amount. -/
theorem mul_tdiv_le {amount : Int} (nonneg : 0 ≤ amount) (count : Nat) :
    count * amount.tdiv count ≤ amount := by
  rw [Int.tdiv_eq_ediv_of_nonneg nonneg]
  rcases Nat.eq_zero_or_pos count with rfl | positive
  · exact (Int.zero_mul _).trans_le nonneg
  · exact Int.mul_ediv_self_le (Int.natCast_ne_zero.mpr (Nat.ne_of_gt positive))

theorem tdiv_nonneg {amount : Int} (nonneg : 0 ≤ amount) (count : Nat) :
    0 ≤ amount.tdiv count :=
  Int.tdiv_nonneg nonneg (Int.natCast_nonneg count)

theorem tdiv_le {amount : Int} (nonneg : 0 ≤ amount) (count : Nat) : amount.tdiv count ≤ amount := by
  rw [Int.tdiv_eq_ediv_of_nonneg nonneg]
  exact Int.ediv_le_self _ nonneg

/-! ### Even shares -/

/-- Whole shares of an amount, of which the first ones take what remains. -/
def evenShares (amount : Int) (count : Nat) : List Int :=
  (List.range count).map fun (index : Nat) =>
    amount / count + if (index : Int) < amount - amount / count * count then 1 else 0

theorem sum_first {limit : Int} (nonneg : 0 ≤ limit) (count : Nat) :
    ((List.range count).map fun (index : Nat) => if (index : Int) < limit then (1 : Int) else 0).sum =
      min limit count := by
  induction count with
  | zero => exact (min_eq_right nonneg).symm
  | succ count ih =>
      rw [List.range_succ, List.map_append, List.sum_append, ih, List.map_singleton,
        List.sum_singleton]
      split <;> omega

theorem remains_spec {count : Nat} (positive : 0 < count) (amount : Int) :
    0 ≤ amount - amount / count * count ∧ amount - amount / count * count < count := by
  have whole := Int.mul_ediv_add_emod amount count
  have nonneg := Int.emod_nonneg amount (Int.natCast_ne_zero.mpr (Nat.ne_of_gt positive))
  have below := Int.emod_lt_of_pos amount (Int.natCast_pos.mpr positive)
  rw [Int.mul_comm] at whole
  omega

/-- Even shares add up to the amount. -/
theorem sum_evenShares {count : Nat} (positive : 0 < count) (amount : Int) :
    (evenShares amount count).sum = amount := by
  obtain ⟨nonneg, below⟩ := remains_spec positive amount
  unfold evenShares
  rw [List.sum_map_add, sum_first nonneg, min_eq_left (Int.le_of_lt below), List.map_const',
    List.sum_replicate, List.length_range, nsmul_eq_mul, Int.mul_comm]
  omega

theorem mem_evenShares {count : Nat} {amount share : Int} (isShare : share ∈ evenShares amount count) :
    share = amount / count ∨ share = amount / count + 1 := by
  obtain ⟨index, _, rfl⟩ := List.mem_map.mp isShare
  split
  · exact Or.inr rfl
  · exact Or.inl (Int.add_zero _)

end Soulzaa.Portions
