/-
Integers as IEEE 754 binary64 numbers, and quotients of them.

`round` is the nearest binary64 value of an integer, ties to even.  It is exact
up to `2 ^ 53` and loses low digits above.  Magnitudes stay below `2 ^ 1024`
where it is used, so no value rounds to an infinity.
-/

import Mathlib.Algebra.Group.Nat.Defs
import Mathlib.Algebra.Ring.Int.Defs
import Mathlib.Algebra.Order.BigOperators.Group.List
import Mathlib.Algebra.Order.Ring.Int
import Mathlib.Data.Nat.Log

namespace Soulzaa.Binary64

def exactLimit : Nat := 2 ^ 53

/-- The distance between neighbouring binary64 values at magnitude `n`. -/
def spacing (n : Nat) : Nat := 2 ^ (n.log2 - 52)

/-- The multiple of `unit` nearest to `n`; the even one of two equally near. -/
def nearestMultiple (unit n : Nat) : Nat :=
  if 2 * (n % unit) < unit ∨ (2 * (n % unit) = unit ∧ n / unit % 2 = 0) then
    n / unit * unit
  else
    (n / unit + 1) * unit

def roundNat (n : Nat) : Nat :=
  if n ≤ exactLimit then n else nearestMultiple (spacing n) n

def round (value : Int) : Int := value.sign * roundNat value.natAbs

def sub (left right : Int) : Int := round (left - right)

def addUp (start : Int) (values : List Int) : Int :=
  values.foldl (fun total value => round (total + round value)) start

theorem roundNat_of_le {n : Nat} (small : n ≤ exactLimit) : roundNat n = n :=
  if_pos small

theorem spacing_pos (n : Nat) : 0 < spacing n :=
  Nat.two_pow_pos _

theorem spacing_le {n : Nat} (large : 0 < n) : spacing n ≤ n := by
  calc spacing n ≤ 2 ^ n.log2 := Nat.pow_le_pow_right (by decide) (Nat.sub_le _ _)
    _ ≤ n := Nat.log2_self_le (Nat.pos_iff_ne_zero.mp large)

theorem nearestMultiple_pos {unit n : Nat} (unitPos : 0 < unit) (reached : unit ≤ n) :
    0 < nearestMultiple unit n := by
  have quotient : 0 < n / unit := Nat.div_pos reached unitPos
  unfold nearestMultiple
  split
  · exact Nat.mul_pos quotient unitPos
  · exact Nat.mul_pos (Nat.succ_pos _) unitPos

theorem roundNat_eq_zero_iff (n : Nat) : roundNat n = 0 ↔ n = 0 := by
  unfold roundNat
  split
  · exact Iff.rfl
  · rename_i large
    have positive : 0 < n := by omega
    have rounded := nearestMultiple_pos (spacing_pos n) (spacing_le positive)
    omega

theorem round_eq_self {value : Int} (small : value.natAbs ≤ exactLimit) :
    round value = value := by
  unfold round
  rw [roundNat_of_le small]
  exact Int.sign_mul_natAbs value

/-- A multiple of a unit is exact as far as 53 bits of the unit go. -/
theorem roundNat_of_dvd {bits n : Nat} (divides : 2 ^ bits ∣ n) (small : n ≤ 2 ^ (bits + 53)) :
    roundNat n = n := by
  unfold roundNat
  split
  · rfl
  · rename_i large
    have positive : n ≠ 0 := by omega
    have unit : spacing n ∣ n := by
      rcases Nat.lt_or_eq_of_le small with less | isEnd
      · have fits := (Nat.log2_lt positive).mpr less
        exact (Nat.pow_dvd_pow 2 (by omega)).trans divides
      · rw [isEnd, spacing, Nat.log2_two_pow]
        exact Nat.pow_dvd_pow 2 (by omega)
    unfold nearestMultiple
    rw [Nat.mod_eq_zero_of_dvd unit, if_pos (Or.inl (by have := spacing_pos n; omega)),
      Nat.div_mul_cancel unit]

/-- What a number rounds to is a multiple of a unit of which it takes 53 bits. -/
theorem roundNat_grained (n : Nat) :
    ∃ bits, bits ≤ n.log2 - 52 ∧ 2 ^ bits ∣ roundNat n ∧ roundNat n ≤ 2 ^ (bits + 53) := by
  by_cases small : n ≤ exactLimit
  · rw [roundNat_of_le small]
    exact ⟨0, Nat.zero_le _, Nat.one_dvd n, small⟩
  · have positive : n ≠ 0 := by
      unfold exactLimit at small
      omega
    have bits : 53 ≤ n.log2 := (Nat.le_log2 positive).mpr (Nat.le_of_lt (Nat.not_le.mp small))
    have below : n < 2 ^ (n.log2 - 52 + 53) := by
      rw [show n.log2 - 52 + 53 = n.log2 + 1 by omega]
      exact Nat.lt_log2_self
    have whole : n / spacing n < 2 ^ 53 := by
      apply (Nat.div_lt_iff_lt_mul (spacing_pos n)).mpr
      unfold spacing
      rwa [← Nat.pow_add, Nat.add_comm]
    refine ⟨n.log2 - 52, Nat.le_refl _, ?_, ?_⟩
    · unfold roundNat nearestMultiple
      rw [if_neg small]
      split
      · exact Nat.dvd_mul_left _ _
      · exact Nat.dvd_mul_left _ _
    · unfold roundNat nearestMultiple
      rw [if_neg small, Nat.pow_add, Nat.mul_comm (2 ^ (n.log2 - 52))]
      split
      · exact Nat.mul_le_mul_right _ (Nat.le_of_lt whole)
      · exact Nat.mul_le_mul_right _ whole

theorem round_nonpos_iff (value : Int) : round value ≤ 0 ↔ value ≤ 0 := by
  unfold round
  rcases Int.lt_trichotomy value 0 with negative | isZero | isPositive
  · rw [Int.sign_eq_neg_one_of_neg negative]
    omega
  · rw [isZero, Int.sign_zero, Int.zero_mul]
  · have rounded : roundNat value.natAbs ≠ 0 := (roundNat_eq_zero_iff _).not.mpr (by omega)
    rw [Int.sign_eq_one_of_pos isPositive]
    omega

theorem round_nonneg {value : Int} (nonneg : 0 ≤ value) : 0 ≤ round value :=
  Int.mul_nonneg (Int.sign_nonneg_iff.mpr nonneg) (Int.natCast_nonneg _)

/-- Past the exact numbers nothing rounds below them. -/
theorem exactLimit_le_roundNat {n : Nat} (large : exactLimit < n) : exactLimit ≤ roundNat n := by
  have bits : 53 ≤ n.log2 :=
    (Nat.le_log2 (Nat.ne_of_gt (Nat.zero_lt_of_lt large))).mpr (Nat.le_of_lt large)
  have whole : n / spacing n * spacing n ≤ nearestMultiple (spacing n) n := by
    unfold nearestMultiple
    split
    · exact Nat.le_refl _
    · exact Nat.mul_le_mul_right _ (Nat.le_succ _)
  have divides : spacing n ∣ exactLimit * 2 ^ (n.log2 - 53) := by
    refine ⟨2 ^ 52, ?_⟩
    unfold spacing exactLimit
    rw [← Nat.pow_add, ← Nat.pow_add]
    congr 1
    omega
  have reached : exactLimit * 2 ^ (n.log2 - 53) ≤ n := by
    calc exactLimit * 2 ^ (n.log2 - 53) = 2 ^ n.log2 := by
          rw [exactLimit, ← Nat.pow_add]
          congr 1
          omega
      _ ≤ n := Nat.log2_self_le (Nat.ne_of_gt (Nat.zero_lt_of_lt large))
  unfold roundNat
  rw [if_neg (Nat.not_le.mpr large)]
  calc exactLimit ≤ exactLimit * 2 ^ (n.log2 - 53) := Nat.le_mul_of_pos_right _ (Nat.two_pow_pos _)
    _ = exactLimit * 2 ^ (n.log2 - 53) / spacing n * spacing n := (Nat.div_mul_cancel divides).symm
    _ ≤ n / spacing n * spacing n := Nat.mul_le_mul_right _ (Nat.div_le_div_right reached)
    _ ≤ nearestMultiple (spacing n) n := whole

/-- A number that is exact compares with a rounded one as with the value itself. -/
theorem le_round_iff {amount : Nat} (positive : 0 < amount) (small : amount ≤ exactLimit)
    (value : Int) : (amount : Int) ≤ round value ↔ (amount : Int) ≤ value := by
  by_cases fits : value.natAbs ≤ exactLimit
  · rw [round_eq_self fits]
  · have large := exactLimit_le_roundNat (Nat.not_le.mp fits)
    unfold round
    rcases Int.lt_trichotomy value 0 with negative | isZero | isPositive
    · rw [Int.sign_eq_neg_one_of_neg negative]
      omega
    · rw [isZero] at fits
      exact absurd (Nat.zero_le _) fits
    · rw [Int.sign_eq_one_of_pos isPositive]
      omega

/-- Adding up is exact while the sum is represented exactly. -/
theorem addUp_eq {start : Int} {values : List Int} (started : 0 ≤ start)
    (nonneg : ∀ value ∈ values, 0 ≤ value) (small : start + values.sum ≤ exactLimit) :
    addUp start values = start + values.sum := by
  induction values generalizing start with
  | nil => exact (Int.add_zero start).symm
  | cons first rest ih =>
      have head : 0 ≤ first := nonneg first List.mem_cons_self
      have tail : ∀ value ∈ rest, 0 ≤ value :=
        fun value member => nonneg value (List.mem_cons_of_mem first member)
      have later : 0 ≤ rest.sum := List.sum_nonneg tail
      rw [List.sum_cons, ← Int.add_assoc] at small ⊢
      have converted : round first = first := round_eq_self (by omega)
      have added : round (start + first) = start + first := round_eq_self (by omega)
      change addUp (round (start + round first)) rest = _
      rw [converted, added]
      exact ih (Int.add_nonneg started head) tail small

theorem round_eq_zero_iff (value : Int) : round value = 0 ↔ value = 0 := by
  unfold round
  rw [Int.mul_eq_zero, Int.sign_eq_zero_iff_zero, Int.natCast_eq_zero, roundNat_eq_zero_iff,
    Int.natAbs_eq_zero, or_self]

theorem sub_eq_zero_iff (left right : Int) : sub left right = 0 ↔ left = right := by
  unfold sub
  rw [round_eq_zero_iff, Int.sub_eq_zero]

example : round (2 ^ 53 + 1) = 2 ^ 53 := by decide

/-! ### Quotients -/

/-- `significand / 2 ^ scale`. -/
structure Dyadic where
  significand : Nat
  scale : Nat

def Dyadic.floor (value : Dyadic) : Nat := value.significand / 2 ^ value.scale

def Dyadic.twice (value : Dyadic) : Dyadic :=
  { value with significand := 2 * value.significand }

/-- The whole number nearest to `n / divisor`; the even one of two equally near. -/
def nearestQuotient (n divisor : Nat) : Nat :=
  nearestMultiple divisor n / divisor

/-- The binary64 quotient of numbers up to `2 ^ 53`, where it is at least one: 53
bits, of which those above `scale` make up the whole part. -/
def quotient (n divisor : Nat) : Dyadic :=
  let scale := 52 - (n / divisor).log2
  { significand := nearestQuotient (n * 2 ^ scale) divisor
    scale := scale }

theorem nearestQuotient_cases {divisor : Nat} (positive : 0 < divisor) (n : Nat) :
    nearestQuotient n divisor = n / divisor ∨
      nearestQuotient n divisor = n / divisor + 1 ∧ divisor ≤ 2 * (n % divisor) := by
  unfold nearestQuotient nearestMultiple
  split
  · exact Or.inl (Nat.mul_div_cancel _ positive)
  · rename_i near
    refine Or.inr ⟨Nat.mul_div_cancel _ positive, ?_⟩
    omega

/-- A quotient just below a whole number does not round up to it: the distance
would have to be at most half of the last of its 53 bits. -/
theorem floor_quotient {n divisor : Nat} (positive : 0 < divisor) (reached : divisor ≤ n)
    (small : n < exactLimit) : (quotient n divisor).floor = n / divisor := by
  have whole : n / divisor ≠ 0 := (Nat.div_pos reached positive).ne'
  have bits : (n / divisor).log2 < 53 :=
    (Nat.log2_lt whole).mpr (lt_of_le_of_lt (Nat.div_le_self n divisor) small)
  obtain ⟨scale, isScale⟩ : ∃ scale, 52 - (n / divisor).log2 = scale := ⟨_, rfl⟩
  have unit : 0 < 2 ^ scale := Nat.two_pow_pos scale
  unfold quotient Dyadic.floor
  dsimp only
  rw [isScale]
  have exact : n * 2 ^ scale / divisor / 2 ^ scale = n / divisor := by
    rw [Nat.div_div_eq_div_mul, Nat.mul_comm divisor, Nat.mul_comm n,
      Nat.mul_div_mul_left _ _ unit]
  rcases nearestQuotient_cases positive (n * 2 ^ scale) with down | ⟨up, half⟩
  · rw [down, exact]
  · rw [up, Nat.succ_div, exact, if_neg, Nat.add_zero]
    rintro ⟨next, isNext⟩
    have remainder := Nat.mod_lt (n * 2 ^ scale) positive
    have parts := Nat.div_add_mod (n * 2 ^ scale) divisor
    -- The scaled quotient falls short of the next whole number by at least one unit.
    have gap : n * 2 ^ scale + divisor =
        divisor * next * 2 ^ scale + n * 2 ^ scale % divisor := by
      calc n * 2 ^ scale + divisor
          = divisor * (n * 2 ^ scale / divisor + 1) + n * 2 ^ scale % divisor := by
            rw [Nat.mul_add_one]
            omega
        _ = divisor * next * 2 ^ scale + n * 2 ^ scale % divisor := by
            rw [isNext, Nat.mul_comm (2 ^ scale), Nat.mul_assoc]
    have below : n < divisor * next := by
      by_contra reaches
      have least := Nat.mul_le_mul_right (2 ^ scale) (Nat.not_lt.mp reaches)
      omega
    have oneUnit := Nat.mul_le_mul_right (2 ^ scale) below
    rw [Nat.succ_mul] at oneUnit
    have large : 2 * 2 ^ scale ≤ divisor := by omega
    have limit : exactLimit ≤ n := by
      calc exactLimit = 2 * 2 ^ scale * 2 ^ (n / divisor).log2 := by
            rw [← Nat.pow_succ', ← Nat.pow_add, exactLimit]
            congr 1
            omega
        _ ≤ divisor * (n / divisor) := Nat.mul_le_mul large (Nat.log2_self_le whole)
        _ ≤ n := Nat.mul_div_le n divisor
    omega

/-- `Math.floor` of the binary64 quotient.  One below one rounds to at most one, and to one
only from numbers past `2 ^ 53`; at `2 ^ 53` and above the quotient is a multiple of its
spacing. -/
def floorQuotient (n divisor : Nat) : Nat :=
  let whole := n / divisor
  if whole = 0 then 0
  else if whole.log2 ≤ 52 then (quotient n divisor).floor
  else nearestQuotient n (divisor * spacing whole) * spacing whole

theorem floorQuotient_eq {n divisor : Nat} (positive : 0 < divisor) (small : n < exactLimit) :
    floorQuotient n divisor = n / divisor := by
  unfold floorQuotient
  dsimp only
  by_cases below : n / divisor = 0
  · rw [if_pos below, below]
  · have reached : divisor ≤ n := by
      by_contra short
      exact below (Nat.div_eq_of_lt (Nat.not_le.mp short))
    have bits : (n / divisor).log2 < 53 :=
      (Nat.log2_lt below).mpr (lt_of_le_of_lt (Nat.div_le_self n divisor) small)
    rw [if_neg below, if_pos (Nat.le_of_lt_succ bits), floor_quotient positive reached small]

end Soulzaa.Binary64
