/-
The share of one claimant.  A share leaves at least one coin for every other open
slot, and the last slot takes what is left.
-/

import Mathlib.Tactic.Linarith
import Mathlib.Tactic.Ring
import Soulzaa.Lib.Binary64

namespace Soulzaa.LuckyPackets

inductive LuckyPacketDistribution where
  | random
  | fixed
  deriving DecidableEq, Repr

/-- `randomInt`: a whole number from `least` up to but not including `bound`. -/
def randomInt (least bound : Int) (draw : Nat) : Int := least + draw % (bound - least)

structure ClaimAmountInput where
  distribution : LuckyPacketDistribution
  totalCoins : Int
  winnerCount : Int
  remainingCoins : Int
  remainingSlots : Int
  deriving DecidableEq, Repr

/-- No number that is divided is negative. -/
def floorQuotient (value divisor : Int) : Int :=
  (Binary64.quotient value.toNat divisor.toNat).floor

def floorTwiceQuotient (value divisor : Int) : Int :=
  (Binary64.quotient value.toNat divisor.toNat).twice.floor

def computeClaimAmount (input : ClaimAmountInput) (draw : Nat) : Int :=
  if input.remainingSlots ≤ 1 then input.remainingCoins
  else
    match input.distribution with
    | .fixed =>
        let base := floorQuotient input.totalCoins input.winnerCount
        let remainder := input.totalCoins - base * input.winnerCount
        let slotIndex := input.winnerCount - input.remainingSlots
        base + if slotIndex < remainder then 1 else 0
    | .random =>
        let reserveCap := input.remainingCoins - (input.remainingSlots - 1)
        let doubleAverage := max 1 (floorTwiceQuotient input.remainingCoins input.remainingSlots)
        let upper := max 1 (min reserveCap doubleAverage)
        randomInt 1 (upper + 1) draw

/-- What the open slots of a FIXED packet are worth. -/
def fixedRest (totalCoins winnerCount slots : Int) : Int :=
  totalCoins / winnerCount * slots + max 0 (totalCoins % winnerCount - (winnerCount - slots))

/-- What is left of a packet with open slots covers them. -/
structure Covered (input : ClaimAmountInput) : Prop where
  enough : input.winnerCount ≤ input.totalCoins
  isOpen : 1 ≤ input.remainingSlots
  slots : input.remainingSlots ≤ input.winnerCount
  covers : input.remainingSlots ≤ input.remainingCoins
  within : input.remainingCoins ≤ input.totalCoins
  exact : input.totalCoins < Binary64.exactLimit
  rest : input.distribution = .fixed →
    input.remainingCoins = fixedRest input.totalCoins input.winnerCount input.remainingSlots

def ClaimAmountInput.claimed (input : ClaimAmountInput) (amount : Int) : ClaimAmountInput :=
  { input with
    remainingCoins := input.remainingCoins - amount
    remainingSlots := input.remainingSlots - 1 }

theorem floorQuotient_eq {value divisor : Int} (positive : 0 < divisor) (reached : divisor ≤ value)
    (small : value < Binary64.exactLimit) : floorQuotient value divisor = value / divisor := by
  unfold floorQuotient
  rw [Binary64.floor_quotient (by omega) (by omega) (by omega)]
  rw [Int.natCast_ediv, Int.toNat_of_nonneg (by omega), Int.toNat_of_nonneg (by omega)]

theorem randomInt_mem {least bound : Int} (nonempty : least < bound) (draw : Nat) :
    least ≤ randomInt least bound draw ∧ randomInt least bound draw < bound := by
  unfold randomInt
  have lower := Int.emod_nonneg draw (show bound - least ≠ 0 by omega)
  have upper := Int.emod_lt_of_pos draw (show 0 < bound - least by omega)
  omega

section Share

variable {input : ClaimAmountInput}

theorem computeClaimAmount_last (isLast : input.remainingSlots ≤ 1) (draw : Nat) :
    computeClaimAmount input draw = input.remainingCoins :=
  if_pos isLast

theorem computeClaimAmount_fixed (covered : Covered input) (more : 1 < input.remainingSlots)
    (fixed : input.distribution = .fixed) (draw : Nat) :
    computeClaimAmount input draw =
      input.totalCoins / input.winnerCount +
        if input.winnerCount - input.remainingSlots < input.totalCoins % input.winnerCount then 1
        else 0 := by
  have base : floorQuotient input.totalCoins input.winnerCount =
      input.totalCoins / input.winnerCount := by
    have slots := covered.slots
    exact floorQuotient_eq (by omega) covered.enough covered.exact
  unfold computeClaimAmount
  rw [if_neg (Int.not_le.mpr more), fixed]
  dsimp only
  rw [base, Int.emod_def, Int.mul_comm input.winnerCount]

variable (covered : Covered input)
include covered

theorem covered_of_random (more : 1 < input.remainingSlots)
    (random : input.distribution = .random) (draw : Nat) :
    1 ≤ computeClaimAmount input draw ∧
      Covered (input.claimed (computeClaimAmount input draw)) := by
  obtain ⟨enough, _, slots, covers, within, exact, _⟩ := covered
  have least : 1 ≤ computeClaimAmount input draw ∧
      computeClaimAmount input draw ≤ input.remainingCoins - (input.remainingSlots - 1) := by
    unfold computeClaimAmount
    rw [if_neg (by omega), random]
    dsimp only
    generalize max 1 (floorTwiceQuotient input.remainingCoins input.remainingSlots) =
      doubleAverage
    have nonempty : 1 < max 1
        (min (input.remainingCoins - (input.remainingSlots - 1)) doubleAverage) + 1 := by
      omega
    have drawn := randomInt_mem nonempty draw
    omega
  refine ⟨least.1, ?_⟩
  constructor <;> dsimp only [ClaimAmountInput.claimed]
  · exact enough
  · omega
  · omega
  · omega
  · omega
  · exact exact
  · intro fixed
    rw [random] at fixed
    cases fixed

theorem covered_of_fixed (more : 1 < input.remainingSlots)
    (fixed : input.distribution = .fixed) (draw : Nat) :
    1 ≤ computeClaimAmount input draw ∧
      Covered (input.claimed (computeClaimAmount input draw)) := by
  have amount := computeClaimAmount_fixed covered more fixed draw
  obtain ⟨enough, _, slots, covers, within, exact, rest⟩ := covered
  have left := rest fixed
  have base : 1 ≤ input.totalCoins / input.winnerCount :=
    Int.le_ediv_of_mul_le (by omega) (by omega)
  have later : input.remainingSlots - 1 ≤
      input.totalCoins / input.winnerCount * (input.remainingSlots - 1) :=
    le_mul_of_one_le_left (by omega) base
  unfold fixedRest at left
  rw [Int.mul_sub, Int.mul_one] at later
  have next : input.remainingCoins - computeClaimAmount input draw =
      fixedRest input.totalCoins input.winnerCount (input.remainingSlots - 1) := by
    unfold fixedRest
    rw [Int.mul_sub, Int.mul_one, amount, left]
    split <;> omega
  have positive : 1 ≤ computeClaimAmount input draw := by
    rw [amount]
    split <;> omega
  refine ⟨positive, ?_⟩
  constructor <;> dsimp only [ClaimAmountInput.claimed]
  · exact enough
  · omega
  · omega
  · rw [next]
    unfold fixedRest
    rw [Int.mul_sub, Int.mul_one]
    omega
  · omega
  · exact exact
  · intro _
    exact next

/-- A claim with other slots open is worth a coin at least, and leaves them covered. -/
theorem covered_of_claim (more : 1 < input.remainingSlots) (draw : Nat) :
    1 ≤ computeClaimAmount input draw ∧
      Covered (input.claimed (computeClaimAmount input draw)) := by
  cases isDistribution : input.distribution with
  | random => exact covered_of_random covered more isDistribution draw
  | fixed => exact covered_of_fixed covered more isDistribution draw

end Share

/-- A new packet is covered. -/
theorem covered_of_opening (distribution : LuckyPacketDistribution) {totalCoins winnerCount : Int}
    (winners : 1 ≤ winnerCount) (enough : winnerCount ≤ totalCoins)
    (exact : totalCoins < Binary64.exactLimit) :
    Covered
      { distribution := distribution
        totalCoins := totalCoins
        winnerCount := winnerCount
        remainingCoins := totalCoins
        remainingSlots := winnerCount } where
  enough := enough
  isOpen := winners
  slots := le_refl winnerCount
  covers := enough
  within := le_refl totalCoins
  exact := exact
  rest := by
    intro _
    have rest := Int.emod_nonneg totalCoins (show winnerCount ≠ 0 by omega)
    have parts := Int.mul_ediv_add_emod totalCoins winnerCount
    dsimp only [fixedRest]
    rw [Int.mul_comm (totalCoins / winnerCount)]
    omega

end Soulzaa.LuckyPackets
