/-
What a settled match pays: the pot less the rake, split evenly.

The service computes in doubles.  Stakes are capped so far below `2 ^ 53` that its numbers are the
whole numbers of `splitPot`.
-/

import Soulzaa.Games.Match
import Soulzaa.Lib.Binary64
import Soulzaa.Lib.Portions
import Soulzaa.Wallet.Store

namespace Soulzaa.Games

variable {total : Int} {winners : List UserId}

/-! ### An even split -/

theorem amounts_splitPot (total : Int) (winners : List UserId) :
    (splitPot total winners).map PayoutEntry.amount =
      Portions.evenShares total winners.length := by
  unfold splitPot Portions.evenShares
  dsimp only
  rw [List.map_map, List.range_eq_range', ← List.zipIdx_map_snd, List.map_map]
  rfl

theorem userIds_splitPot (total : Int) (winners : List UserId) :
    (splitPot total winners).map PayoutEntry.userId = winners := by
  unfold splitPot
  dsimp only
  rw [List.map_map]
  exact List.zipIdx_map_fst 0 winners

theorem payoutTotal_splitPot (nonempty : winners ≠ []) (total : Int) :
    payoutTotal (splitPot total winners) = total := by
  unfold payoutTotal
  rw [amounts_splitPot]
  exact Portions.sum_evenShares (List.length_pos_iff.mpr nonempty) total

theorem amount_of_splitPot {entry : PayoutEntry} (isEntry : entry ∈ splitPot total winners) :
    entry.amount = total / winners.length ∨ entry.amount = total / winners.length + 1 := by
  have isShare : entry.amount ∈ Portions.evenShares total winners.length := by
    rw [← amounts_splitPot]
    exact List.mem_map_of_mem isEntry
  exact Portions.mem_evenShares isShare

theorem distributable_spec {rakeBps : Nat} (rate : rakeBps ≤ 10000) (potAmount : Nat) :
    0 ≤ distributable potAmount rakeBps ∧ distributable potAmount rakeBps ≤ potAmount := by
  have cut : potAmount * rakeBps / 10000 ≤ potAmount := by
    refine Nat.div_le_of_le_mul ?_
    rw [Nat.mul_comm 10000]
    exact Nat.mul_le_mul_left potAmount rate
  unfold distributable
  omega

/-! ### What the validator accepts -/

theorem checkPayouts_accepts {participantIds seen : List UserId} {payouts : List PayoutEntry}
    (targets : ∀ entry ∈ payouts, entry.userId ∈ participantIds)
    (distinct : (payouts.map PayoutEntry.userId).Nodup)
    (unseen : ∀ entry ∈ payouts, entry.userId ∉ seen)
    (nonneg : ∀ entry ∈ payouts, 0 ≤ entry.amount) :
    checkPayouts participantIds seen payouts = .ok () := by
  induction payouts generalizing seen with
  | nil => rfl
  | cons first rest ih =>
      obtain ⟨isFirst, others⟩ := List.nodup_cons.mp distinct
      have later : checkPayouts participantIds (first.userId :: seen) rest = .ok () := by
        refine ih (fun entry member => targets entry (List.mem_cons_of_mem first member)) others
          (fun entry member => ?_)
          fun entry member => nonneg entry (List.mem_cons_of_mem first member)
        rw [List.mem_cons, not_or]
        refine ⟨fun same => isFirst ?_, unseen entry (List.mem_cons_of_mem first member)⟩
        rw [← same]
        exact List.mem_map_of_mem member
      rw [checkPayouts]
      simp only [bind_eq_ok, require_eq_ok]
      exact ⟨(), targets first List.mem_cons_self, (), unseen first List.mem_cons_self, (),
        nonneg first List.mem_cons_self, later⟩

/-! ### In doubles -/

def distributableNumber (potAmount rakeBps : Nat) : Int :=
  let pot := Binary64.roundNat potAmount
  Binary64.sub pot (Binary64.floorQuotient (Binary64.roundNat (pot * rakeBps)) 10000)

def splitPotNumber (total : Int) (winners : List UserId) : List PayoutEntry :=
  let base : Int := Binary64.floorQuotient total.toNat winners.length
  let remainder := Binary64.sub total (Binary64.round (base * winners.length))
  winners.zipIdx.map fun entry =>
    { userId := entry.1
      amount := Binary64.round (base + if (entry.2 : Int) < remainder then 1 else 0) }

def payoutTotalNumber (payouts : List PayoutEntry) : Int :=
  Binary64.addUp 0 (payouts.map PayoutEntry.amount)

/-- What the match result records, of the pot that is not paid out. -/
def rakeAmountNumber (potAmount : Nat) (payouts : List PayoutEntry) : Int :=
  Binary64.sub (Binary64.roundNat potAmount) (payoutTotalNumber payouts)

def rakeAmount (potAmount : Nat) (payouts : List PayoutEntry) : Int :=
  potAmount - payoutTotal payouts

theorem sub_eq {left right : Int} (small : (left - right).natAbs ≤ Binary64.exactLimit) :
    Binary64.sub left right = left - right :=
  Binary64.round_eq_self small

section Exact

variable {potAmount rakeBps : Nat}

theorem distributableNumber_eq (rate : rakeBps ≤ 10000)
    (small : potAmount * 10000 < Binary64.exactLimit) :
    distributableNumber potAmount rakeBps = distributable potAmount rakeBps := by
  obtain ⟨nonneg, atMost⟩ := distributable_spec rate potAmount
  have cut : potAmount * rakeBps ≤ potAmount * 10000 := Nat.mul_le_mul_left potAmount rate
  have exactPot : Binary64.roundNat potAmount = potAmount := Binary64.roundNat_of_le (by omega)
  have exactCut : Binary64.roundNat (potAmount * rakeBps) = potAmount * rakeBps :=
    Binary64.roundNat_of_le (by omega)
  unfold distributableNumber
  dsimp only
  rw [exactPot, exactCut, Binary64.floorQuotient_eq (by decide) (by omega)]
  exact sub_eq (by unfold distributable at nonneg atMost; omega)

theorem splitPotNumber_eq (nonempty : winners ≠ []) (nonneg : 0 ≤ total)
    (small : total < Binary64.exactLimit) : splitPotNumber total winners = splitPot total winners := by
  have positive : 0 < winners.length := List.length_pos_iff.mpr nonempty
  have whole : ((total.toNat / winners.length : Nat) : Int) = total / winners.length := by
    rw [Int.natCast_ediv, Int.toNat_of_nonneg nonneg]
  have base : ((Binary64.floorQuotient total.toNat winners.length : Nat) : Int) =
      total / winners.length := by
    rw [Binary64.floorQuotient_eq positive (by omega), whole]
  obtain ⟨atLeast, below⟩ := Portions.remains_spec positive total
  have baseNonneg : 0 ≤ total / (winners.length : Int) := by
    rw [← whole]
    exact Int.natCast_nonneg _
  have baseLe : total / (winners.length : Int) ≤ total := Int.ediv_le_self _ nonneg
  have productNonneg : 0 ≤ total / winners.length * (winners.length : Int) :=
    Int.mul_nonneg baseNonneg (Int.natCast_nonneg _)
  unfold splitPotNumber splitPot
  dsimp only
  rw [base, Binary64.round_eq_self (by omega), sub_eq (by omega)]
  refine List.map_congr_left fun entry _ => ?_
  congr 1
  refine Binary64.round_eq_self ?_
  split <;> omega

theorem payoutTotalNumber_eq {payouts : List PayoutEntry}
    (nonneg : ∀ entry ∈ payouts, 0 ≤ entry.amount)
    (small : payoutTotal payouts ≤ Binary64.exactLimit) :
    payoutTotalNumber payouts = payoutTotal payouts := by
  unfold payoutTotalNumber payoutTotal at *
  rw [Binary64.addUp_eq (Int.le_refl 0) ?_ ((Int.zero_add _).trans_le small), Int.zero_add]
  intro amount isAmount
  obtain ⟨entry, isEntry, rfl⟩ := List.mem_map.mp isAmount
  exact nonneg entry isEntry

end Exact

/-! ### The settlement of human winners -/

/-- A winner whose rows are a human's. -/
def IsHuman (participants : List GameParticipant) (userId : UserId) : Prop :=
  userId ∈ userIds participants ∧
    ∀ participant ∈ participants, participant.userId = userId → participant.isBot = false

/-- What is paid to the winners of a pot, and what is recorded beside it. -/
structure PaysOut (participants : List GameParticipant) (potAmount rakeBps : Nat)
    (winners : List UserId) (input : SettleResultInput) : Prop where
  named : input.winners = winners
  paid : input.payouts.map PayoutEntry.userId = winners
  nonneg : ∀ entry ∈ input.payouts, 0 ≤ entry.amount
  even : ∀ one ∈ input.payouts, ∀ two ∈ input.payouts, one.amount ≤ two.amount + 1
  rake : rakeAmount potAmount input.payouts = (potAmount * rakeBps / 10000 : Nat)
  whole : payoutTotal input.payouts + rakeAmount potAmount input.payouts = potAmount
  accepted : validateSettlement potAmount participants input = .ok ()
  /-- The doubles of the service are these whole numbers. -/
  numbers : potAmount * 10000 < Binary64.exactLimit →
    splitPotNumber (distributableNumber potAmount rakeBps) winners = input.payouts ∧
      payoutTotalNumber input.payouts = payoutTotal input.payouts ∧
        rakeAmountNumber potAmount input.payouts = rakeAmount potAmount input.payouts

theorem humanWinners_eq {participants : List GameParticipant}
    (humans : ∀ winner ∈ winners, IsHuman participants winner) :
    (winners.filter fun winner =>
      winner ∉ userIds (participants.filter GameParticipant.isBot)) = winners := by
  refine List.filter_eq_self.mpr fun winner isWinner => decide_eq_true fun isBots => ?_
  obtain ⟨participant, isBot, isIts⟩ := List.mem_map.mp isBots
  obtain ⟨isThere, bot⟩ := List.mem_filter.mp isBot
  rw [(humans winner isWinner).2 participant isThere isIts] at bot
  cases bot

/-- Human winners of any pot that reconciles are paid evenly, to the last coin. -/
theorem paysOut_of_humanWinners (stake potAmount rakeBps : Nat)
    (participants : List GameParticipant) (winners : List UserId)
    (reconciles : stakeSum participants = potAmount) (rate : rakeBps ≤ 10000)
    (nonempty : winners ≠ []) (distinct : winners.Nodup)
    (humans : ∀ winner ∈ winners, IsHuman participants winner) :
    ∃ input, settleToHumanWinners stake potAmount participants rakeBps winners = .settle input ∧
      PaysOut participants potAmount rakeBps winners input := by
  obtain ⟨nonneg, atMost⟩ := distributable_spec rate potAmount
  have paid := payoutTotal_splitPot nonempty (distributable potAmount rakeBps)
  have baseNonneg : 0 ≤ distributable potAmount rakeBps / (winners.length : Int) :=
    Int.ediv_nonneg nonneg (Int.natCast_nonneg _)
  have amounts : ∀ entry ∈ splitPot (distributable potAmount rakeBps) winners,
      0 ≤ entry.amount := by
    intro entry isEntry
    rcases amount_of_splitPot isEntry with isBase | isMore <;> omega
  have targets := userIds_splitPot (distributable potAmount rakeBps) winners
  refine ⟨{ winners := winners
            payouts := splitPot (distributable potAmount rakeBps) winners }, ?_, ?_⟩
  · unfold settleToHumanWinners
    dsimp only
    rw [humanWinners_eq humans, if_neg nonempty]
  · refine ⟨rfl, targets, amounts, ?_, ?_, ?_, ?_, fun small => ⟨?_, ?_, ?_⟩⟩
    · intro one isOne two isTwo
      rcases amount_of_splitPot isOne with first | first <;>
        rcases amount_of_splitPot isTwo with second | second <;> omega
    · unfold rakeAmount
      rw [paid]
      unfold distributable
      omega
    · unfold rakeAmount
      omega
    · unfold validateSettlement
      simp only [bind_eq_ok, require_eq_ok]
      refine ⟨(), fun winner isWinner => (humans winner isWinner).1, (), ?_, (), ?_, reconciles⟩
      · refine checkPayouts_accepts (fun entry isEntry => ?_) (targets.symm ▸ distinct)
          (fun _ _ => List.not_mem_nil) amounts
        have isWinner : entry.userId ∈ winners := targets ▸ List.mem_map_of_mem isEntry
        exact (humans _ isWinner).1
      · exact paid.trans_le atMost
    · rw [distributableNumber_eq rate small]
      exact splitPotNumber_eq nonempty nonneg (by omega)
    · exact payoutTotalNumber_eq amounts (by rw [paid]; omega)
    · unfold rakeAmountNumber rakeAmount
      rw [payoutTotalNumber_eq amounts (by rw [paid]; omega), paid,
        Binary64.roundNat_of_le (by omega)]
      exact sub_eq (by omega)

/-- Ann and Bob of a side of two share a pot of 101 at a rake of five percent. -/
def stakedSeats : List GameParticipant :=
  [{ userId := "ann", seat := 0, team := none, isBot := false, stake := 34 },
    { userId := "bob", seat := 1, team := none, isBot := false, stake := 34 },
    { userId := "cas", seat := 2, team := none, isBot := false, stake := 33 }]

theorem paysOut_stakedSeats :
    ∃ input, settleToHumanWinners 34 101 stakedSeats 500 ["bob", "ann"] = .settle input ∧
      PaysOut stakedSeats 101 500 ["bob", "ann"] input :=
  paysOut_of_humanWinners 34 101 500 stakedSeats ["bob", "ann"] (by decide) (by decide) (by decide)
    (by decide) (by
      intro winner isWinner
      rcases List.mem_pair.mp isWinner with rfl | rfl
      · exact ⟨by decide, by decide⟩
      · exact ⟨by decide, by decide⟩)

end Soulzaa.Games
