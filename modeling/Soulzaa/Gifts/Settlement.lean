/-
Gifts: the catalog row, the settlement rules and the amounts of one send.

Coin values are binary64 numbers.  A percentage is one too, so its denominator is a power
of two; the columns that record it take whole numbers only.
-/

import Mathlib.Data.Rat.Lemmas
import Soulzaa.Lib.Binary64
import Soulzaa.Wallet.Movement

namespace Soulzaa.Gifts

abbrev GiftId := String
abbrev ContextId := String

inductive GiftType where
  | static
  | animated
  | combo
  | lucky
  | festival
  | premium
  | limitedEdition
  | profileFrame
  deriving DecidableEq, Repr

inductive GiftContextType where
  | audioRoom
  | videoRoom
  | liveStream
  | privateChat
  | pkBattle
  | multiHostBattle
  | event
  | game
  deriving DecidableEq, Repr

structure Gift where
  id : GiftId
  name : String
  type : GiftType := .static
  coinValue : Int
  enabled : Bool := true
  minVipLevel : Nat := 0
  comboEnabled : Bool := false
  luckyMultipliers : List Int := []
  /-- Basis points. -/
  luckyWinChanceBp : Int := 0
  deriving DecidableEq, Repr

/-! ### The lucky multiplier -/

structure Lucky where
  multiplier : Int
  win : Bool
  deriving DecidableEq, Repr

/-- `roll` and `pick` are the two random draws. -/
def rollLucky (gift : Gift) (roll : Int) (pick : Nat) : Lucky :=
  if gift.type ≠ .lucky ∨ gift.luckyMultipliers.length = 0 ∨ gift.luckyWinChanceBp ≤ 0 then
    { multiplier := 1
      win := false }
  else if roll < gift.luckyWinChanceBp then
    { multiplier := max 1 (gift.luckyMultipliers.getD pick 1)
      win := true }
  else
    { multiplier := 1
      win := false }

/-! ### The settlement rules -/

def IsPercentage (percent : Rat) : Prop := 0 ≤ percent ∧ percent ≤ 100

structure SettlementRules where
  earningsPercent : Rat
  cashbackPercent : Rat
  cashbackThreshold : Rat
  earnings : IsPercentage earningsPercent
  cashback : IsPercentage cashbackPercent

/-- The stored settings; a missing one, or one that is no number, is `none`. -/
structure SettlementSettings where
  earnings : Option Rat := none
  cashback : Option Rat := none
  threshold : Option Rat := none
  earningsInRange : ∀ percent ∈ earnings, IsPercentage percent := by
    intro percent stored
    cases stored
  cashbackInRange : ∀ percent ∈ cashback, IsPercentage percent := by
    intro percent stored
    cases stored

def SettlementSettings.unset : SettlementSettings := {}

def earningsPercent : Option Rat → Rat
  | some stored => if 0 < stored then stored else 50
  | none => 50

theorem isPercentage_earningsPercent {stored : Option Rat}
    (inRange : ∀ percent ∈ stored, IsPercentage percent) :
    IsPercentage (earningsPercent stored) := by
  have default : IsPercentage 50 := ⟨by decide, by decide⟩
  cases stored with
  | none => exact default
  | some percent =>
      unfold earningsPercent
      dsimp only
      split
      · exact inRange percent rfl
      · exact default

theorem isPercentage_getD {stored : Option Rat}
    (inRange : ∀ percent ∈ stored, IsPercentage percent) : IsPercentage (stored.getD 10) := by
  cases stored with
  | none => exact ⟨by decide, by decide⟩
  | some percent => exact inRange percent rfl

def settlementRules (settings : SettlementSettings) : SettlementRules :=
  { earningsPercent := earningsPercent settings.earnings
    cashbackPercent := settings.cashback.getD 10
    cashbackThreshold := settings.threshold.getD 1000
    earnings := isPercentage_earningsPercent settings.earningsInRange
    cashback := isPercentage_getD settings.cashbackInRange }

/-- `Math.floor((value * percent) / 100)`: the product is rounded, then the quotient. -/
def share (value : Int) (percent : Rat) : Int :=
  Binary64.floorQuotient (Binary64.roundNat (value.toNat * percent.num.toNat)) (100 * percent.den)

def earningsNum (rules : SettlementRules) (originalGiftValue : Int) : Int :=
  if rules.earningsPercent = 100 then originalGiftValue
  else share originalGiftValue rules.earningsPercent

def availableBalanceCredited (rules : SettlementRules) (originalGiftValue : Int) : Int :=
  if rules.cashbackThreshold ≤ originalGiftValue then
    share originalGiftValue rules.cashbackPercent
  else 0

theorem share_nonneg (value : Int) (percent : Rat) : 0 ≤ share value percent :=
  Int.natCast_nonneg _

/-! ### The amounts -/

/-- What one send amounts to, as `sendGiftBatch` computes it before the transaction. -/
structure Amounts where
  /-- The coin worth for each receiver, a big integer. -/
  perReceiver : Int
  perReceiverNum : Int
  totalNum : Int
  earningsNum : Int
  availableBalanceCredited : Int
  deriving DecidableEq, Repr

def amounts (gift : Gift) (quantity multiplier : Int) (rules : SettlementRules)
    (receivers : Nat) : Amounts :=
  let perReceiver := gift.coinValue * quantity * multiplier
  let perReceiverNum := toNumber perReceiver
  { perReceiver := perReceiver
    perReceiverNum := perReceiverNum
    totalNum := toNumber (perReceiverNum * receivers)
    earningsNum := earningsNum rules perReceiverNum
    availableBalanceCredited := availableBalanceCredited rules perReceiverNum }

/-- The number debited is the sum of the values recorded. -/
def Amounts.Exact (amounts : Amounts) (receivers : Nat) : Prop :=
  amounts.totalNum = amounts.perReceiver * receivers

instance (amounts : Amounts) (receivers : Nat) : Decidable (amounts.Exact receivers) :=
  inferInstanceAs (Decidable (_ = _))

/-! ### The rows -/

structure GiftTransaction where
  id : Nat
  senderId : UserId
  receiverId : UserId
  giftId : GiftId
  giftType : GiftType
  contextType : GiftContextType
  contextId : ContextId
  quantity : Int
  comboTier : Nat
  unitCoinValue : Int
  totalCoinValue : Int
  creatorEarnings : Int
  cashbackAmount : Int
  appliedEarningsPct : Int
  appliedCashbackPct : Int
  luckyMultiplier : Int
  isLuckyWin : Bool
  idempotencyKey : String
  senderWalletTxnId : Option TransactionId
  receiverWalletTxnId : Option TransactionId
  deriving DecidableEq, Repr

end Soulzaa.Gifts
