/-
The checks of WalletValidationService, and the exact state each one passes in.
-/

import Soulzaa.Wallet.Store

namespace Soulzaa

/-- What the economy and feature-flag services answer while a call runs. -/
structure Platform where
  economyFrozen : Bool
  walletEnabled : Bool
  deriving DecidableEq, Repr

def Platform.Open (platform : Platform) : Prop :=
  platform.economyFrozen = false ∧ platform.walletEnabled = true

instance (platform : Platform) : Decidable platform.Open :=
  inferInstanceAs (Decidable (_ ∧ _))

def Platform.normal : Platform :=
  { economyFrozen := false
    walletEnabled := true }

namespace WalletValidationService

def validateEconomyStatus (platform : Platform) : Except Failure Unit :=
  if platform.economyFrozen then
    .error (.forbidden
      "Wallet operations are currently suspended due to Emergency Economy Freeze")
  else if platform.walletEnabled then
    .ok ()
  else
    .error (.forbidden "Wallet feature is currently disabled by platform configuration")

def validateWalletActive (wallet : Wallet) : Except Failure Unit :=
  if wallet.status = .active then
    .ok ()
  else
    .error (.forbidden
      s!"Wallet '{wallet.userId}' is currently {wallet.status.name} and cannot process operations")

def checkedBalance (wallet : Wallet) : Option WalletCurrency → Int
  | some .gold => wallet.goldBalance
  | some .game => wallet.gameBalance
  | some .diamond => wallet.diamondBalance
  | _ => wallet.availableBalance

def balanceLabel : Option WalletCurrency → String
  | some currency => s!"{currency.name} "
  | none => "available "

def validateSufficientBalance (wallet : Wallet) (requiredAmount : Int)
    (currency : Option WalletCurrency) : Except Failure Unit :=
  let balance := checkedBalance wallet currency
  if balance < requiredAmount then
    let label := balanceLabel currency
    .error (.badRequest
      s!"Insufficient {label}balance. Required: {requiredAmount}, Available: {balance}")
  else
    .ok ()

def validatePositiveAmount (amount : Int) : Except Failure Unit :=
  if amount ≤ 0 then
    .error (.badRequest "Transaction amount must be strictly greater than 0")
  else
    .ok ()

theorem validateEconomyStatus_ok_iff (platform : Platform) :
    validateEconomyStatus platform = .ok () ↔ platform.Open := by
  unfold validateEconomyStatus Platform.Open
  rcases platform with ⟨frozen, enabled⟩
  cases frozen <;> cases enabled <;> simp

theorem validateWalletActive_ok_iff (wallet : Wallet) :
    validateWalletActive wallet = .ok () ↔ wallet.status = .active := by
  unfold validateWalletActive
  split <;> simp [*]

theorem validateSufficientBalance_ok_iff (wallet : Wallet) (requiredAmount : Int)
    (currency : Option WalletCurrency) :
    validateSufficientBalance wallet requiredAmount currency = .ok () ↔
      requiredAmount ≤ checkedBalance wallet currency := by
  unfold validateSufficientBalance
  by_cases short : checkedBalance wallet currency < requiredAmount
  · simp only [short, if_true, reduceCtorEq, false_iff]
    omega
  · simp only [short, if_false, true_iff]
    omega

theorem validatePositiveAmount_ok_iff (amount : Int) :
    validatePositiveAmount amount = .ok () ↔ 0 < amount := by
  unfold validatePositiveAmount
  by_cases positive : 0 < amount
  · simp [positive, Int.not_le.mpr positive]
  · simp [positive, Int.not_lt.mp positive]

end WalletValidationService

end Soulzaa
