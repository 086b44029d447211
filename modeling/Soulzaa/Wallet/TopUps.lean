/-
When a credit of WalletService goes through.

Debits and credits share the guard that a balance does not go below zero.  A reversal is not
guarded, and may have taken the balance below it before.
-/

import Soulzaa.Wallet.Operation

namespace Soulzaa

namespace WalletService

/-- The credit is answered, and raises its currency's column by exactly the amount. -/
def Credited (platform : Platform) (db : Db) (input : WalletMovementInput) : Prop :=
  ∃ after result, credit platform db input = (after, .ok result) ∧
    (after.row input.userId).balance input.currency =
      (db.row input.userId).balance input.currency + input.amount

theorem balance_movedWallet (input : ApplyMovementInput) (wallet : Wallet) :
    (WalletRepository.movedWallet input wallet).balance input.currency =
      wallet.balance input.currency + input.type.signed input.amount := by
  have written : ∀ currency, (WalletRepository.movedWallet input wallet).balance currency =
      (wallet.setBalance input.currency (WalletRepository.balanceAfter wallet input)).balance
        currency := by
    intro currency
    cases currency <;> rfl
  rw [written, Wallet.balance_setBalance, if_pos rfl]
  rfl

/-- A movement that posts writes its owner's row. -/
theorem balance_of_posts {platform : Platform} {db : Db} {type : WalletEntryType}
    {input : WalletMovementInput} (posts : Posts platform db type input) :
    ((move platform db type input).1.row input.userId).balance input.currency =
      (db.row input.userId).balance input.currency + type.signed input.amount := by
  have wrote := WalletRepository.posted_wrote db (movementInput type input) posts.2.2.2
  have written : (WalletRepository.posted db (movementInput type input) posts.2.2.2).row
      input.userId =
        WalletRepository.movedWallet (movementInput type input) (db.row input.userId) :=
    (wrote.row input.userId).trans (onlyRow_self input.userId _ _)
  rw [move_of_posts posts, written]
  exact balance_movedWallet (movementInput type input) (db.row input.userId)

theorem credited_iff_lifts (platform : Platform) (db : Db) (input : WalletMovementInput)
    (active : (db.row input.userId).status = .active) (positive : 0 < input.amount) :
    Credited platform db input ↔
      0 ≤ (db.row input.userId).balance input.currency + input.amount ∧
        db.transactions.Absent input.idempotencyKey := by
  constructor
  · rintro ⟨after, result, credited, raised⟩
    have posts : Posts platform db .credit input := by
      by_contra unposted
      have unmoved := move_of_not_posts unposted
      rw [show move platform db .credit input = _ from credited] at unmoved
      dsimp only at unmoved
      rw [unmoved] at raised
      omega
    exact ⟨posts.2.2.1, posts.2.2.2⟩
  · rintro ⟨funded, absent⟩
    have posts : Posts platform db .credit input :=
      ⟨⟨positive, fun isDebit => nomatch isDebit⟩, active, funded, absent⟩
    obtain ⟨after, result, moved⟩ := answered_iff.mpr ⟨posts.1, Or.inl posts.2⟩
    refine ⟨after, result, moved, ?_⟩
    have raised := balance_of_posts posts
    rw [moved] at raised
    exact raised

end WalletService

/-- 250 coins are bought, 240 are bet, and the purchase is taken back. -/
def clawedBack : Db :=
  Runs.run step Db.empty
    [.ofOperation (.move .credit
      { userId := "alice"
        currency := .gold
        amount := 250
        reason := .recharge
        idempotencyKey := "k1" }),
    .ofOperation (.move .debit
      { userId := "alice"
        currency := .gold
        amount := 240
        reason := .casinoBet
        idempotencyKey := "k2" }),
    .ofOperation (.wallet .reverseWallet
      { userId := "alice"
        amount := 250
        currency := some .gold
        reason := some .purchaseReversal
        idempotencyKey := "k3" } none)]

def topUp (amount : Int) : WalletMovementInput :=
  { userId := "alice"
    currency := .gold
    amount := amount
    reason := .recharge
    idempotencyKey := "k4" }

namespace WalletService

theorem credited_iff_lifts_topUp :
    (clawedBack.row "alice").status = .active ∧
      (Credited Platform.normal clawedBack (topUp 300) ↔
        0 ≤ (clawedBack.row "alice").balance .gold + 300 ∧
          clawedBack.transactions.Absent "k4") :=
  ⟨by decide +kernel,
    credited_iff_lifts Platform.normal clawedBack (topUp 300) (by decide +kernel) (by decide)⟩

theorem not_credited_topUp :
    (clawedBack.row "alice").status = .active ∧ (clawedBack.row "alice").balance .gold = -240 ∧
      ¬Credited Platform.normal clawedBack (topUp 100) := by
  refine ⟨by decide +kernel, by decide +kernel, ?_⟩
  rintro ⟨after, result, credited, -⟩
  have refused : (credit Platform.normal clawedBack (topUp 100)).2 =
      .error (.business .insufficientBalance "Insufficient balance for this transaction."
        .conflict) := by
    decide +kernel
  rw [credited] at refused
  cases refused

end WalletService

end Soulzaa
