/-
The two reconcilers, compared.

BalanceService adds the ledger of all currencies into one number and compares it
with the GOLD-only aggregate; WalletReconciliationService compares currency by
currency.  On wallets that only credits and debits have touched the aggregate is
goldBalance, which leaves a sum over the ledger to decide the first.
-/

import Soulzaa.Wallet.Aggregate
import Soulzaa.Wallet.Reconciliation

namespace Soulzaa

open WalletTransactionService

namespace BalanceService

structure ReconciliationResult where
  walletId : UserId
  cachedAvailableBalance : String
  derivedNetBalance : String
  derivedCreditSum : String
  derivedDebitSum : String
  isReconciled : Bool
  totalLedgerEntries : Nat
  deriving DecidableEq, Repr

def addEntry (sums : Int × Int) (entry : LedgerEntry) : Int × Int :=
  match entry.type with
  | .credit => (sums.1 + entry.amount, sums.2)
  | .debit => (sums.1, sums.2 + entry.amount)

def reconcileBalanceWithLedger (db : Db) (walletId : UserId) :
    Except Failure ReconciliationResult :=
  match WalletService.getWalletById db walletId with
  | .error failure => .error failure
  | .ok wallet =>
      let ledgerEntries := db.ledger.filter fun entry => entry.walletId = walletId
      let (derivedCreditSum, derivedDebitSum) := ledgerEntries.foldl addEntry (0, 0)
      let derivedNetBalance := derivedCreditSum - derivedDebitSum
      let currentCachedAvailable := wallet.availableBalance
      .ok
        { walletId := walletId
          cachedAvailableBalance := toString currentCachedAvailable
          derivedNetBalance := toString derivedNetBalance
          derivedCreditSum := toString derivedCreditSum
          derivedDebitSum := toString derivedDebitSum
          isReconciled := derivedNetBalance = currentCachedAvailable
          totalLedgerEntries := ledgerEntries.length }

end BalanceService

open BalanceService WalletReconciliationService

def ReconcilersAgree (db : Db) (walletId : UserId) : Prop :=
  ∀ result, reconcileBalanceWithLedger db walletId = .ok result →
    (result.isReconciled = true ↔
      ∀ entry ∈ (reconcileUser db walletId).perCurrency, entry.drift = 0)

/-! ### The sum over all currencies -/

def walletNet (ledger : List LedgerEntry) (walletId : UserId) : Int :=
  (WalletCurrency.all.map fun currency => ledgerNet ledger walletId currency).sum

theorem walletNet_cons (entry : LedgerEntry) (rest : List LedgerEntry) (walletId : UserId) :
    walletNet (entry :: rest) walletId =
      (if entry.walletId = walletId then entry.type.signed entry.amount else 0) +
        walletNet rest walletId := by
  unfold walletNet
  simp only [ledgerNet_eq_net, List.map_cons, Bookkeeping.net_cons, LedgerEntry.posting,
    Prod.mk.injEq]
  by_cases mine : entry.walletId = walletId
  · cases currency : entry.currency <;> simp [mine, WalletCurrency.all] <;> omega
  · simp [mine]

theorem foldl_addEntry (entries : List LedgerEntry) (sums : Int × Int) :
    (entries.foldl addEntry sums).1 - (entries.foldl addEntry sums).2 =
      sums.1 - sums.2 + (entries.map fun entry => entry.type.signed entry.amount).sum := by
  induction entries generalizing sums with
  | nil => simp
  | cons entry rest ih =>
      rw [List.foldl_cons, ih, List.map_cons, List.sum_cons]
      cases type : entry.type <;> simp only [addEntry, type, WalletEntryType.signed] <;> omega

theorem walletNet_eq_sum (ledger : List LedgerEntry) (walletId : UserId) :
    walletNet ledger walletId =
      ((ledger.filter fun entry => entry.walletId = walletId).map
        fun entry => entry.type.signed entry.amount).sum := by
  induction ledger with
  | nil => rfl
  | cons entry rest ih =>
      rw [walletNet_cons, ih]
      by_cases mine : entry.walletId = walletId
      · rw [if_pos mine, List.filter_cons_of_pos (by simpa using mine), List.map_cons,
          List.sum_cons]
      · rw [if_neg mine, List.filter_cons_of_neg (by simpa using mine), Int.zero_add]

theorem isReconciled_iff {db : Db} {walletId : UserId} {wallet : Wallet}
    (found : db.findWallet walletId = some wallet) {result : ReconciliationResult}
    (answered : reconcileBalanceWithLedger db walletId = .ok result) :
    result.isReconciled = true ↔ walletNet db.ledger walletId = wallet.availableBalance := by
  simp only [reconcileBalanceWithLedger, WalletService.getWalletById, found] at answered
  rw [← Except.ok.inj answered, decide_eq_true_iff]
  have derived := foldl_addEntry (db.ledger.filter fun entry => entry.walletId = walletId) (0, 0)
  simp only [Int.sub_self, Int.zero_add] at derived
  rw [derived, walletNet_eq_sum]

theorem noDrift_iff {db : Db} {walletId : UserId} {wallet : Wallet}
    (found : db.findWallet walletId = some wallet) :
    (∀ entry ∈ (reconcileUser db walletId).perCurrency, entry.drift = 0) ↔
      ¬ShowsDrift db walletId := by
  rw [← hasDrift_iff found]
  unfold ReconciliationReport.hasDrift
  simp

/-! ### Histories of credits and debits -/

inductive Movement where
  | move (type : WalletEntryType) (input : WalletMovementInput)
  | creditWallet (dto : CreditWalletDto) (actorId : Option UserId)
  | debitWallet (dto : DebitWalletDto) (actorId : Option UserId)
  deriving DecidableEq, Repr

def Movement.operation : Movement → Operation
  | .move type input => .move type input
  | .creditWallet dto actorId => .wallet .creditWallet dto actorId
  | .debitWallet dto actorId => .wallet .debitWallet dto actorId

def Movement.event (platform : Platform) (movement : Movement) : Event :=
  { platform := platform
    operation := movement.operation }

def events (history : List (Platform × Movement)) : List Event :=
  history.map fun (platform, movement) => movement.event platform

def reached (history : List (Platform × Movement)) : Db :=
  Runs.run step Db.empty (events history)

def Wallet.Unreserved (wallet : Wallet) : Prop :=
  wallet.reservedBalance = 0 ∧ wallet.availableBalance = wallet.goldBalance

theorem unreserved_movedWallet {wallet : Wallet} (unreserved : wallet.Unreserved)
    (input : ApplyMovementInput) (enough : 0 ≤ WalletRepository.balanceAfter wallet input) :
    (WalletRepository.movedWallet input wallet).Unreserved := by
  obtain ⟨reserved, available⟩ := unreserved
  refine ⟨(reserved_movedWallet input wallet).trans reserved, ?_⟩
  cases currency : input.currency
  case gold =>
    simp only [WalletRepository.movedWallet, WalletRepository.writtenWallet, currency,
      Wallet.setBalance, if_true, reserved, Int.sub_zero]
    split <;> omega
  all_goals
    simp only [WalletRepository.movedWallet, WalletRepository.writtenWallet, currency,
      Wallet.setBalance, reduceCtorEq, if_false, available]

theorem unreserved_postedWallet {wallet : Wallet} (unreserved : wallet.Unreserved)
    (type : WalletEntryType) (dto : CreditWalletDto) :
    (postedWallet type dto wallet).Unreserved := by
  obtain ⟨reserved, available⟩ := unreserved
  refine ⟨(reserved_postedWallet type dto wallet).trans reserved, ?_⟩
  cases type <;> simp only [postedWallet, adjusted, available]

theorem unreserved_step {db : Db} (unreserved : AllRows Wallet.Unreserved db)
    (platform : Platform) (movement : Movement) :
    AllRows Wallet.Unreserved (step db (movement.event platform)) := by
  rw [allRows_step_iff unreserved]
  intro posts
  cases movement with
  | move type input => exact unreserved_movedWallet (unreserved input.userId) _ posts.2.2.1
  | creditWallet dto actorId => exact unreserved_postedWallet (unreserved dto.userId) _ dto
  | debitWallet dto actorId => exact unreserved_postedWallet (unreserved dto.userId) _ dto

theorem unreserved_run {db : Db} (unreserved : AllRows Wallet.Unreserved db)
    (history : List (Platform × Movement)) :
    AllRows Wallet.Unreserved (Runs.run step db (events history)) := by
  induction history generalizing db with
  | nil => exact unreserved
  | cons first rest ih => exact ih (unreserved_step unreserved first.1 first.2)

theorem unreserved_reached (history : List (Platform × Movement)) :
    AllRows Wallet.Unreserved (reached history) := by
  apply unreserved_run
  intro userId
  rw [Db.row_empty]
  exact ⟨rfl, rfl⟩

/-- What the ledger has beyond goldBalance: the drift of GOLD and the nets of the
other currencies. -/
def surplus (db : Db) (walletId : UserId) : Int :=
  (ledgerNet db.ledger walletId .gold - (db.row walletId).goldBalance) +
    (ledgerNet db.ledger walletId .diamond + ledgerNet db.ledger walletId .game +
      ledgerNet db.ledger walletId .free + ledgerNet db.ledger walletId .earnings)

theorem walletNet_eq (db : Db) (walletId : UserId) :
    walletNet db.ledger walletId = (db.row walletId).goldBalance + surplus db walletId := by
  unfold walletNet surplus WalletCurrency.all
  simp only [List.map_cons, List.map_nil, List.sum_cons, List.sum_nil]
  omega

theorem reconcilersAgree_iff_of_unreserved {db : Db}
    (unreserved : AllRows Wallet.Unreserved db) (walletId : UserId) :
    ReconcilersAgree db walletId ↔
      (db.findWallet walletId ≠ none → (ShowsDrift db walletId ↔ surplus db walletId ≠ 0)) := by
  unfold ReconcilersAgree
  cases found : db.findWallet walletId with
  | none =>
      refine iff_of_true ?_ fun absent => absurd rfl absent
      intro result answered
      simp only [reconcileBalanceWithLedger, WalletService.getWalletById, found] at answered
      cases answered
  | some wallet =>
      have aggregate : wallet.availableBalance = wallet.goldBalance := by
        have rowAggregate := (unreserved walletId).2
        rwa [Db.row_eq_of_findWallet found] at rowAggregate
      have net := walletNet_eq db walletId
      rw [Db.row_eq_of_findWallet found] at net
      have reconciled : walletNet db.ledger walletId = wallet.availableBalance ↔
          surplus db walletId = 0 := by
        omega
      constructor
      · intro agree _
        obtain ⟨result, answered⟩ : ∃ result,
            reconcileBalanceWithLedger db walletId = .ok result := by
          simp only [reconcileBalanceWithLedger, WalletService.getWalletById, found]
          exact ⟨_, rfl⟩
        have both := agree result answered
        rw [isReconciled_iff found answered, noDrift_iff found, reconciled] at both
        rw [ne_eq, both, not_not]
      · intro exactly result answered
        have shown := exactly (Option.some_ne_none wallet)
        rw [isReconciled_iff found answered, noDrift_iff found, reconciled, shown, not_not]

/-! ### Wallets that hold GOLD only -/

/-- Without reservations the checks of both paths cover every debit. -/
theorem coversHolds_of_unreserved {db : Db} (unreserved : AllRows Wallet.Unreserved db)
    (platform : Platform) (movement : Movement) : (movement.event platform).CoversHolds db := by
  intro posts
  cases movement with
  | move type input =>
      cases type with
      | credit => trivial
      | debit =>
          intro gold
          have reserved := (unreserved input.userId).1
          have enough : 0 ≤ WalletRepository.balanceAfter (db.row input.userId)
              (WalletService.movementInput .debit input) := posts.2.2.1
          simp only [WalletRepository.balanceAfter, WalletRepository.balanceBefore,
            WalletService.movementInput, gold, Wallet.balance, WalletEntryType.signed] at enough
          omega
  | creditWallet dto actorId => trivial
  | debitWallet dto actorId =>
      obtain ⟨reserved, available⟩ := unreserved dto.userId
      obtain ⟨_, _, enough⟩ := bind_eq_ok.mp posts.2.2.2.2
      rw [WalletValidationService.validateSufficientBalance_ok_iff] at enough
      refine ⟨fun gold => ?_, fun diamond => ?_, fun game => ?_⟩
      · simp only [gold, WalletValidationService.checkedBalance] at enough
        omega
      · simpa only [diamond, WalletValidationService.checkedBalance] using enough
      · simpa only [game, WalletValidationService.checkedBalance] using enough

theorem funded_run {db : Db} (backed : HoldsBacked db)
    (unreserved : AllRows Wallet.Unreserved db) (funded : AllRows Wallet.Funded db)
    (history : List (Platform × Movement)) :
    AllRows Wallet.Funded (Runs.run step db (events history)) := by
  induction history generalizing db with
  | nil => exact funded
  | cons first rest ih =>
      have covers := coversHolds_of_unreserved unreserved first.1 first.2
      have next : AllRows Wallet.Funded (step db (first.2.event first.1)) := by
        rw [allRows_step_iff funded, rewrites_funded_iff backed funded]
        exact covers
      exact ih (holdsBacked_step db _ backed) (unreserved_step unreserved first.1 first.2) next

theorem funded_reached (history : List (Platform × Movement)) :
    AllRows Wallet.Funded (reached history) := by
  apply funded_run holdsBacked_empty
  · intro userId
    rw [Db.row_empty]
    exact ⟨rfl, rfl⟩
  · intro userId
    rw [Db.row_empty]
    exact funded_fresh userId

def Wallet.OnlyGold (wallet : Wallet) : Prop :=
  ∀ currency ≠ .gold, wallet.balance currency = 0

theorem surplus_eq_zero_iff {db : Db} {walletId : UserId} (funded : AllRows Wallet.Funded db)
    (matched : ¬Drifts db walletId) :
    surplus db walletId = 0 ↔ (db.row walletId).OnlyGold := by
  have column (currency : WalletCurrency) : ledgerNet db.ledger walletId currency =
      (db.row walletId).balance currency := by
    by_contra different
    exact matched ⟨currency, fun same => different same.symm⟩
  have total : surplus db walletId =
      (db.row walletId).diamondBalance + (db.row walletId).gameBalance +
        (db.row walletId).freeBalance + (db.row walletId).earningsBalance := by
    unfold surplus
    simp only [column, Wallet.balance]
    omega
  -- No column is negative, so the four can only add up to zero one by one.
  obtain ⟨-, -, -, diamond, game, free, earnings⟩ := funded walletId
  rw [total]
  constructor
  · intro none currency other
    cases currency with
    | gold => exact absurd rfl other
    | diamond =>
        change (db.row walletId).diamondBalance = 0
        omega
    | game =>
        change (db.row walletId).gameBalance = 0
        omega
    | free =>
        change (db.row walletId).freeBalance = 0
        omega
    | earnings =>
        change (db.row walletId).earningsBalance = 0
        omega
  · intro zero
    have ofDiamond : (db.row walletId).diamondBalance = 0 := zero .diamond (by decide)
    have ofGame : (db.row walletId).gameBalance = 0 := zero .game (by decide)
    have ofFree : (db.row walletId).freeBalance = 0 := zero .free (by decide)
    have ofEarnings : (db.row walletId).earningsBalance = 0 := zero .earnings (by decide)
    omega

/-- Where no column drifts none shows, so the columns beside GOLD decide. -/
theorem shown_iff_surplus_of_not_drifts {db : Db} {walletId : UserId}
    (funded : AllRows Wallet.Funded db) (matched : ¬Drifts db walletId) :
    (ShowsDrift db walletId ↔ surplus db walletId ≠ 0) ↔ (db.row walletId).OnlyGold := by
  have quiet : ¬ShowsDrift db walletId := fun shows => matched (drifts_of_showsDrift shows)
  rw [iff_false_left quiet, not_not, surplus_eq_zero_iff funded matched]

end Soulzaa
