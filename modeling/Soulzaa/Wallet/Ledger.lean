/-
The balance columns against the ledger.

The ledger is a journal of postings to the accounts (wallet, currency) and the
columns are the books.  Every operation but two keeps the books balanced: a
Path B movement whose ledger row names a column it does not move, and a transfer
between two users, which moves the available aggregate only.
-/

import Soulzaa.Lib.Bookkeeping
import Soulzaa.Wallet.Operation

namespace Soulzaa

open Bookkeeping WalletTransactionService

abbrev Account := UserId × WalletCurrency

def LedgerEntry.posting (entry : LedgerEntry) : Posting Account Int :=
  { account := (entry.walletId, entry.currency)
    amount := entry.type.signed entry.amount }

def ledgerSum (ledger : List LedgerEntry) (userId : UserId) (currency : WalletCurrency)
    (type : WalletEntryType) : Int :=
  ((ledger.filter fun entry =>
    entry.walletId = userId ∧ entry.currency = currency ∧ entry.type = type).map
      LedgerEntry.amount).sum

def ledgerNet (ledger : List LedgerEntry) (userId : UserId) (currency : WalletCurrency) : Int :=
  ledgerSum ledger userId currency .credit - ledgerSum ledger userId currency .debit

/-- Every column reconciliation reads is the ledger net of its currency. -/
def ColumnsMatchLedger (db : Db) : Prop :=
  ∀ userId currency, (db.row userId).balance currency = ledgerNet db.ledger userId currency

theorem ledgerNet_eq_net (ledger : List LedgerEntry) (userId : UserId)
    (currency : WalletCurrency) :
    ledgerNet ledger userId currency =
      net (ledger.map LedgerEntry.posting) (userId, currency) := by
  unfold ledgerNet ledgerSum
  induction ledger with
  | nil => rfl
  | cons entry rest ih =>
      rw [List.map_cons, net_cons, ← ih]
      by_cases wallet : entry.walletId = userId
      · by_cases named : entry.currency = currency
        · cases type : entry.type <;>
            simp [LedgerEntry.posting, WalletEntryType.signed, wallet, named, type] <;> omega
        · simp [LedgerEntry.posting, wallet, named]
      · simp [LedgerEntry.posting, wallet]

def books (db : Db) (account : Account) : Int :=
  (db.row account.1).balance account.2

theorem columnsMatchLedger_iff_booksBalance (db : Db) :
    ColumnsMatchLedger db ↔ BooksBalance (books db) (db.ledger.map LedgerEntry.posting) := by
  unfold ColumnsMatchLedger BooksBalance books
  simp only [ledgerNet_eq_net, Prod.forall]

/-! ### What each operation does to the columns -/

/-- The currencies whose column a Path B update names. -/
def MovesColumn (currency : Option WalletCurrency) : Prop :=
  currency = some .gold ∨ currency = some .diamond ∨ currency = some .game

instance (currency : Option WalletCurrency) : Decidable (MovesColumn currency) :=
  inferInstanceAs (Decidable (_ ∨ _ ∨ _))

theorem MovesColumn.named {currency : Option WalletCurrency} (moves : MovesColumn currency) :
    currency = some (currency.getD .gold) := by
  rcases moves with rfl | rfl | rfl <;> rfl

theorem balance_movedWallet (input : ApplyMovementInput) (locked : Wallet)
    (currency : WalletCurrency) :
    (WalletRepository.movedWallet input locked).balance currency =
      if currency = input.currency then WalletRepository.balanceAfter locked input
      else locked.balance currency := by
  rw [← Wallet.balance_setBalance]
  cases currency <;> rfl

theorem balance_postedWallet (type : WalletEntryType) (dto : CreditWalletDto) (wallet : Wallet)
    (currency : WalletCurrency) :
    (postedWallet type dto wallet).balance currency =
      wallet.balance currency +
        if MovesColumn dto.currency ∧ dto.currency = some currency then
          type.signed dto.amount
        else 0 := by
  rcases named : dto.currency with _ | column
  · cases type <;> cases currency <;> simp [postedWallet, adjusted, Wallet.balance, named]
  · cases type <;> cases column <;> cases currency <;>
      simp [postedWallet, adjusted, Wallet.balance, named, MovesColumn]

theorem balance_transferRow (dto : TransferWalletDto) (userId : UserId) (wallet : Wallet)
    (currency : WalletCurrency) :
    (transferRow dto userId wallet).balance currency = wallet.balance currency := by
  unfold transferRow
  split
  · cases currency <;> rfl
  · split
    · cases currency <;> rfl
    · rfl

theorem balance_onlyRow {update : Wallet → Wallet}
    (still : ∀ wallet currency,
      Wallet.balance (update wallet) currency = wallet.balance currency)
    (owner userId : UserId) (wallet : Wallet) (currency : WalletCurrency) :
    (onlyRow owner update userId wallet).balance currency = wallet.balance currency := by
  unfold onlyRow
  split
  · exact still wallet currency
  · rfl

theorem balance_withStatus (status : WalletStatus) (wallet : Wallet)
    (currency : WalletCurrency) :
    (wallet.withStatus status).balance currency = wallet.balance currency := by
  cases currency <;> rfl

theorem balance_heldWallet (amount : Int) (wallet : Wallet) (currency : WalletCurrency) :
    (ReservationService.heldWallet amount wallet).balance currency =
      wallet.balance currency := by
  cases currency <;> rfl

theorem balance_settlement (settlement : ReservationService.Settlement) (amount : Int)
    (wallet : Wallet) (currency : WalletCurrency) :
    (settlement.wallet amount wallet).balance currency = wallet.balance currency := by
  cases settlement <;> cases currency <;> rfl

def Writes.Posted (writes : Writes) (db : Db) : Prop :=
  ∀ userId currency, (writes.row userId (db.row userId)).balance currency =
    (db.row userId).balance currency +
      net (writes.entries.map LedgerEntry.posting) (userId, currency)

theorem columnsMatchLedger_step_iff (db : Db) (event : Event) (matched : ColumnsMatchLedger db) :
    ColumnsMatchLedger (step db event) ↔ (event.writes db).Posted db := by
  have wrote := step_wrote db event
  rw [columnsMatchLedger_iff_booksBalance, wrote.ledger, List.map_append,
    ((columnsMatchLedger_iff_booksBalance db).mp matched).append_iff]
  unfold Writes.Posted books
  simp only [wrote.row, Prod.forall]

theorem posted_of_no_entries {writes : Writes} (db : Db) (none : writes.entries = [])
    (still : ∀ userId wallet currency,
      (writes.row userId wallet).balance currency = wallet.balance currency) :
    writes.Posted db := by
  intro userId currency
  rw [still, none, List.map_nil, net_nil, Int.add_zero]

theorem net_singleton (entry : LedgerEntry) (userId : UserId) (currency : WalletCurrency) :
    net [entry.posting] (userId, currency) =
      if userId = entry.walletId ∧ currency = entry.currency then
        entry.type.signed entry.amount
      else 0 := by
  rw [net_cons, net_nil, add_zero]
  simp only [LedgerEntry.posting, Prod.mk.injEq, eq_comm]

theorem posted_movementWrites (db : Db) (input : ApplyMovementInput) :
    (WalletRepository.movementWrites db input).Posted db := by
  intro userId currency
  change (onlyRow _ _ userId _).balance currency = _ + net [LedgerEntry.posting _] _
  rw [net_singleton]
  by_cases owner : userId = input.userId
  · subst userId
    rw [onlyRow_self, balance_movedWallet]
    by_cases named : currency = input.currency
    · subst currency
      rw [if_pos rfl, if_pos ⟨rfl, rfl⟩]
      rfl
    · rw [if_neg named, if_neg fun both => named both.2, Int.add_zero]
  · rw [onlyRow_other owner, if_neg fun both => owner both.1, Int.add_zero]

theorem posted_walletWrites_iff (db : Db) (method : Method) (dto : CreditWalletDto)
    (actorId : Option UserId) (positive : 0 < dto.amount) :
    (walletWrites method dto actorId db).Posted db ↔ MovesColumn dto.currency := by
  have signed := method.type.signed_ne_zero positive
  have moved (userId : UserId) (currency : WalletCurrency) :
      ((walletWrites method dto actorId db).row userId (db.row userId)).balance currency =
        (db.row userId).balance currency +
          if userId = dto.userId ∧ MovesColumn dto.currency ∧ dto.currency = some currency then
            method.type.signed dto.amount
          else 0 := by
    change (onlyRow _ _ userId _).balance currency = _
    by_cases owner : userId = dto.userId
    · subst userId
      rw [onlyRow_self, balance_postedWallet]
      simp only [true_and]
    · rw [onlyRow_other owner, if_neg fun both => owner both.1, Int.add_zero]
  have booked (userId : UserId) (currency : WalletCurrency) :
      net ((walletWrites method dto actorId db).entries.map LedgerEntry.posting)
          (userId, currency) =
        if userId = dto.userId ∧ currency = dto.currency.getD .gold then
          method.type.signed dto.amount
        else 0 :=
    net_singleton (walletEntry method dto actorId db (db.row dto.userId)) userId currency
  unfold Writes.Posted
  simp only [moved, booked, Int.add_right_inj]
  constructor
  · intro agrees
    -- The account of the entry decides: its net is not zero.
    have atEntry := agrees dto.userId (dto.currency.getD .gold)
    rw [if_pos (show _ ∧ _ from ⟨rfl, rfl⟩)] at atEntry
    by_contra still
    rw [if_neg fun both => still both.2.1] at atEntry
    exact signed atEntry.symm
  · intro moves userId currency
    have same : dto.currency = some currency ↔ currency = dto.currency.getD .gold := by
      rw [moves.named, Option.some.injEq, Option.getD_some, eq_comm]
    simp only [moves, same, true_and]

theorem posted_transferWrites_iff (db : Db) (dto : TransferWalletDto)
    (actorId : Option UserId) (positive : 0 < dto.amount) :
    (transferWrites dto actorId db).Posted db ↔ isSelfTransfer dto := by
  have booked (userId : UserId) (currency : WalletCurrency) :
      net ((transferWrites dto actorId db).entries.map LedgerEntry.posting) (userId, currency) =
        (if userId = dto.senderUserId ∧ currency = dto.currency.getD .gold then -dto.amount
          else 0) +
        (if userId = dto.recipientUserId ∧ currency = dto.currency.getD .gold then dto.amount
          else 0) := by
    have first := net_singleton (debitEntry dto actorId db (db.row dto.senderUserId))
      userId currency
    have second := net_singleton
      (creditEntry dto actorId db (db.row dto.senderUserId) (db.row dto.recipientUserId))
      userId currency
    calc net ((transferWrites dto actorId db).entries.map LedgerEntry.posting)
          (userId, currency)
        = net [(debitEntry dto actorId db (db.row dto.senderUserId)).posting]
            (userId, currency) +
          net [(creditEntry dto actorId db (db.row dto.senderUserId)
            (db.row dto.recipientUserId)).posting] (userId, currency) :=
          net_append [_] [_] _
      _ = _ := by rw [first, second]; rfl
  have still (userId : UserId) (currency : WalletCurrency) :
      ((transferWrites dto actorId db).row userId (db.row userId)).balance currency =
        (db.row userId).balance currency :=
    balance_transferRow dto userId (db.row userId) currency
  unfold Writes.Posted
  simp only [still, booked]
  constructor
  · intro agrees
    -- Between two users the sender's account shows a debit and no movement.
    have atSender := agrees dto.senderUserId (dto.currency.getD .gold)
    rw [if_pos (show _ ∧ _ from ⟨rfl, rfl⟩)] at atSender
    by_contra different
    rw [if_neg fun both => different both.1] at atSender
    omega
  · intro self userId currency
    rw [show dto.recipientUserId = dto.senderUserId from Eq.symm self]
    split <;> omega

/-! ### Runs -/

/-- A Path B movement that posts names GOLD, DIAMOND or GAME; a transfer that
posts is to oneself. -/
def Event.Booked (db : Db) (event : Event) : Prop :=
  event.Posts db →
    match event.operation with
    | .wallet _ dto _ => MovesColumn dto.currency
    | .transferCoins dto _ => isSelfTransfer dto
    | _ => True

theorem posted_writes_iff (db : Db) (event : Event) :
    (event.writes db).Posted db ↔ event.Booked db := by
  unfold Event.writes Event.Booked
  by_cases posts : event.Posts db
  · rw [if_pos posts]
    simp only [posts, true_implies]
    obtain ⟨platform, operation⟩ := event
    cases operation with
    | ensureWallet userId => exact absurd posts id
    | updateWalletStatus walletId status =>
        exact iff_of_true (posted_of_no_entries db rfl
          (balance_onlyRow (balance_withStatus status) walletId)) trivial
    | move type input => exact iff_of_true (posted_movementWrites db _) trivial
    | wallet call dto actorId => exact posted_walletWrites_iff db _ dto actorId posts.2.2.1
    | transferCoins dto actorId => exact posted_transferWrites_iff db dto actorId posts.2.1
    | reserveCoins dto =>
        exact iff_of_true (posted_of_no_entries db rfl
          (balance_onlyRow (balance_heldWallet dto.amount) dto.userId)) trivial
    | settle settlement reservationId =>
        obtain ⟨reservation, -, written⟩ := Operation.settles_of_posts posts
        rw [written]
        exact iff_of_true (posted_of_no_entries db rfl (balance_onlyRow
          (balance_settlement settlement reservation.amount) reservation.walletId)) trivial
  · rw [if_neg posts]
    exact iff_of_true (posted_of_no_entries db rfl fun _ _ _ => rfl) fun posted =>
      absurd posted posts

theorem columnsMatchLedger_iff_booked (events : List Event) :
    Runs.Always step ColumnsMatchLedger Db.empty events ↔
      Runs.Each step Event.Booked Db.empty events := by
  apply Runs.always_iff_each fun _ => True
  · intro db event _ _ _
    trivial
  · intro db event _ matched
    rw [columnsMatchLedger_step_iff db event matched, posted_writes_iff]
  · trivial
  · intro userId currency
    rw [Db.row_empty, Wallet.balance_fresh]
    rfl

/-- A credit that leaves its currency out is booked as GOLD and moves nothing. -/
theorem columnsMatchLedger_fails_on_omitted_currency :
    ¬∀ events, Runs.Always step ColumnsMatchLedger Db.empty events := by
  intro all
  have matched := (all [.ofOperation (.wallet .creditWallet
    { userId := "alice"
      amount := 100
      idempotencyKey := "k1" } none)]).final "alice" .gold
  revert matched
  decide

end Soulzaa
