/-
The balances a ledger entry carries.

An entry is faithful when it carries its column as it was before the operation
and as it is after.  Path A entries are; Path B entries carry the available
aggregate instead, which is their column only by coincidence of the two.
-/

import Soulzaa.Wallet.Ledger

namespace Soulzaa

open Bookkeeping WalletTransactionService

structure LedgerEntry.Faithful (before after : Db) (entry : LedgerEntry) : Prop where
  moved : entry.balanceAfter = entry.balanceBefore + entry.type.signed entry.amount
  fromColumn : entry.balanceBefore = (before.row entry.walletId).balance entry.currency
  toColumn : entry.balanceAfter = (after.row entry.walletId).balance entry.currency

def FaithfulStep (db : Db) (event : Event) : Prop :=
  ∀ entry ∈ (step db event).ledger.drop db.ledger.length, entry.Faithful db (step db event)

def statement (ledger : List LedgerEntry) (userId : UserId) (currency : WalletCurrency) :
    List LedgerEntry :=
  ledger.filter fun entry => entry.walletId = userId ∧ entry.currency = currency

/-- Each entry of a statement starts from the balance the previous one left. -/
def Chained (db : Db) : Prop :=
  ∀ userId currency, (statement db.ledger userId currency).IsChain
    fun earlier later => later.balanceBefore = earlier.balanceAfter

/-- No transfer posts, and a Path B movement that posts names a column that it
moves and that equals the available aggregate. -/
def Event.Snapshots (db : Db) (event : Event) : Prop :=
  event.Posts db →
    match event.operation with
    | .wallet _ dto _ =>
        MovesColumn dto.currency ∧
          (db.row dto.userId).availableBalance =
            (db.row dto.userId).balance (dto.currency.getD .gold)
    | .transferCoins _ _ => False
    | _ => True

/-! ### Faithful steps -/

theorem written_eq (db : Db) (event : Event) :
    (step db event).ledger.drop db.ledger.length = (event.writes db).entries := by
  rw [(step_wrote db event).ledger, List.drop_left]

theorem faithful_movementEntry (db after : Db) (input : ApplyMovementInput)
    (wrote : db.Wrote after (WalletRepository.movementWrites db input)) :
    (WalletRepository.movementEntry db (db.row input.userId) input).Faithful db after := by
  refine ⟨rfl, rfl, ?_⟩
  change WalletRepository.balanceAfter _ input = (after.row input.userId).balance input.currency
  rw [wrote.row]
  change _ = (onlyRow _ _ input.userId _).balance input.currency
  rw [onlyRow_self, balance_movedWallet, if_pos rfl]

theorem faithful_walletEntry_iff (db after : Db) (method : Method) (dto : CreditWalletDto)
    (actorId : Option UserId) (positive : 0 < dto.amount)
    (wrote : db.Wrote after (walletWrites method dto actorId db)) :
    (walletEntry method dto actorId db (db.row dto.userId)).Faithful db after ↔
      MovesColumn dto.currency ∧
        (db.row dto.userId).availableBalance =
          (db.row dto.userId).balance (dto.currency.getD .gold) := by
  have signed := method.type.signed_ne_zero positive
  have column : (after.row dto.userId).balance (dto.currency.getD .gold) =
      (db.row dto.userId).balance (dto.currency.getD .gold) +
        if MovesColumn dto.currency then method.type.signed dto.amount else 0 := by
    rw [wrote.row]
    change (onlyRow _ _ dto.userId _).balance _ = _
    rw [onlyRow_self, balance_postedWallet]
    by_cases moves : MovesColumn dto.currency
    · rw [if_pos ⟨moves, moves.named⟩, if_pos moves]
    · rw [if_neg fun both => moves both.1, if_neg moves]
  constructor
  · rintro ⟨-, fromColumn, toColumn⟩
    simp only [walletEntry] at fromColumn toColumn
    rw [column] at toColumn
    by_cases moves : MovesColumn dto.currency
    · exact ⟨moves, fromColumn⟩
    -- An entry over a column that stays would need a zero amount.
    · rw [if_neg moves] at toColumn
      omega
  · rintro ⟨moves, aggregate⟩
    refine ⟨rfl, aggregate, ?_⟩
    simp only [walletEntry]
    rw [column, if_pos moves, aggregate]

/-- The debit entry of a transfer records a movement its column does not make. -/
theorem not_faithful_debitEntry (db after : Db) (dto : TransferWalletDto)
    (actorId : Option UserId) (positive : 0 < dto.amount)
    (wrote : db.Wrote after (transferWrites dto actorId db)) :
    ¬(debitEntry dto actorId db (db.row dto.senderUserId)).Faithful db after := by
  rintro ⟨-, fromColumn, toColumn⟩
  have still := balance_transferRow dto dto.senderUserId (db.row dto.senderUserId)
    (dto.currency.getD .gold)
  simp only [debitEntry] at fromColumn toColumn
  rw [wrote.row] at toColumn
  change _ = (transferRow dto _ _).balance _ at toColumn
  omega

theorem faithfulStep_iff (db : Db) (event : Event) :
    FaithfulStep db event ↔ event.Snapshots db := by
  have wrote := step_wrote db event
  unfold FaithfulStep Event.Snapshots
  rw [written_eq]
  unfold Event.writes at wrote ⊢
  by_cases posts : event.Posts db
  · rw [if_pos posts] at wrote ⊢
    simp only [posts, true_implies]
    obtain ⟨platform, operation⟩ := event
    cases operation with
    | ensureWallet userId => exact absurd posts id
    | updateWalletStatus walletId status =>
        exact iff_of_true (List.forall_mem_nil _) trivial
    | move type input =>
        refine iff_of_true (fun entry member => ?_) trivial
        rw [List.mem_singleton.mp member]
        exact faithful_movementEntry db _ _ wrote
    | wallet call dto actorId =>
        exact List.forall_mem_singleton.trans
          (faithful_walletEntry_iff db _ (call.method dto) dto actorId posts.2.2.1 wrote)
    | transferCoins dto actorId =>
        refine iff_of_false (fun faithful => ?_) id
        exact not_faithful_debitEntry db _ dto actorId posts.2.1 wrote
          (faithful _ List.mem_cons_self)
    | reserveCoins dto => exact iff_of_true (List.forall_mem_nil _) trivial
    | settle settlement reservationId =>
        obtain ⟨reservation, -, written⟩ := Operation.settles_of_posts posts
        rw [written]
        exact iff_of_true (List.forall_mem_nil _) trivial
  · rw [if_neg posts]
    exact iff_of_true (List.forall_mem_nil _) fun posted => absurd posted posts

/-! ### Chains -/

def StatementsClose (db : Db) : Prop :=
  ∀ userId currency,
    Linked LedgerEntry.balanceBefore LedgerEntry.balanceAfter 0
        (statement db.ledger userId currency) ∧
      endsAt LedgerEntry.balanceAfter 0 (statement db.ledger userId currency) =
        (db.row userId).balance currency

theorem chained_of_statementsClose {db : Db} (close : StatementsClose db) : Chained db :=
  fun userId currency => (close userId currency).1.isChain

theorem statement_append (front back : List LedgerEntry) (userId : UserId)
    (currency : WalletCurrency) :
    statement (front ++ back) userId currency =
      statement front userId currency ++ statement back userId currency :=
  List.filter_append front back

/-- An event with faithful entries books them, and writes at most one. -/
theorem booked_of_snapshots {db : Db} {event : Event} (snapshots : event.Snapshots db) :
    event.Booked db := by
  intro posts
  have taken := snapshots posts
  obtain ⟨platform, operation⟩ := event
  cases operation with
  | wallet call dto actorId => exact taken.1
  | transferCoins dto actorId => exact absurd taken id
  | ensureWallet userId => trivial
  | updateWalletStatus walletId status => trivial
  | move type input => trivial
  | reserveCoins dto => trivial
  | settle settlement reservationId => trivial

theorem entries_of_snapshots {db : Db} {event : Event} (snapshots : event.Snapshots db) :
    (event.writes db).entries = [] ∨ ∃ entry, (event.writes db).entries = [entry] := by
  unfold Event.writes
  by_cases posts : event.Posts db
  · rw [if_pos posts]
    have taken := snapshots posts
    obtain ⟨platform, operation⟩ := event
    cases operation with
    | wallet call dto actorId => exact Or.inr ⟨_, rfl⟩
    | transferCoins dto actorId => exact absurd taken id
    | ensureWallet userId => exact Or.inl rfl
    | updateWalletStatus walletId status => exact Or.inl rfl
    | move type input => exact Or.inr ⟨_, rfl⟩
    | reserveCoins dto => exact Or.inl rfl
    | settle settlement reservationId =>
        obtain ⟨reservation, -, written⟩ := Operation.settles_of_posts posts
        rw [written]
        exact Or.inl rfl
  · rw [if_neg posts]
    exact Or.inl rfl

theorem statementsClose_step (db : Db) (event : Event) (close : StatementsClose db)
    (snapshots : event.Snapshots db) : StatementsClose (step db event) := by
  have wrote := step_wrote db event
  have faithful := (faithfulStep_iff db event).mpr snapshots
  have posted := (posted_writes_iff db event).mpr (booked_of_snapshots snapshots)
  unfold FaithfulStep at faithful
  rw [written_eq] at faithful
  intro userId currency
  obtain ⟨linked, ends⟩ := close userId currency
  have column := posted userId currency
  rw [← wrote.row] at column
  rw [wrote.ledger, statement_append, linked_append, endsAt_append, ends]
  -- A statement grows by the one entry, if it is of this account, or stays.
  rcases entries_of_snapshots snapshots with none | ⟨entry, one⟩
  · rw [none, List.map_nil, net_nil, Int.add_zero] at column
    rw [none]
    exact ⟨⟨linked, trivial⟩, column.symm⟩
  · rw [one, List.map_singleton, net_singleton] at column
    have entryFaithful := faithful entry (by rw [one]; exact List.mem_singleton_self entry)
    rw [one]
    by_cases mine : entry.walletId = userId ∧ entry.currency = currency
    · obtain ⟨rfl, rfl⟩ := mine
      have kept : statement [entry] entry.walletId entry.currency = [entry] :=
        List.filter_eq_self.mpr (by simp)
      rw [kept]
      exact ⟨⟨linked, entryFaithful.fromColumn, trivial⟩, entryFaithful.toColumn⟩
    · have dropped : statement [entry] userId currency = [] :=
        List.filter_eq_nil_iff.mpr (by simpa using mine)
      rw [if_neg fun both => mine ⟨both.1.symm, both.2.symm⟩, Int.add_zero] at column
      rw [dropped]
      exact ⟨⟨linked, trivial⟩, column.symm⟩

theorem statementsClose_empty : StatementsClose Db.empty := by
  intro userId currency
  refine ⟨trivial, ?_⟩
  rw [Db.row_empty, Wallet.balance_fresh]
  rfl

/-- The entries are faithful and chained throughout a run exactly when each event
takes its snapshots from the column it moves. -/
theorem faithful_and_chained_iff_snapshots (events : List Event) :
    (Runs.Each step FaithfulStep Db.empty events ∧ Runs.Always step Chained Db.empty events) ↔
      Runs.Each step Event.Snapshots Db.empty events := by
  rw [Runs.each_congr faithfulStep_iff]
  constructor
  · exact And.left
  · intro snapshots
    refine ⟨snapshots, ?_⟩
    have close := Runs.always_of_each statementsClose_step Db.empty statementsClose_empty
      events snapshots
    rw [Runs.always_iff_front] at close ⊢
    exact fun front isPrefix => chained_of_statementsClose (close front isPrefix)

/-- A DIAMOND credit carries the GOLD aggregate it was taken next to. -/
theorem faithful_fails_on_diamond_credit :
    ¬Runs.Each step FaithfulStep Db.empty
      [.ofOperation (.move .credit
        { userId := "alice"
          currency := .gold
          amount := 100
          reason := .recharge
          idempotencyKey := "k1" }),
      .ofOperation (.wallet .creditWallet
        { userId := "alice"
          amount := 5
          currency := some .diamond
          idempotencyKey := "k2" } none)] := by
  intro each
  have aggregate := ((faithfulStep_iff _ _).mp each.2.1 (by decide)).2
  revert aggregate
  decide

end Soulzaa
