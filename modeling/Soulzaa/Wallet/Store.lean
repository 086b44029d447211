/-
The wallet tables and the statements the services run on them.

A statement either returns the tables it leaves or throws.  A transaction is a
sequence of statements that returns nothing on a throw, so its writes are all
kept or all dropped.
-/

import Soulzaa.Wallet.Types

namespace Soulzaa

/-! ### Sequencing of statements -/

@[simp] theorem ok_bind {Error First Second : Type} (value : First)
    (next : First → Except Error Second) : (Except.ok value >>= next) = next value := rfl

@[simp] theorem error_bind {Error First Second : Type} (error : Error)
    (next : First → Except Error Second) : (Except.error error >>= next) = .error error := rfl

theorem bind_eq_ok {Error First Second : Type} {first : Except Error First}
    {next : First → Except Error Second} {result : Second} :
    (first >>= next) = .ok result ↔ ∃ value, first = .ok value ∧ next value = .ok result := by
  cases first with
  | error error => simp
  | ok value => simp

structure Db where
  wallets : AList (fun _ : UserId => Wallet)
  transactions : UniqueTable WalletTransaction.idempotencyKey
  ledger : List LedgerEntry
  reservations : List WalletReservation

/-! ### Wallet rows -/

def Wallet.fresh (userId : UserId) : Wallet :=
  { userId := userId }

namespace Db

def empty : Db :=
  { wallets := ∅
    transactions := UniqueTable.empty
    ledger := []
    reservations := [] }

def findWallet (db : Db) (userId : UserId) : Option Wallet :=
  db.wallets.lookup userId

/-- The wallet row of a user, or the row it would be created with. -/
def row (db : Db) (userId : UserId) : Wallet :=
  (db.findWallet userId).getD (Wallet.fresh userId)

def putWallet (db : Db) (userId : UserId) (wallet : Wallet) : Db :=
  { db with wallets := db.wallets.insert userId wallet }

def updateWallet (db : Db) (userId : UserId) (update : Wallet → Wallet) : Except Failure Db :=
  match db.findWallet userId with
  | some wallet => .ok (db.putWallet userId (update wallet))
  | none => .error .recordNotFound

/-- `upsert` with an empty update. -/
def upsertWallet (db : Db) (userId : UserId) : Db :=
  match db.findWallet userId with
  | some _ => db
  | none => db.putWallet userId (Wallet.fresh userId)

/-! ### Transaction headers, ledger rows, reservations -/

def findByIdempotencyKey (db : Db) (idempotencyKey : String) : Option WalletTransaction :=
  db.transactions.find? idempotencyKey

def nextTransactionId (db : Db) : TransactionId :=
  db.transactions.rows.length

def createTransaction (db : Db) (header : WalletTransaction) : Except Failure Db :=
  match db.transactions.create header with
  | some transactions => .ok { db with transactions := transactions }
  | none => .error .uniqueConstraint

def createLedgerEntry (db : Db) (entry : LedgerEntry) : Db :=
  { db with ledger := db.ledger ++ [entry] }

def findReservation (db : Db) (id : ReservationId) : Option WalletReservation :=
  db.reservations[id]?

def createReservation (db : Db) (reservation : WalletReservation) : Db :=
  { db with reservations := db.reservations ++ [reservation] }

def updateReservation (db : Db) (id : ReservationId) (status : ReservationStatus) :
    Except Failure Db :=
  match db.findReservation id with
  | some reservation =>
      .ok { db with reservations := db.reservations.set id { reservation with status := status } }
  | none => .error .recordNotFound

/-! ### What each statement leaves -/

variable (db : Db) (userId other : UserId) (wallet : Wallet)

@[simp] theorem row_empty : empty.row userId = Wallet.fresh userId := rfl

theorem findWallet_putWallet :
    (db.putWallet userId wallet).findWallet other =
      if other = userId then some wallet else db.findWallet other := by
  unfold findWallet putWallet
  by_cases same : other = userId
  · subst other
    rw [if_pos rfl, AList.lookup_insert]
  · rw [if_neg same, AList.lookup_insert_ne same]

@[simp] theorem row_putWallet :
    (db.putWallet userId wallet).row other = if other = userId then wallet else db.row other := by
  unfold row
  rw [findWallet_putWallet]
  split <;> rfl

theorem putWallet_upsertWallet :
    (db.upsertWallet userId).putWallet userId wallet = db.putWallet userId wallet := by
  unfold upsertWallet
  split
  · rfl
  · simp only [putWallet, AList.insert_insert]

theorem row_eq_of_findWallet {db : Db} {userId : UserId} {wallet : Wallet}
    (found : db.findWallet userId = some wallet) : db.row userId = wallet := by
  unfold row
  rw [found]
  rfl

theorem findWallet_upsertWallet :
    (db.upsertWallet userId).findWallet other =
      if other = userId then some (db.row userId) else db.findWallet other := by
  unfold upsertWallet row
  cases found : db.findWallet userId with
  | some wallet =>
      by_cases same : other = userId
      · subst other
        rw [if_pos rfl, found]
        rfl
      · rw [if_neg same]
  | none =>
      rw [findWallet_putWallet]
      rfl

theorem findWallet_upsertWallet_self :
    (db.upsertWallet userId).findWallet userId = some (db.row userId) := by
  rw [findWallet_upsertWallet, if_pos rfl]

@[simp] theorem row_upsertWallet : (db.upsertWallet userId).row other = db.row other := by
  unfold row
  rw [findWallet_upsertWallet]
  by_cases same : other = userId
  · subst other
    rw [if_pos rfl]
    rfl
  · rw [if_neg same]

@[simp] theorem upsertWallet_transactions :
    (db.upsertWallet userId).transactions = db.transactions := by
  unfold upsertWallet
  split <;> rfl

@[simp] theorem upsertWallet_ledger : (db.upsertWallet userId).ledger = db.ledger := by
  unfold upsertWallet
  split <;> rfl

@[simp] theorem upsertWallet_reservations :
    (db.upsertWallet userId).reservations = db.reservations := by
  unfold upsertWallet
  split <;> rfl

@[simp] theorem nextTransactionId_upsertWallet :
    (db.upsertWallet userId).nextTransactionId = db.nextTransactionId := by
  unfold nextTransactionId
  rw [upsertWallet_transactions]

theorem updateWallet_of_found {db : Db} {userId : UserId} {wallet : Wallet}
    (found : db.findWallet userId = some wallet) (update : Wallet → Wallet) :
    db.updateWallet userId update = .ok (db.putWallet userId (update wallet)) := by
  unfold updateWallet
  rw [found]

theorem updateReservation_of_found {db : Db} {id : ReservationId}
    {reservation : WalletReservation} (found : db.findReservation id = some reservation)
    (status : ReservationStatus) :
    db.updateReservation id status =
      .ok { db with
        reservations := db.reservations.modify id fun row => { row with status := status } } := by
  unfold updateReservation
  rw [found]
  simp only [Except.ok.injEq, Db.mk.injEq, true_and]
  apply List.ext_getElem?
  intro position
  rw [List.getElem?_set, List.getElem?_modify]
  by_cases same : id = position
  · subst same
    have stored : db.reservations[id]? = some reservation := found
    obtain ⟨bound, _⟩ := List.getElem?_eq_some_iff.mp stored
    rw [if_pos rfl, if_pos bound, stored]
    simp
  · rw [if_neg same]
    simp [same]

theorem createTransaction_of_absent {db : Db} {header : WalletTransaction}
    (absent : db.transactions.Absent header.idempotencyKey) :
    db.createTransaction header =
      .ok { db with transactions := db.transactions.insert header absent } := by
  unfold createTransaction
  rw [UniqueTable.create_of_absent absent]

theorem createTransaction_of_taken {db : Db} {header : WalletTransaction}
    (taken : ¬db.transactions.Absent header.idempotencyKey) :
    db.createTransaction header = .error .uniqueConstraint := by
  unfold createTransaction
  rw [(UniqueTable.create_eq_none_iff db.transactions header).mpr taken]

theorem absent_of_createTransaction {db after : Db} {header : WalletTransaction}
    (created : db.createTransaction header = .ok after) :
    ∃ absent : db.transactions.Absent header.idempotencyKey,
      after = { db with transactions := db.transactions.insert header absent } := by
  by_cases absent : db.transactions.Absent header.idempotencyKey
  · rw [createTransaction_of_absent absent] at created
    exact ⟨absent, (Except.ok.inj created).symm⟩
  · rw [createTransaction_of_taken absent] at created
    cases created

theorem found_of_updateWallet {db after : Db} {userId : UserId} {update : Wallet → Wallet}
    (updated : db.updateWallet userId update = .ok after) :
    db.findWallet userId = some (db.row userId) ∧
      after = db.putWallet userId (update (db.row userId)) := by
  unfold updateWallet at updated
  cases found : db.findWallet userId with
  | none =>
      rw [found] at updated
      cases updated
  | some wallet =>
      rw [found] at updated
      rw [row_eq_of_findWallet found]
      exact ⟨rfl, (Except.ok.inj updated).symm⟩

/-! ### Tables that differ only in wallets not yet used -/

/-- The same balances, ledger, headers and reservations; the second may hold
untouched wallets that the first has not created yet. -/
structure Same (before after : Db) : Prop where
  row : ∀ userId, after.row userId = before.row userId
  transactions : after.transactions = before.transactions
  ledger : after.ledger = before.ledger
  reservations : after.reservations = before.reservations

theorem Same.refl (db : Db) : Same db db :=
  ⟨fun _ => rfl, rfl, rfl, rfl⟩

theorem Same.trans {first second third : Db} (front : Same first second)
    (back : Same second third) : Same first third :=
  ⟨fun userId => (back.row userId).trans (front.row userId),
    back.transactions.trans front.transactions,
    back.ledger.trans front.ledger,
    back.reservations.trans front.reservations⟩

theorem same_upsertWallet (db : Db) (userId : UserId) : Same db (db.upsertWallet userId) :=
  ⟨fun other => row_upsertWallet db userId other, upsertWallet_transactions db userId,
    upsertWallet_ledger db userId, upsertWallet_reservations db userId⟩

end Db

/-! ### What a committed transaction writes -/

/-- The net writes of one transaction: each user's row before and after, and
the rows appended to the ledger and to the transaction headers. -/
structure Writes where
  row : UserId → Wallet → Wallet
  entries : List LedgerEntry
  headers : List WalletTransaction
  reservations : List WalletReservation → List WalletReservation

def Writes.nothing : Writes :=
  { row := fun _ wallet => wallet
    entries := []
    headers := []
    reservations := id }

def onlyRow (userId : UserId) (update : Wallet → Wallet) : UserId → Wallet → Wallet :=
  fun other wallet => if other = userId then update wallet else wallet

@[simp] theorem onlyRow_self (userId : UserId) (update : Wallet → Wallet) (wallet : Wallet) :
    onlyRow userId update userId wallet = update wallet :=
  if_pos rfl

theorem onlyRow_other {userId other : UserId} (different : other ≠ userId)
    (update : Wallet → Wallet) (wallet : Wallet) :
    onlyRow userId update other wallet = wallet :=
  if_neg different

namespace Db

/-- The second tables are the first with the writes done, up to untouched
wallets created on the way. -/
structure Wrote (before after : Db) (writes : Writes) : Prop where
  row : ∀ userId, after.row userId = writes.row userId (before.row userId)
  ledger : after.ledger = before.ledger ++ writes.entries
  headers : after.transactions.rows = before.transactions.rows ++ writes.headers
  reservations : after.reservations = writes.reservations before.reservations

theorem row_putWallet_update (db : Db) (userId other : UserId) (update : Wallet → Wallet) :
    (db.putWallet userId (update (db.row userId))).row other =
      onlyRow userId update other (db.row other) := by
  rw [row_putWallet]
  by_cases same : other = userId
  · subst other
    rw [if_pos rfl, onlyRow_self]
  · rw [if_neg same, onlyRow_other same]

theorem Same.wrote_nothing {before after : Db} (same : Same before after) :
    Wrote before after Writes.nothing :=
  ⟨same.row, by rw [same.ledger]; exact (List.append_nil _).symm,
    by rw [same.transactions]; exact (List.append_nil _).symm, same.reservations⟩

theorem Wrote.same {before middle after : Db} {writes : Writes}
    (wrote : Wrote before middle writes) (same : Same middle after) : Wrote before after writes :=
  ⟨fun userId => by rw [same.row, wrote.row],
    by rw [same.ledger, wrote.ledger],
    by rw [same.transactions, wrote.headers],
    by rw [same.reservations, wrote.reservations]⟩

theorem Same.wrote {before middle after : Db} {writes : Writes} (same : Same before middle)
    (wrote : Wrote middle after writes) : Wrote before after writes :=
  ⟨fun userId => by rw [wrote.row, same.row],
    by rw [wrote.ledger, same.ledger],
    by rw [wrote.headers, same.transactions],
    by rw [wrote.reservations, same.reservations]⟩

end Db

end Soulzaa
