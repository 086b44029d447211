/-
Path A: WalletRepository.applyMovement and WalletService.debit/credit.

A movement writes the absolute balance it computed under the row lock, and for
GOLD recomputes the available aggregate from the reserved column.
-/

import Soulzaa.Lib.Binary64
import Soulzaa.Wallet.Validation

namespace Soulzaa

def toNumber (value : Int) : Int := Binary64.round value

def WalletEntryType.signed : WalletEntryType → Int → Int
  | .credit, amount => amount
  | .debit, amount => -amount

theorem WalletEntryType.signed_ne_zero (type : WalletEntryType) {amount : Int}
    (positive : 0 < amount) : type.signed amount ≠ 0 := by
  cases type <;> simp only [WalletEntryType.signed] <;> omega

structure ApplyMovementInput where
  userId : UserId
  currency : WalletCurrency
  type : WalletEntryType
  reason : WalletTxnReason
  amount : Int
  referenceType : Option String
  referenceId : Option String
  idempotencyKey : String
  actorId : Option UserId
  deriving DecidableEq, Repr

namespace Wallet

/-- `BALANCE_FIELD`, read. -/
def balance (wallet : Wallet) : WalletCurrency → Int
  | .gold => wallet.goldBalance
  | .diamond => wallet.diamondBalance
  | .game => wallet.gameBalance
  | .free => wallet.freeBalance
  | .earnings => wallet.earningsBalance

/-- `BALANCE_FIELD`, written. -/
def setBalance (wallet : Wallet) (currency : WalletCurrency) (value : Int) : Wallet :=
  match currency with
  | .gold => { wallet with goldBalance := value }
  | .diamond => { wallet with diamondBalance := value }
  | .game => { wallet with gameBalance := value }
  | .free => { wallet with freeBalance := value }
  | .earnings => { wallet with earningsBalance := value }

def withStatus (status : WalletStatus) (wallet : Wallet) : Wallet :=
  { wallet with status := status }

theorem balance_setBalance (wallet : Wallet) (currency other : WalletCurrency) (value : Int) :
    (wallet.setBalance currency value).balance other =
      if other = currency then value else wallet.balance other := by
  cases currency <;> cases other <;> rfl

@[simp] theorem balance_fresh (userId : UserId) (currency : WalletCurrency) :
    (Wallet.fresh userId).balance currency = 0 := by
  cases currency <;> rfl

end Wallet

namespace WalletRepository

def balanceBefore (locked : Wallet) (input : ApplyMovementInput) : Int :=
  locked.balance input.currency

def balanceAfter (locked : Wallet) (input : ApplyMovementInput) : Int :=
  balanceBefore locked input + input.type.signed input.amount

/-- The `data` of the wallet update, on the current row: the balance and the
GOLD aggregate, clamped at zero, are the absolute values computed from the
locked row; the version and the lifetime totals are incremented. -/
def writtenWallet (input : ApplyMovementInput) (locked current : Wallet) : Wallet :=
  let after := balanceAfter locked input
  let available := after - locked.reservedBalance
  let moved := current.setBalance input.currency after
  { moved with
    version := current.version + 1
    availableBalance :=
      if input.currency = .gold then (if 0 < available then available else 0)
      else current.availableBalance
    totalRecharged :=
      if input.reason = .recharge then current.totalRecharged + input.amount
      else current.totalRecharged
    totalGiftsSentValue :=
      if input.reason = .giftSend then current.totalGiftsSentValue + input.amount
      else current.totalGiftsSentValue
    totalGiftsReceivedValue :=
      if input.reason = .giftReceive ∧ input.currency = .diamond then
        current.totalGiftsReceivedValue + input.amount
      else current.totalGiftsReceivedValue
    totalSpent :=
      if input.type = .debit ∧ input.currency = .gold then current.totalSpent + input.amount
      else current.totalSpent }

def movedWallet (input : ApplyMovementInput) (wallet : Wallet) : Wallet :=
  writtenWallet input wallet wallet

def movementHeader (db : Db) (input : ApplyMovementInput) : WalletTransaction :=
  { id := db.nextTransactionId
    currency := input.currency
    amount := input.amount
    idempotencyKey := input.idempotencyKey
    referenceType := input.referenceType
    referenceId := input.referenceId
    createdBy := input.actorId
    transactionType := .transfer }

def movementEntry (db : Db) (locked : Wallet) (input : ApplyMovementInput) : LedgerEntry :=
  { transactionId := db.nextTransactionId
    walletId := input.userId
    currency := input.currency
    type := input.type
    reason := input.reason
    amount := input.amount
    balanceBefore := balanceBefore locked input
    balanceAfter := balanceAfter locked input
    referenceType := input.referenceType
    referenceId := input.referenceId
    actorId := input.actorId }

/-- The transaction from the row re-read under the lock on. -/
def applyLocked (input : ApplyMovementInput) (locked : Wallet) (db : Db) :
    Except Failure (Db × LedgerEntry) :=
  if locked.status ≠ .active then
    .error (.business .walletNotActive
      s!"Wallet is {locked.status.name} and cannot process operations." .forbidden)
  else if balanceAfter locked input < 0 then
    .error (.business .insufficientBalance
      "Insufficient balance for this transaction." .conflict)
  else do
    let entry := movementEntry db locked input
    let header := movementHeader db input
    let db ← db.updateWallet input.userId (writtenWallet input locked)
    let db ← db.createTransaction header
    .ok (db.createLedgerEntry entry, entry)

def applyMovement (db : Db) (input : ApplyMovementInput) : Except Failure (Db × LedgerEntry) :=
  let db := db.upsertWallet input.userId
  match db.findWallet input.userId with
  | none => .error .recordNotFound
  | some locked => applyLocked input locked db

def Posts (db : Db) (input : ApplyMovementInput) : Prop :=
  (db.row input.userId).status = .active ∧
    0 ≤ balanceAfter (db.row input.userId) input ∧
    db.transactions.Absent input.idempotencyKey

instance (db : Db) (input : ApplyMovementInput) : Decidable (Posts db input) :=
  inferInstanceAs (Decidable (_ ∧ _ ∧ _))

@[simp] theorem movementHeader_upsertWallet (db : Db) (userId : UserId)
    (input : ApplyMovementInput) :
    movementHeader (db.upsertWallet userId) input = movementHeader db input := by
  simp only [movementHeader, Db.nextTransactionId_upsertWallet]

@[simp] theorem movementEntry_upsertWallet (db : Db) (userId : UserId) (locked : Wallet)
    (input : ApplyMovementInput) :
    movementEntry (db.upsertWallet userId) locked input = movementEntry db locked input := by
  simp only [movementEntry, Db.nextTransactionId_upsertWallet]

def posted (db : Db) (input : ApplyMovementInput)
    (absent : db.transactions.Absent input.idempotencyKey) : Db :=
  { db.putWallet input.userId (movedWallet input (db.row input.userId)) with
    transactions := db.transactions.insert (movementHeader db input) absent
    ledger := db.ledger ++ [movementEntry db (db.row input.userId) input] }

def movementWrites (db : Db) (input : ApplyMovementInput) : Writes :=
  { row := onlyRow input.userId (movedWallet input)
    entries := [movementEntry db (db.row input.userId) input]
    headers := [movementHeader db input]
    reservations := id }

theorem movementWrites_congr {before after : Db} (same : Db.Same before after)
    (input : ApplyMovementInput) : movementWrites after input = movementWrites before input := by
  simp only [movementWrites, movementEntry, movementHeader, Db.nextTransactionId, same.row,
    same.transactions]

theorem posted_wrote (db : Db) (input : ApplyMovementInput)
    (absent : db.transactions.Absent input.idempotencyKey) :
    db.Wrote (posted db input absent) (movementWrites db input) := by
  exact ⟨fun other => Db.row_putWallet_update db input.userId other (movedWallet input),
    rfl, rfl, rfl⟩

/-- Locking finds the row, or the one the upsert has just created. -/
theorem applyMovement_eq (db : Db) (input : ApplyMovementInput) :
    applyMovement db input =
      applyLocked input (db.row input.userId) (db.upsertWallet input.userId) := by
  simp only [applyMovement, Db.findWallet_upsertWallet_self]

theorem applyLocked_of_posts {db : Db} {input : ApplyMovementInput} (posts : Posts db input) :
    applyLocked input (db.row input.userId) (db.upsertWallet input.userId) =
      .ok (posted db input posts.2.2, movementEntry db (db.row input.userId) input) := by
  obtain ⟨active, funded, absent⟩ := posts
  have found := Db.findWallet_upsertWallet_self db input.userId
  have notShort : ¬balanceAfter (db.row input.userId) input < 0 := Int.not_lt.mpr funded
  simp only [applyLocked, active, ne_eq, not_true_eq_false, if_false, notShort,
    Db.updateWallet_of_found found, ok_bind, Db.putWallet_upsertWallet,
    movementHeader_upsertWallet, movementEntry_upsertWallet]
  rw [Db.createTransaction_of_absent (by exact absent)]
  rfl

theorem applyLocked_of_not_posts {db : Db} {input : ApplyMovementInput}
    (refused : ¬Posts db input) :
    ∃ failure,
      applyLocked input (db.row input.userId) (db.upsertWallet input.userId) =
        .error failure := by
  have found := Db.findWallet_upsertWallet_self db input.userId
  unfold applyLocked
  by_cases active : (db.row input.userId).status = .active
  · rw [if_neg (not_not.mpr active)]
    by_cases funded : 0 ≤ balanceAfter (db.row input.userId) input
    · have taken : ¬db.transactions.Absent input.idempotencyKey :=
        fun absent => refused ⟨active, funded, absent⟩
      refine ⟨.uniqueConstraint, ?_⟩
      rw [if_neg (Int.not_lt.mpr funded)]
      simp only [Db.updateWallet_of_found found, ok_bind, Db.putWallet_upsertWallet,
        movementHeader_upsertWallet]
      rw [Db.createTransaction_of_taken (by exact taken)]
      rfl
    · exact ⟨_, if_pos (Int.not_le.mp funded)⟩
  · exact ⟨_, if_pos active⟩

theorem applyMovement_of_posts {db : Db} {input : ApplyMovementInput} (posts : Posts db input) :
    applyMovement db input =
      .ok (posted db input posts.2.2, movementEntry db (db.row input.userId) input) := by
  rw [applyMovement_eq, applyLocked_of_posts posts]

theorem applyMovement_of_not_posts {db : Db} {input : ApplyMovementInput}
    (refused : ¬Posts db input) : ∃ failure, applyMovement db input = .error failure := by
  rw [applyMovement_eq]
  exact applyLocked_of_not_posts refused

end WalletRepository

/-! ### WalletService -/

/-- What a debit or credit returns; `duplicate` marks an idempotent replay. -/
structure WalletMovementResult where
  transactionId : TransactionId
  currency : WalletCurrency
  balanceAfter : Int
  duplicate : Bool
  deriving DecidableEq, Repr

namespace WalletService

def getOrCreateWallet (db : Db) (userId : UserId) : Db × Wallet :=
  match db.findWallet userId with
  | some wallet => (db, wallet)
  | none => (db.putWallet userId (Wallet.fresh userId), Wallet.fresh userId)

def ensureWallet (db : Db) (userId : UserId) : Db :=
  db.upsertWallet userId

def getWalletById (db : Db) (walletId : UserId) : Except Failure Wallet :=
  match db.findWallet walletId with
  | some wallet => .ok wallet
  | none => .error (.notFound s!"Wallet '{walletId}' not found")

def updateWalletStatus (db : Db) (walletId : UserId) (status : WalletStatus) :
    Db × Except Failure Wallet :=
  match getWalletById db walletId with
  | .error failure => (db, .error failure)
  | .ok wallet =>
      let updated := wallet.withStatus status
      (db.putWallet walletId updated, .ok updated)

def movementInput (type : WalletEntryType) (input : WalletMovementInput) : ApplyMovementInput :=
  { userId := input.userId
    currency := input.currency
    type := type
    reason := input.reason
    amount := input.amount
    referenceType := input.referenceType
    referenceId := input.referenceId
    idempotencyKey := input.idempotencyKey
    actorId := some (input.actorId.getD input.userId) }

/-- The checks before anything is read; an economy freeze stops debits only. -/
def validateMove (platform : Platform) (type : WalletEntryType) (input : WalletMovementInput) :
    Except Failure Unit :=
  if input.amount ≤ 0 then
    .error (.business .invalidAmount "Amount must be a positive integer." .badRequest)
  else
    match type with
    | .debit => WalletValidationService.validateEconomyStatus platform
    | .credit => .ok ()

/-- The stored result of a key already used, with the balance held now. -/
def replay (db : Db) (input : WalletMovementInput) : Option WalletMovementResult :=
  (db.findByIdempotencyKey input.idempotencyKey).map fun existing =>
    { transactionId := existing.id
      currency := existing.currency
      balanceAfter := toNumber
        (match db.findWallet input.userId with
        | some wallet => wallet.balance input.currency
        | none => 0)
      duplicate := true }

def applyMove (db : Db) (type : WalletEntryType) (input : WalletMovementInput) :
    Except Failure (Db × WalletMovementResult) := do
  let (db, entry) ← WalletRepository.applyMovement db (movementInput type input)
  .ok (db,
    { transactionId := entry.transactionId
      currency := entry.currency
      balanceAfter := toNumber entry.balanceAfter
      duplicate := false })

def move (platform : Platform) (db : Db) (type : WalletEntryType)
    (input : WalletMovementInput) : Db × Except Failure WalletMovementResult :=
  match validateMove platform type input with
  | .error failure => (db, .error failure)
  | .ok () =>
      match replay db input with
      | some result => (db, .ok result)
      | none =>
          match applyMove db type input with
          | .ok (after, result) => (after, .ok result)
          | .error failure => (db, .error failure)

def debit (platform : Platform) (db : Db) (input : WalletMovementInput) :
    Db × Except Failure WalletMovementResult :=
  move platform db .debit input

def credit (platform : Platform) (db : Db) (input : WalletMovementInput) :
    Db × Except Failure WalletMovementResult :=
  move platform db .credit input

theorem getOrCreateWallet_eq (db : Db) (userId : UserId) :
    getOrCreateWallet db userId = (db.upsertWallet userId, db.row userId) := by
  unfold getOrCreateWallet Db.upsertWallet Db.row
  cases db.findWallet userId <;> rfl

theorem validateMove_ok_iff (platform : Platform) (type : WalletEntryType)
    (input : WalletMovementInput) :
    validateMove platform type input = .ok () ↔
      0 < input.amount ∧ (type = .debit → platform.Open) := by
  unfold validateMove
  by_cases positive : 0 < input.amount
  · rw [if_neg (Int.not_le.mpr positive)]
    cases type with
    | credit => simp [positive]
    | debit => simp [positive, WalletValidationService.validateEconomyStatus_ok_iff]
  · simp [positive, Int.not_lt.mp positive]

def Posts (platform : Platform) (db : Db) (type : WalletEntryType)
    (input : WalletMovementInput) : Prop :=
  (0 < input.amount ∧ (type = .debit → platform.Open)) ∧
    WalletRepository.Posts db (movementInput type input)

instance (platform : Platform) (db : Db) (type : WalletEntryType)
    (input : WalletMovementInput) : Decidable (Posts platform db type input) :=
  inferInstanceAs (Decidable (_ ∧ _))

theorem replay_eq_none_iff (db : Db) (input : WalletMovementInput) :
    replay db input = none ↔ db.transactions.Absent input.idempotencyKey := by
  unfold replay Db.findByIdempotencyKey
  rw [Option.map_eq_none_iff, UniqueTable.find?_eq_none_iff]

theorem move_of_posts {platform : Platform} {db : Db} {type : WalletEntryType}
    {input : WalletMovementInput} (posts : Posts platform db type input) :
    (move platform db type input).1 =
      WalletRepository.posted db (movementInput type input) posts.2.2.2 := by
  obtain ⟨allowed, movement⟩ := posts
  simp only [move, (validateMove_ok_iff platform type input).mpr allowed,
    (replay_eq_none_iff db input).mpr movement.2.2, applyMove,
    WalletRepository.applyMovement_of_posts movement, ok_bind]

theorem move_of_not_posts {platform : Platform} {db : Db} {type : WalletEntryType}
    {input : WalletMovementInput} (refused : ¬Posts platform db type input) :
    (move platform db type input).1 = db := by
  unfold move
  cases checked : validateMove platform type input with
  | error failure => rfl
  | ok passed =>
      have allowed := (validateMove_ok_iff platform type input).mp checked
      cases replay db input with
      | some result => rfl
      | none =>
          obtain ⟨failure, failed⟩ := WalletRepository.applyMovement_of_not_posts
            (fun movement => refused ⟨allowed, movement⟩)
          simp only [applyMove, failed, error_bind]

/-- A movement that is answered under a new key has been posted. -/
theorem posts_of_move_ok {platform : Platform} {db after : Db} {type : WalletEntryType}
    {input : WalletMovementInput} {result : WalletMovementResult}
    (moved : move platform db type input = (after, .ok result))
    (absent : db.transactions.Absent input.idempotencyKey) : Posts platform db type input := by
  unfold move at moved
  cases checked : validateMove platform type input with
  | error failure =>
      rw [checked] at moved
      cases moved
  | ok passed =>
      refine ⟨(validateMove_ok_iff platform type input).mp checked, ?_⟩
      by_contra refused
      obtain ⟨failure, failed⟩ := WalletRepository.applyMovement_of_not_posts refused
      simp only [checked, (replay_eq_none_iff db input).mpr absent, applyMove, failed,
        error_bind] at moved
      cases moved

/-- What a movement answered under a new key writes. -/
theorem wrote_of_move_ok {platform : Platform} {db after : Db} {type : WalletEntryType}
    {input : WalletMovementInput} {result : WalletMovementResult}
    (moved : move platform db type input = (after, .ok result))
    (absent : db.transactions.Absent input.idempotencyKey) :
    0 < input.amount ∧
      db.Wrote after (WalletRepository.movementWrites db (movementInput type input)) := by
  have posts := posts_of_move_ok moved absent
  refine ⟨posts.1.1, ?_⟩
  have written := move_of_posts posts
  rw [moved] at written
  rw [show after = _ from written]
  exact WalletRepository.posted_wrote _ _ _

theorem unmoved_of_taken {platform : Platform} {db after : Db} {type : WalletEntryType}
    {input : WalletMovementInput} {result : Except Failure WalletMovementResult}
    (moved : move platform db type input = (after, result))
    (taken : ¬db.transactions.Absent input.idempotencyKey) : after = db := by
  have unposted : ¬Posts platform db type input := fun posts => taken posts.2.2.2
  have unmoved := move_of_not_posts unposted
  rw [moved] at unmoved
  exact unmoved

theorem unmoved_of_error {platform : Platform} {db after : Db} {type : WalletEntryType}
    {input : WalletMovementInput} {failure : Failure}
    (moved : move platform db type input = (after, .error failure)) : after = db := by
  unfold move at moved
  split at moved
  · cases moved
    rfl
  · split at moved
    · cases moved
    · split at moved
      · cases moved
      · cases moved
        rfl

/-- A movement is answered when it posts, and when its key has been used. -/
theorem answered_iff {platform : Platform} {db : Db} {type : WalletEntryType}
    {input : WalletMovementInput} :
    (∃ after result, move platform db type input = (after, .ok result)) ↔
      (0 < input.amount ∧ (type = .debit → platform.Open)) ∧
        (WalletRepository.Posts db (movementInput type input) ∨
          ¬db.transactions.Absent input.idempotencyKey) := by
  rw [← validateMove_ok_iff]
  unfold move
  cases checked : validateMove platform type input with
  | error failure => simp
  | ok passed =>
      cases replayed : replay db input with
      | some result =>
          have taken : ¬db.transactions.Absent input.idempotencyKey := by
            rw [← replay_eq_none_iff, replayed]
            exact Option.some_ne_none result
          simp [taken]
      | none =>
          have absent := (replay_eq_none_iff db input).mp replayed
          by_cases posts : WalletRepository.Posts db (movementInput type input)
          · simp [applyMove, WalletRepository.applyMovement_of_posts posts, ok_bind, posts]
          · obtain ⟨failure, failed⟩ := WalletRepository.applyMovement_of_not_posts posts
            simp [applyMove, failed, error_bind, posts, absent]

/-- The row a movement adds, if it posts. -/
theorem ledger_of_move (platform : Platform) (db : Db) (type : WalletEntryType)
    (input : WalletMovementInput) :
    (move platform db type input).1.ledger =
      db.ledger ++
        if Posts platform db type input then
          [WalletRepository.movementEntry db (db.row input.userId) (movementInput type input)]
        else [] := by
  by_cases posts : Posts platform db type input
  · rw [move_of_posts posts, if_pos posts]
    exact (WalletRepository.posted_wrote db (movementInput type input) posts.2.2.2).ledger
  · rw [move_of_not_posts posts, if_neg posts, List.append_nil]

/-! ### Ledger rows of one cause -/

/-- The row names the cause of the movement. -/
structure IsCausedBy (input : WalletMovementInput) (entry : LedgerEntry) : Prop where
  reason : entry.reason = input.reason
  referenceType : entry.referenceType = input.referenceType
  referenceId : entry.referenceId = input.referenceId

structure IsMovementOf (type : WalletEntryType) (input : WalletMovementInput)
    (entry : LedgerEntry) : Prop extends IsCausedBy input entry where
  walletId : entry.walletId = input.userId
  type : entry.type = type
  currency : entry.currency = input.currency
  amount : entry.amount = input.amount

variable {platform : Platform} {db after : Db} {type : WalletEntryType}
  {input : WalletMovementInput} {selects : LedgerEntry → Bool}

/-- A movement leaves keys of another name and rows of another cause. -/
theorem leaves_of_move {result : Except Failure WalletMovementResult}
    (moved : move platform db type input = (after, result)) {key : String}
    (otherKey : input.idempotencyKey ≠ key)
    (unselected : ∀ entry, IsCausedBy input entry → selects entry = false) :
    after.ledger.filter selects = db.ledger.filter selects ∧
      (after.transactions.Absent key ↔ db.transactions.Absent key) := by
  have isAfter : (move platform db type input).1 = after := congrArg Prod.fst moved
  by_cases posts : Posts platform db type input
  · rw [move_of_posts posts] at isAfter
    have wrote := WalletRepository.posted_wrote db (movementInput type input) posts.2.2.2
    rw [isAfter] at wrote
    constructor
    · rw [wrote.ledger, List.filter_append]
      unfold WalletRepository.movementWrites
      dsimp only
      rw [List.filter_cons_of_neg, List.filter_nil, List.append_nil]
      rw [unselected _ ⟨rfl, rfl, rfl⟩]
      exact Bool.false_ne_true
    · unfold UniqueTable.Absent
      rw [wrote.headers, List.map_append, List.mem_append, not_or]
      apply and_iff_left
      intro isNew
      exact otherKey (List.mem_singleton.mp isNew).symm
  · rw [move_of_not_posts posts] at isAfter
    rw [isAfter]
    exact ⟨rfl, Iff.rfl⟩

/-- A movement answered under a new key adds its row, and the key is taken. -/
theorem row_of_move_ok {result : WalletMovementResult}
    (moved : move platform db type input = (after, .ok result))
    (absent : db.transactions.Absent input.idempotencyKey)
    (selected : ∀ entry, IsMovementOf type input entry → selects entry = true) :
    ¬after.transactions.Absent input.idempotencyKey ∧
      ∃ entry, IsMovementOf type input entry ∧
        after.ledger.filter selects = db.ledger.filter selects ++ [entry] := by
  have wrote := (wrote_of_move_ok moved absent).2
  constructor
  · intro still
    apply still
    rw [wrote.headers, List.map_append]
    exact List.mem_append_right _ (List.mem_singleton_self _)
  · have isMovement : IsMovementOf type input
        (WalletRepository.movementEntry db (db.row (movementInput type input).userId)
          (movementInput type input)) :=
      ⟨⟨rfl, rfl, rfl⟩, rfl, rfl, rfl, rfl⟩
    refine ⟨_, isMovement, ?_⟩
    rw [wrote.ledger, List.filter_append]
    unfold WalletRepository.movementWrites
    dsimp only
    rw [List.filter_cons_of_pos (selected _ isMovement), List.filter_nil]

end WalletService

end Soulzaa
