/-
Path B: WalletTransactionService.

The four public methods run the same lines around their transaction: economy
and amount checks, the idempotency look-up, fetching or creating the wallets,
the checks on the rows read, the transaction, and the recovery of a lost
insertion race.  `Request` holds what differs and `perform` is those lines.
-/

import Soulzaa.Wallet.Movement

namespace Soulzaa

inductive TransactionResponse where
  | movement (transactionId : TransactionId) (idempotencyKey : String)
      (type : WalletEntryType) (amount balanceBefore balanceAfter availableBalance : String)
      (status : TransactionStatus)
  | transfer (transactionId : TransactionId) (idempotencyKey : String)
      (amount senderAvailableBalance recipientAvailableBalance : String)
      (status : TransactionStatus)
  | replay (transactionId : TransactionId) (idempotencyKey : String)
      (type : TransactionType) (amount : String) (status : TransactionStatus)
  deriving DecidableEq, Repr

def TransactionResponse.isDuplicateReplay : TransactionResponse → Bool
  | .replay .. => true
  | _ => false

namespace WalletTransactionService

open WalletService (getOrCreateWallet)
open WalletValidationService

/-! ### The lines all four methods share -/

structure Request where
  idempotencyKey : String
  amount : Int
  /-- Whose wallets are fetched, or created, before the transaction. -/
  owners : List UserId
  /-- The checks on the rows read before the transaction. -/
  validate : (UserId → Wallet) → Except Failure Unit
  transaction : Db → Except Failure (Db × TransactionResponse)

def formatTransactionResponse (header : WalletTransaction) : TransactionResponse :=
  .replay header.id header.idempotencyKey header.transactionType (toString header.amount)
    header.status

/-- Everything before the wallets are touched; `some` is an idempotent replay. -/
def precheck (platform : Platform) (db : Db) (request : Request) :
    Except Failure (Option TransactionResponse) := do
  validateEconomyStatus platform
  validatePositiveAmount request.amount
  .ok ((db.findByIdempotencyKey request.idempotencyKey).map formatTransactionResponse)

def getOrCreateWallets (db : Db) (owners : List UserId) : Db :=
  owners.foldl (fun db owner => (getOrCreateWallet db owner).1) db

/-- A unique-key failure is answered with the winner's transaction. -/
def recoverDuplicate (db : Db) (idempotencyKey : String) (failure : Failure) :
    Option TransactionResponse :=
  if failure = .uniqueConstraint then
    (db.findByIdempotencyKey idempotencyKey).map formatTransactionResponse
  else none

def recovered (db : Db) (idempotencyKey : String) (failure : Failure) :
    Except Failure TransactionResponse :=
  match recoverDuplicate db idempotencyKey failure with
  | some response => .ok response
  | none => .error failure

def perform (platform : Platform) (db : Db) (request : Request) :
    Db × Except Failure TransactionResponse :=
  match precheck platform db request with
  | .error failure => (db, .error failure)
  | .ok (some response) => (db, .ok response)
  | .ok none =>
      let ready := getOrCreateWallets db request.owners
      match request.validate ready.row with
      | .error failure => (ready, .error failure)
      | .ok () =>
          match request.transaction ready with
          | .ok (after, response) => (after, .ok response)
          | .error failure => (ready, recovered ready request.idempotencyKey failure)

def Request.Posts (platform : Platform) (db : Db) (request : Request) : Prop :=
  platform.Open ∧ 0 < request.amount ∧ db.transactions.Absent request.idempotencyKey ∧
    request.validate db.row = .ok ()

instance (platform : Platform) (db : Db) (request : Request) :
    Decidable (request.Posts platform db) :=
  inferInstanceAs (Decidable (_ ∧ _ ∧ _ ∧ _))

theorem precheck_eq_none_iff (platform : Platform) (db : Db) (request : Request) :
    precheck platform db request = .ok none ↔
      platform.Open ∧ 0 < request.amount ∧ db.transactions.Absent request.idempotencyKey := by
  unfold precheck
  rw [← validateEconomyStatus_ok_iff, ← validatePositiveAmount_ok_iff,
    ← UniqueTable.find?_eq_none_iff]
  cases validateEconomyStatus platform with
  | error failure => simp
  | ok opened =>
      cases validatePositiveAmount request.amount with
      | error failure => simp
      | ok positive => simp [Db.findByIdempotencyKey]

theorem precheck_replays {platform : Platform} {db : Db} {request : Request}
    {response : TransactionResponse}
    (replayed : precheck platform db request = .ok (some response)) :
    response.isDuplicateReplay = true := by
  obtain ⟨_, _, afterStatus⟩ := bind_eq_ok.mp replayed
  obtain ⟨_, _, found⟩ := bind_eq_ok.mp afterStatus
  obtain ⟨header, _, rfl⟩ := Option.map_eq_some_iff.mp (Except.ok.inj found)
  rfl

theorem same_getOrCreateWallets (db : Db) (owners : List UserId) :
    Db.Same db (getOrCreateWallets db owners) := by
  induction owners generalizing db with
  | nil => exact Db.Same.refl db
  | cons owner rest ih =>
      have first : Db.Same db (getOrCreateWallet db owner).1 := by
        rw [WalletService.getOrCreateWallet_eq]
        exact Db.same_upsertWallet db owner
      exact first.trans (ih _)

theorem findWallet_getOrCreateWallets_of_found {db : Db} {userId : UserId} {wallet : Wallet}
    (found : db.findWallet userId = some wallet) (owners : List UserId) :
    (getOrCreateWallets db owners).findWallet userId = some wallet := by
  induction owners generalizing db with
  | nil => exact found
  | cons owner rest ih =>
      apply ih
      change (getOrCreateWallet db owner).1.findWallet userId = some wallet
      rw [WalletService.getOrCreateWallet_eq, Db.findWallet_upsertWallet]
      by_cases same : userId = owner
      · subst userId
        rw [if_pos rfl, Db.row_eq_of_findWallet found]
      · rw [if_neg same, found]

theorem findWallet_getOrCreateWallets (db : Db) (owners : List UserId) (owner : UserId)
    (member : owner ∈ owners) :
    (getOrCreateWallets db owners).findWallet owner = some (db.row owner) := by
  induction owners generalizing db with
  | nil => cases member
  | cons head rest ih =>
      have created : (getOrCreateWallet db head).1 = db.upsertWallet head := by
        rw [WalletService.getOrCreateWallet_eq]
      change (getOrCreateWallets (getOrCreateWallet db head).1 rest).findWallet owner = _
      rw [created]
      rcases List.mem_cons.mp member with same | later
      · subst owner
        -- Later owners may be the same user again; they find the wallet.
        apply findWallet_getOrCreateWallets_of_found
        exact Db.findWallet_upsertWallet_self db head
      · rw [ih (db.upsertWallet head) later, Db.row_upsertWallet]

theorem row_getOrCreateWallets (db : Db) (owners : List UserId) :
    (getOrCreateWallets db owners).row = db.row :=
  funext (same_getOrCreateWallets db owners).row

theorem perform_of_posts {platform : Platform} {db : Db} {request : Request}
    (posts : request.Posts platform db) {after : Db} {response : TransactionResponse}
    (committed : request.transaction (getOrCreateWallets db request.owners) =
      .ok (after, response)) :
    perform platform db request = (after, .ok response) := by
  obtain ⟨opened, positive, absent, valid⟩ := posts
  simp only [perform,
    (precheck_eq_none_iff platform db request).mpr ⟨opened, positive, absent⟩,
    row_getOrCreateWallets, valid, committed]

theorem perform_of_not_posts {platform : Platform} {db : Db} {request : Request}
    (refused : ¬request.Posts platform db) : Db.Same db (perform platform db request).1 := by
  unfold perform
  cases checked : precheck platform db request with
  | error failure => exact Db.Same.refl db
  | ok replayed =>
      cases replayed with
      | some response => exact Db.Same.refl db
      | none =>
          obtain ⟨opened, positive, absent⟩ :=
            (precheck_eq_none_iff platform db request).mp checked
          simp only [row_getOrCreateWallets]
          cases valid : request.validate db.row with
          | error failure => exact same_getOrCreateWallets db request.owners
          | ok passed => exact absurd ⟨opened, positive, absent, valid⟩ refused

/-- A request that does not reach its transaction is answered, if at all, by a replay. -/
theorem perform_replay_of_not_posts {platform : Platform} {db : Db} {request : Request}
    (refused : ¬request.Posts platform db) {response : TransactionResponse}
    (answered : (perform platform db request).2 = .ok response) :
    response.isDuplicateReplay = true := by
  unfold perform at answered
  cases checked : precheck platform db request with
  | error failure =>
      rw [checked] at answered
      cases answered
  | ok replayed =>
      rw [checked] at answered
      cases replayed with
      | some earlier =>
          obtain rfl : earlier = response := Except.ok.inj answered
          exact precheck_replays checked
      | none =>
          obtain ⟨opened, positive, absent⟩ :=
            (precheck_eq_none_iff platform db request).mp checked
          simp only [row_getOrCreateWallets] at answered
          cases valid : request.validate db.row with
          | error failure =>
              rw [valid] at answered
              cases answered
          | ok passed => exact absurd ⟨opened, positive, absent, valid⟩ refused

/-! ### creditWallet, debitWallet, reverseWallet -/

/-- The columns the `data` of the update names.  A column moves only when the
request names its currency: an omitted currency, FREE and EARNINGS move none. -/
def adjusted (currency : Option WalletCurrency) (delta : Int) (wallet : Wallet) : Wallet :=
  { wallet with
    availableBalance :=
      if currency = some .gold then wallet.availableBalance + delta else wallet.availableBalance
    goldBalance :=
      if currency = some .gold then wallet.goldBalance + delta else wallet.goldBalance
    gameBalance :=
      if currency = some .game then wallet.gameBalance + delta else wallet.gameBalance
    diamondBalance :=
      if currency = some .diamond then wallet.diamondBalance + delta
      else wallet.diamondBalance
    version := wallet.version + 1 }

/-- Debits and reversals also count towards the total spent. -/
def postedWallet (type : WalletEntryType) (dto : CreditWalletDto) (wallet : Wallet) : Wallet :=
  let moved := adjusted dto.currency (type.signed dto.amount) wallet
  match type with
  | .credit => moved
  | .debit => { moved with totalSpent := wallet.totalSpent + dto.amount }

structure Method where
  type : WalletEntryType
  transactionType : TransactionType
  reason : WalletTxnReason
  description : String
  validate : Wallet → Except Failure Unit

def walletHeader (method : Method) (dto : CreditWalletDto) (actorId : Option UserId)
    (db : Db) : WalletTransaction :=
  { id := db.nextTransactionId
    transactionType := method.transactionType
    status := .completed
    sourceWalletId := if method.type = .debit then some dto.userId else none
    destinationWalletId := if method.type = .credit then some dto.userId else none
    currency := dto.currency.getD .gold
    amount := dto.amount
    idempotencyKey := dto.idempotencyKey
    referenceType := dto.referenceType
    referenceId := dto.referenceId
    createdBy := actorId }

/-- Both snapshots are taken from the available aggregate. -/
def walletEntry (method : Method) (dto : CreditWalletDto) (actorId : Option UserId)
    (db : Db) (freshWallet : Wallet) : LedgerEntry :=
  { transactionId := db.nextTransactionId
    walletId := dto.userId
    type := method.type
    currency := dto.currency.getD .gold
    reason := method.reason
    amount := dto.amount
    balanceBefore := freshWallet.availableBalance
    balanceAfter := freshWallet.availableBalance + method.type.signed dto.amount
    referenceType := dto.referenceType
    referenceId := dto.referenceId
    description := some method.description
    actorId := actorId }

/-- The transaction from the row re-read under the lock on. -/
def postLocked (method : Method) (dto : CreditWalletDto) (actorId : Option UserId)
    (freshWallet : Wallet) (db : Db) : Except Failure (Db × TransactionResponse) := do
  method.validate freshWallet
  let header := walletHeader method dto actorId db
  let entry := walletEntry method dto actorId db freshWallet
  let db ← db.createTransaction header
  let db ← db.updateWallet dto.userId (postedWallet method.type dto)
  .ok (db.createLedgerEntry entry,
    .movement header.id header.idempotencyKey method.type (toString dto.amount)
      (toString entry.balanceBefore) (toString entry.balanceAfter)
      (toString (db.row dto.userId).availableBalance) header.status)

def postWallet (method : Method) (dto : CreditWalletDto) (actorId : Option UserId)
    (db : Db) : Except Failure (Db × TransactionResponse) :=
  match db.findWallet dto.userId with
  | none => .error (.notFound "Wallet not found")
  | some freshWallet => postLocked method dto actorId freshWallet db

def walletRequest (method : Method) (dto : CreditWalletDto) (actorId : Option UserId) :
    Request :=
  { idempotencyKey := dto.idempotencyKey
    amount := dto.amount
    owners := [dto.userId]
    validate := fun row => method.validate (row dto.userId)
    transaction := postWallet method dto actorId }

def creditMethod (dto : CreditWalletDto) : Method :=
  { type := .credit
    transactionType := .deposit
    reason := dto.reason.getD .adminCredit
    description := dto.description.getD "Wallet Credited"
    validate := validateWalletActive }

def debitMethod (dto : DebitWalletDto) : Method :=
  { type := .debit
    transactionType := .withdrawal
    reason := dto.reason.getD .adminDebit
    description := dto.description.getD "Wallet Debited"
    validate := fun wallet => do
      validateWalletActive wallet
      validateSufficientBalance wallet dto.amount dto.currency }

/-- Neither the status nor the balance is checked: a claw-back must not fail
on spent coins or a suspended wallet. -/
def reverseMethod (dto : DebitWalletDto) : Method :=
  { type := .debit
    transactionType := .withdrawal
    reason := .purchaseReversal
    description := dto.description.getD "Purchase reversed"
    validate := fun _ => .ok () }

def creditWallet (platform : Platform) (db : Db) (dto : CreditWalletDto)
    (actorId : Option UserId) : Db × Except Failure TransactionResponse :=
  perform platform db (walletRequest (creditMethod dto) dto actorId)

def debitWallet (platform : Platform) (db : Db) (dto : DebitWalletDto)
    (actorId : Option UserId) : Db × Except Failure TransactionResponse :=
  perform platform db (walletRequest (debitMethod dto) dto actorId)

def validateReversal (dto : DebitWalletDto) : Except Failure Unit :=
  if dto.reason ≠ some .purchaseReversal then
    .error (.badRequest ("reverseWallet is restricted to PURCHASE_REVERSAL; " ++
      "use debitWallet for every other debit"))
  else
    .ok ()

def reverseWallet (platform : Platform) (db : Db) (dto : DebitWalletDto)
    (actorId : Option UserId) : Db × Except Failure TransactionResponse :=
  match validateReversal dto with
  | .error failure => (db, .error failure)
  | .ok () => perform platform db (walletRequest (reverseMethod dto) dto actorId)

def walletWrites (method : Method) (dto : CreditWalletDto) (actorId : Option UserId)
    (db : Db) : Writes :=
  { row := onlyRow dto.userId (postedWallet method.type dto)
    entries := [walletEntry method dto actorId db (db.row dto.userId)]
    headers := [walletHeader method dto actorId db]
    reservations := id }

theorem postWallet_of_found {method : Method} {dto : CreditWalletDto}
    (actorId : Option UserId) {db : Db} {freshWallet : Wallet}
    (found : db.findWallet dto.userId = some freshWallet)
    (valid : method.validate freshWallet = .ok ())
    (absent : db.transactions.Absent dto.idempotencyKey) :
    ∃ after response, postWallet method dto actorId db = .ok (after, response) ∧
      db.Wrote after (walletWrites method dto actorId db) := by
  have sameRow : db.row dto.userId = freshWallet := Db.row_eq_of_findWallet found
  simp only [postWallet, postLocked, found, valid, ok_bind]
  rw [Db.createTransaction_of_absent (by exact absent)]
  simp only [ok_bind]
  rw [Db.updateWallet_of_found (by exact found)]
  refine ⟨_, _, rfl, ?_, ?_, rfl, rfl⟩
  · intro other
    rw [← sameRow]
    exact Db.row_putWallet_update db dto.userId other (postedWallet method.type dto)
  · simp only [Db.createLedgerEntry, Db.putWallet, walletWrites, sameRow]

/-- A transaction that commits on the current row had an unused key and made
exactly its writes. -/
theorem wrote_of_postLocked {method : Method} {dto : CreditWalletDto}
    {actorId : Option UserId} {db after : Db} {response : TransactionResponse}
    (committed : postLocked method dto actorId (db.row dto.userId) db = .ok (after, response)) :
    db.transactions.Absent dto.idempotencyKey ∧
      db.Wrote after (walletWrites method dto actorId db) := by
  obtain ⟨_, valid, afterChecks⟩ := bind_eq_ok.mp committed
  obtain ⟨created, createdOk, afterHeader⟩ := bind_eq_ok.mp afterChecks
  obtain ⟨absent, rfl⟩ := Db.absent_of_createTransaction createdOk
  obtain ⟨updated, updatedOk, _⟩ := bind_eq_ok.mp afterHeader
  have found : db.findWallet dto.userId = some (db.row dto.userId) :=
    (Db.found_of_updateWallet updatedOk).1
  obtain ⟨other, otherResponse, posted, wrote⟩ := postWallet_of_found actorId found valid absent
  simp only [postWallet, found, committed, Except.ok.injEq, Prod.mk.injEq] at posted
  rw [posted.1]
  exact ⟨absent, wrote⟩

theorem walletWrites_congr {before after : Db} (same : Db.Same before after) (method : Method)
    (dto : CreditWalletDto) (actorId : Option UserId) :
    walletWrites method dto actorId after = walletWrites method dto actorId before := by
  simp only [walletWrites, walletEntry, walletHeader, Db.nextTransactionId, same.row,
    same.transactions]

theorem perform_walletRequest {platform : Platform} {db : Db} {method : Method}
    {dto : CreditWalletDto} {actorId : Option UserId}
    (posts : (walletRequest method dto actorId).Posts platform db) :
    db.Wrote (perform platform db (walletRequest method dto actorId)).1
      (walletWrites method dto actorId db) := by
  have same := same_getOrCreateWallets db [dto.userId]
  have found := findWallet_getOrCreateWallets db [dto.userId] dto.userId
    (List.mem_singleton_self _)
  have absent : (getOrCreateWallets db [dto.userId]).transactions.Absent dto.idempotencyKey := by
    rw [same.transactions]
    exact posts.2.2.1
  obtain ⟨after, response, committed, wrote⟩ :=
    postWallet_of_found actorId found posts.2.2.2 absent
  rw [perform_of_posts posts committed]
  rw [walletWrites_congr same] at wrote
  exact same.wrote wrote

/-! ### transferCoins -/

def senderWallet (dto : TransferWalletDto) (wallet : Wallet) : Wallet :=
  { wallet with
    availableBalance := wallet.availableBalance - dto.amount
    totalSpent := wallet.totalSpent + dto.amount
    version := wallet.version + 1 }

def recipientWallet (dto : TransferWalletDto) (wallet : Wallet) : Wallet :=
  { wallet with
    availableBalance := wallet.availableBalance + dto.amount
    version := wallet.version + 1 }

def isSelfTransfer (dto : TransferWalletDto) : Prop :=
  dto.senderUserId = dto.recipientUserId

instance (dto : TransferWalletDto) : Decidable (isSelfTransfer dto) :=
  inferInstanceAs (Decidable (_ = _))

def transferHeader (dto : TransferWalletDto) (actorId : Option UserId) (db : Db) :
    WalletTransaction :=
  { id := db.nextTransactionId
    transactionType := .transfer
    status := .completed
    sourceWalletId := some dto.senderUserId
    destinationWalletId := some dto.recipientUserId
    currency := dto.currency.getD .gold
    amount := dto.amount
    idempotencyKey := dto.idempotencyKey
    referenceType := dto.referenceType
    referenceId := dto.referenceId
    createdBy := actorId }

def debitEntry (dto : TransferWalletDto) (actorId : Option UserId) (db : Db)
    (freshSender : Wallet) : LedgerEntry :=
  { transactionId := db.nextTransactionId
    walletId := dto.senderUserId
    type := .debit
    currency := dto.currency.getD .gold
    reason := .systemTransfer
    amount := dto.amount
    balanceBefore := freshSender.availableBalance
    balanceAfter := freshSender.availableBalance - dto.amount
    referenceType := dto.referenceType
    referenceId := dto.referenceId
    description := some (dto.description.getD s!"Transfer to {dto.recipientUserId}")
    actorId := actorId }

/-- On a self transfer the recipient's closing balance is the sender's. -/
def creditEntry (dto : TransferWalletDto) (actorId : Option UserId) (db : Db)
    (freshSender freshRecipient : Wallet) : LedgerEntry :=
  { transactionId := db.nextTransactionId
    walletId := dto.recipientUserId
    type := .credit
    currency := dto.currency.getD .gold
    reason := .systemTransfer
    amount := dto.amount
    balanceBefore := freshRecipient.availableBalance
    balanceAfter :=
      if isSelfTransfer dto then freshSender.availableBalance - dto.amount
      else freshRecipient.availableBalance + dto.amount
    referenceType := dto.referenceType
    referenceId := dto.referenceId
    description := some (dto.description.getD s!"Transfer from {dto.senderUserId}")
    actorId := actorId }

/-- The row checks, made before the transaction and again under the locks. -/
def validateTransfer (dto : TransferWalletDto) (sender recipient : Wallet) :
    Except Failure Unit := do
  validateWalletActive sender
  if isSelfTransfer dto then .ok () else validateWalletActive recipient
  validateSufficientBalance sender dto.amount none

/-- The recipient's update, skipped on a self transfer. -/
def updateRecipient (dto : TransferWalletDto) (db : Db) : Except Failure Db :=
  if isSelfTransfer dto then .ok db
  else db.updateWallet dto.recipientUserId (recipientWallet dto)

/-- The transaction from the rows re-read under the locks on.  Both wallets
change their available aggregate, and only that; a self transfer updates its one
wallet as the sender. -/
def transferLocked (dto : TransferWalletDto) (actorId : Option UserId)
    (freshSender freshRecipient : Wallet) (db : Db) :
    Except Failure (Db × TransactionResponse) := do
  validateTransfer dto freshSender freshRecipient
  let header := transferHeader dto actorId db
  let debit := debitEntry dto actorId db freshSender
  let credit := creditEntry dto actorId db freshSender freshRecipient
  let db ← db.createTransaction header
  let db ← db.updateWallet dto.senderUserId (senderWallet dto)
  let db ← updateRecipient dto db
  .ok ((db.createLedgerEntry debit).createLedgerEntry credit,
    .transfer header.id header.idempotencyKey (toString dto.amount)
      (toString (db.row dto.senderUserId).availableBalance)
      (toString (db.row dto.recipientUserId).availableBalance) header.status)

def postTransfer (dto : TransferWalletDto) (actorId : Option UserId) (db : Db) :
    Except Failure (Db × TransactionResponse) :=
  match db.findWallet dto.senderUserId, db.findWallet dto.recipientUserId with
  | some freshSender, some freshRecipient =>
      transferLocked dto actorId freshSender freshRecipient db
  | _, _ => .error (.notFound "One or both transfer wallets not found")

def transferOwners (dto : TransferWalletDto) : List UserId :=
  if isSelfTransfer dto then [dto.senderUserId]
  else [dto.senderUserId, dto.recipientUserId]

def transferRequest (dto : TransferWalletDto) (actorId : Option UserId) : Request :=
  { idempotencyKey := dto.idempotencyKey
    amount := dto.amount
    owners := transferOwners dto
    validate := fun row =>
      validateTransfer dto (row dto.senderUserId) (row dto.recipientUserId)
    transaction := postTransfer dto actorId }

def transferCoins (platform : Platform) (db : Db) (dto : TransferWalletDto)
    (actorId : Option UserId) : Db × Except Failure TransactionResponse :=
  perform platform db (transferRequest dto actorId)

/-- The rows after a transfer: the recipient's update runs on the row the
sender's update left, and is skipped when they are the same user. -/
def transferRow (dto : TransferWalletDto) (userId : UserId) (wallet : Wallet) : Wallet :=
  if userId = dto.senderUserId then senderWallet dto wallet
  else if userId = dto.recipientUserId then recipientWallet dto wallet
  else wallet

def transferWrites (dto : TransferWalletDto) (actorId : Option UserId) (db : Db) : Writes :=
  { row := transferRow dto
    entries :=
      [debitEntry dto actorId db (db.row dto.senderUserId),
        creditEntry dto actorId db (db.row dto.senderUserId) (db.row dto.recipientUserId)]
    headers := [transferHeader dto actorId db]
    reservations := id }

theorem senderUserId_mem_transferOwners (dto : TransferWalletDto) :
    dto.senderUserId ∈ transferOwners dto := by
  unfold transferOwners
  split <;> simp

theorem recipientUserId_mem_transferOwners (dto : TransferWalletDto) :
    dto.recipientUserId ∈ transferOwners dto := by
  unfold transferOwners
  split
  · rename_i self
    exact List.mem_singleton.mpr self.symm
  · simp

theorem postTransfer_of_found {dto : TransferWalletDto} (actorId : Option UserId) {db : Db}
    (foundSender : db.findWallet dto.senderUserId = some (db.row dto.senderUserId))
    (foundRecipient : db.findWallet dto.recipientUserId = some (db.row dto.recipientUserId))
    (valid : validateTransfer dto (db.row dto.senderUserId) (db.row dto.recipientUserId) =
      .ok ())
    (absent : db.transactions.Absent dto.idempotencyKey) :
    ∃ after response, postTransfer dto actorId db = .ok (after, response) ∧
      response.isDuplicateReplay = false ∧
        db.Wrote after (transferWrites dto actorId db) := by
  simp only [postTransfer, transferLocked, updateRecipient, foundSender, foundRecipient, valid, ok_bind]
  rw [Db.createTransaction_of_absent (by exact absent)]
  simp only [ok_bind]
  rw [Db.updateWallet_of_found (by exact foundSender)]
  by_cases self : isSelfTransfer dto
  · simp only [ok_bind, if_pos self]
    refine ⟨_, _, rfl, rfl, ?_, ?_, rfl, rfl⟩
    · intro other
      change (db.putWallet _ _).row other = transferRow dto other (db.row other)
      rw [Db.row_putWallet]
      unfold transferRow
      by_cases sender : other = dto.senderUserId
      · rw [if_pos sender, if_pos sender, sender]
      · have notRecipient : other ≠ dto.recipientUserId := fun same =>
          sender (same.trans (Eq.symm self))
        rw [if_neg sender, if_neg sender, if_neg notRecipient]
    · simp [Db.createLedgerEntry, Db.putWallet, transferWrites]
  · have different : dto.recipientUserId ≠ dto.senderUserId := fun same => self same.symm
    simp only [ok_bind, if_neg self]
    -- The sender's update is already in the tables the recipient is looked up in.
    rw [Db.updateWallet_of_found (by
      change (db.putWallet _ _).findWallet dto.recipientUserId = some _
      rw [Db.findWallet_putWallet, if_neg different]
      exact foundRecipient)]
    refine ⟨_, _, rfl, rfl, ?_, ?_, rfl, rfl⟩
    · intro other
      change ((db.putWallet _ _).putWallet _ _).row other = transferRow dto other (db.row other)
      rw [Db.row_putWallet, Db.row_putWallet]
      unfold transferRow
      by_cases recipient : other = dto.recipientUserId
      · subst recipient
        rw [if_pos rfl, if_neg different, if_pos rfl]
      · rw [if_neg recipient, if_neg recipient]
        by_cases sender : other = dto.senderUserId
        · rw [if_pos sender, if_pos sender, sender]
        · rw [if_neg sender, if_neg sender]
    · simp [Db.createLedgerEntry, Db.putWallet, transferWrites]

theorem wrote_of_transferLocked {dto : TransferWalletDto} {actorId : Option UserId}
    {db after : Db} {response : TransactionResponse}
    (committed : transferLocked dto actorId (db.row dto.senderUserId)
      (db.row dto.recipientUserId) db = .ok (after, response)) :
    db.transactions.Absent dto.idempotencyKey ∧
      db.Wrote after (transferWrites dto actorId db) := by
  obtain ⟨_, valid, afterChecks⟩ := bind_eq_ok.mp committed
  obtain ⟨created, createdOk, afterHeader⟩ := bind_eq_ok.mp afterChecks
  obtain ⟨absent, rfl⟩ := Db.absent_of_createTransaction createdOk
  obtain ⟨debited, debitedOk, afterDebit⟩ := bind_eq_ok.mp afterHeader
  obtain ⟨_, rfl⟩ := Db.found_of_updateWallet debitedOk
  have foundSender : db.findWallet dto.senderUserId = some (db.row dto.senderUserId) :=
    (Db.found_of_updateWallet debitedOk).1
  have foundRecipient :
      db.findWallet dto.recipientUserId = some (db.row dto.recipientUserId) := by
    by_cases self : isSelfTransfer dto
    · rw [← show dto.senderUserId = dto.recipientUserId from self]
      exact foundSender
    -- Only the recipient's own update says that its wallet exists.
    · obtain ⟨credited, creditedOk, _⟩ := bind_eq_ok.mp afterDebit
      unfold updateRecipient at creditedOk
      rw [if_neg self] at creditedOk
      have found := (Db.found_of_updateWallet creditedOk).1
      have different : dto.recipientUserId ≠ dto.senderUserId := fun same => self same.symm
      rw [Db.findWallet_putWallet, if_neg different, Db.row_putWallet, if_neg different] at found
      exact found
  obtain ⟨other, otherResponse, posted, -, wrote⟩ :=
    postTransfer_of_found actorId foundSender foundRecipient valid absent
  simp only [postTransfer, foundSender, foundRecipient, committed, Except.ok.injEq,
    Prod.mk.injEq] at posted
  rw [posted.1]
  exact ⟨absent, wrote⟩

theorem transferWrites_congr {before after : Db} (same : Db.Same before after)
    (dto : TransferWalletDto) (actorId : Option UserId) :
    transferWrites dto actorId after = transferWrites dto actorId before := by
  simp only [transferWrites, debitEntry, creditEntry, transferHeader, Db.nextTransactionId,
    same.row, same.transactions]

theorem transferCoins_of_posts {platform : Platform} {db : Db} {dto : TransferWalletDto}
    {actorId : Option UserId} (posts : (transferRequest dto actorId).Posts platform db) :
    ∃ response, (transferCoins platform db dto actorId).2 = .ok response ∧
      response.isDuplicateReplay = false ∧
      db.Wrote (transferCoins platform db dto actorId).1 (transferWrites dto actorId db) := by
  let ready := getOrCreateWallets db (transferOwners dto)
  have same : Db.Same db ready := same_getOrCreateWallets db (transferOwners dto)
  have foundSender : ready.findWallet dto.senderUserId = some (ready.row dto.senderUserId) := by
    rw [same.row]
    exact findWallet_getOrCreateWallets db _ _ (senderUserId_mem_transferOwners dto)
  have foundRecipient :
      ready.findWallet dto.recipientUserId = some (ready.row dto.recipientUserId) := by
    rw [same.row]
    exact findWallet_getOrCreateWallets db _ _ (recipientUserId_mem_transferOwners dto)
  have valid : validateTransfer dto (ready.row dto.senderUserId)
      (ready.row dto.recipientUserId) = .ok () := by
    rw [same.row, same.row]
    exact posts.2.2.2
  have absent : ready.transactions.Absent dto.idempotencyKey := by
    rw [same.transactions]
    exact posts.2.2.1
  obtain ⟨after, response, committed, new, wrote⟩ :=
    postTransfer_of_found actorId foundSender foundRecipient valid absent
  have performed : transferCoins platform db dto actorId = (after, .ok response) :=
    perform_of_posts posts committed
  rw [performed]
  rw [transferWrites_congr same] at wrote
  exact ⟨response, rfl, new, same.wrote wrote⟩

theorem validateTransfer_ok_iff (dto : TransferWalletDto) (sender recipient : Wallet) :
    validateTransfer dto sender recipient = .ok () ↔
      sender.status = .active ∧ (isSelfTransfer dto ∨ recipient.status = .active) ∧
        dto.amount ≤ sender.availableBalance := by
  have funded := validateSufficientBalance_ok_iff sender dto.amount none
  simp only [checkedBalance] at funded
  rw [← validateWalletActive_ok_iff, ← validateWalletActive_ok_iff, ← funded]
  unfold validateTransfer
  by_cases self : isSelfTransfer dto
  · cases validateWalletActive sender <;> simp [self]
  · cases validateWalletActive sender <;> cases validateWalletActive recipient <;> simp [self]

end WalletTransactionService

end Soulzaa
