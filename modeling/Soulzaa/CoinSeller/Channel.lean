/-
The coin seller channel: purchase orders fill a seller's inventory from the
treasury, and sales empty it into users' wallets.

A call runs up to its next await and any other call may run in between.  What a
transaction writes is seen when it commits; it keeps the rows it has locked until
then, and a statement that needs a locked row waits.
-/

import Soulzaa.Lib.Interleaving
import Soulzaa.Lib.KeyedRows
import Soulzaa.Lib.Runs
import Soulzaa.Wallet.Movement

namespace Soulzaa.CoinSeller

open Interleaving

abbrev OrderId := String
abbrev InventoryId := String

/-! ### Rows -/

inductive InventoryPurchaseStatus where
  | pendingPayment
  | paymentVerified
  | adminApproved
  | inventoryCredited
  | failed
  | cancelled
  deriving DecidableEq, Repr

/-- `razorpayOrderId` and `signatureMismatch` are the metadata that is read or written. -/
structure PurchaseOrder where
  id : OrderId
  sellerId : UserId
  inventoryId : InventoryId
  coinAmount : Nat
  status : InventoryPurchaseStatus := .pendingPayment
  razorpayOrderId : Option String := none
  signatureMismatch : Bool := false
  providerTxnRef : Option String := none
  approvedBy : Option UserId := none
  deriving DecidableEq, Repr

structure CoinSellerInventory where
  id : InventoryId
  sellerId : UserId
  country : String
  purchasedTotal : Int := 0
  availableBalance : Int := 0
  soldTotal : Int := 0
  version : Nat := 0
  deriving DecidableEq, Repr

structure UserSaleTransaction where
  sellerId : UserId
  inventoryId : InventoryId
  buyerId : UserId
  coinAmount : Int
  sellerCountry : String
  buyerCountry : String
  idempotencyKey : String
  buyerWalletTxnId : TransactionId
  deriving DecidableEq, Repr

/-- A sale is named by its key, which is unique. -/
inductive AuditReference where
  | purchaseOrder (id : OrderId)
  | userSale (idempotencyKey : String)
  deriving DecidableEq, Repr

/-- The action, INVENTORY_PURCHASED or INVENTORY_SOLD, goes with the reference. -/
structure InventoryAudit where
  sellerId : UserId
  inventoryId : InventoryId
  coinDelta : Int
  balanceBefore : Int
  balanceAfter : Int
  reference : AuditReference
  actorId : Option UserId
  source : Option String := none
  deriving DecidableEq, Repr

/-- The treasury has one reserve row, and `reserve` is its balance. -/
structure Books where
  reserve : Option Int
  orders : List PurchaseOrder
  inventories : List CoinSellerInventory
  sales : UniqueTable UserSaleTransaction.idempotencyKey
  audits : List InventoryAudit
  db : Db

namespace Books

def findOrder (books : Books) (id : OrderId) : Option PurchaseOrder :=
  KeyedRows.find PurchaseOrder.id id books.orders

def updateOrder (books : Books) (id : OrderId) (change : PurchaseOrder → PurchaseOrder) : Books :=
  { books with orders := KeyedRows.update PurchaseOrder.id id change books.orders }

def findInventory (books : Books) (id : InventoryId) : Option CoinSellerInventory :=
  KeyedRows.find CoinSellerInventory.id id books.inventories

def findInventoryOfSeller (books : Books) (sellerId : UserId) : Option CoinSellerInventory :=
  KeyedRows.find CoinSellerInventory.sellerId sellerId books.inventories

end Books

/-! ### Calls -/

structure CreditInput where
  purchaseOrderId : OrderId
  providerTxnRef : String
  actorId : Option UserId
  source : Option String := none
  deriving DecidableEq, Repr

structure ApprovalInput where
  orderId : OrderId
  adminId : Option UserId
  source : Option String := none
  deriving DecidableEq, Repr

structure SaleInput where
  sellerId : UserId
  buyerId : UserId
  amount : Int
  idempotencyKey : String
  deriving DecidableEq, Repr

/-- What a call awaits. -/
inductive Call where
  /-- `confirmCheckout`: the order -/
  | confirm (sellerId : UserId) (purchaseOrderId : OrderId) (razorpayPaymentId : String)
  /-- the write that marks the order FAILED -/
  | refuse (order : PurchaseOrder)
  /-- `creditVerifiedOrder`: the order -/
  | credit (input : CreditInput)
  /-- the write that marks the order PAYMENT_VERIFIED -/
  | verify (input : CreditInput)
  /-- `approvePurchaseOrder`: the lock of the order row -/
  | approve (input : ApprovalInput)
  /-- the order with its inventory -/
  | approving (input : ApprovalInput)
  /-- the lock of the reserve -/
  | sourcing (input : ApprovalInput) (order : PurchaseOrder) (inventory : CoinSellerInventory)
  /-- the reserve and the writes up to the inventory -/
  | sourced (input : ApprovalInput) (order : PurchaseOrder) (inventory : CoinSellerInventory)
  /-- the audit row and the commit -/
  | stocked (input : ApprovalInput) (order : PurchaseOrder) (inventory : CoinSellerInventory)
  /-- `sellCoinsToUser`: the sale under the key -/
  | sell (input : SaleInput)
  /-- the inventory of the seller -/
  | checking (input : SaleInput)
  /-- the buyer and the country -/
  | matching (input : SaleInput) (inventory : CoinSellerInventory)
  /-- the lock of the inventory row -/
  | selling (input : SaleInput) (inventory : CoinSellerInventory) (buyerCountry : String)
  /-- the rest of the transaction -/
  | sold (input : SaleInput) (inventory : CoinSellerInventory) (buyerCountry : String)
      (locked : CoinSellerInventory)
  | ended
  deriving DecidableEq, Repr

inductive Row where
  | order (id : OrderId)
  | treasury
  | inventory (id : InventoryId)
  deriving DecidableEq, Repr

/-- The rows a call keeps locked. -/
def Call.locks : Call → List Row
  | .approving input => [.order input.orderId]
  | .sourcing input _ _ => [.order input.orderId]
  | .sourced input _ _ => [.treasury, .order input.orderId]
  | .stocked input order _ => [.inventory order.inventoryId, .treasury, .order input.orderId]
  | .sold _ inventory _ _ => [.inventory inventory.id]
  | _ => []

/-- The row the next statement locks or writes. -/
def Call.wants : Call → Option Row
  | .refuse order => some (.order order.id)
  | .verify input => some (.order input.purchaseOrderId)
  | .approve input => some (.order input.orderId)
  | .sourcing _ _ _ => some .treasury
  | .sourced _ order _ => some (.inventory order.inventoryId)
  | .selling _ inventory _ => some (.inventory inventory.id)
  | _ => none

inductive Request where
  | confirmCheckout (sellerId : UserId) (purchaseOrderId : OrderId) (razorpayPaymentId : String)
  /-- A delivery that `handleWebhookEvent` has matched to the order. -/
  | handleWebhookEvent (purchaseOrderId : OrderId) (paymentId : String)
  | approvePurchaseOrder (orderId : OrderId) (adminId : UserId)
  | sellCoinsToUser (input : SaleInput)
  deriving DecidableEq, Repr

/-- What the awaited call comes back with, as far as it is read. -/
structure Reply where
  fails : Bool := false
  /-- The signature is the expected one. -/
  signatureMatches : Bool := true
  buyerExists : Bool := true
  buyerCountry : Option String := none
  platform : Platform := Platform.normal

structure Channel where
  books : Books
  calls : List Call

inductive ChannelEvent where
  | request (request : Request)
  | resume (position : Nat) (reply : Reply)

/-! ### Text -/

def lineSpace : List Char :=
  ['\t', '\n', '\x0b', '\x0c', '\r', ' ', '\u00a0', '\u1680', '\u2000', '\u2001', '\u2002',
    '\u2003', '\u2004', '\u2005', '\u2006', '\u2007', '\u2008', '\u2009', '\u200a', '\u2028',
    '\u2029', '\u202f', '\u205f', '\u3000', '\ufeff']

/-- `String.prototype.trim`. -/
def trim (text : String) : String :=
  let front := text.toList.dropWhile fun char => lineSpace.contains char
  String.ofList (front.reverse.dropWhile fun char => lineSpace.contains char).reverse

/-! ### Statements -/

def approvable (status : InventoryPurchaseStatus) : Bool :=
  status = .pendingPayment || status = .paymentVerified

def PurchaseOrder.refused (read row : PurchaseOrder) : PurchaseOrder :=
  { row with
    status := .failed
    razorpayOrderId := read.razorpayOrderId
    signatureMismatch := true }

def PurchaseOrder.verified (providerTxnRef : String) (row : PurchaseOrder) : PurchaseOrder :=
  { row with
    status := .paymentVerified
    providerTxnRef := some providerTxnRef }

def PurchaseOrder.credited (adminId : Option UserId) (row : PurchaseOrder) : PurchaseOrder :=
  { row with
    status := .inventoryCredited
    approvedBy := adminId }

def CoinSellerInventory.purchase (amount : Int) (row : CoinSellerInventory) :
    CoinSellerInventory :=
  { row with
    purchasedTotal := row.purchasedTotal + amount
    availableBalance := row.availableBalance + amount
    version := row.version + 1 }

def CoinSellerInventory.sell (amount : Int) (row : CoinSellerInventory) : CoinSellerInventory :=
  { row with
    availableBalance := row.availableBalance - amount
    soldTotal := row.soldTotal + amount
    version := row.version + 1 }

/-- `read` is the inventory as it was read with the order, and `updated` the row the
update returns. -/
def approvalAudit (input : ApprovalInput) (order : PurchaseOrder)
    (read updated : CoinSellerInventory) : InventoryAudit :=
  { sellerId := order.sellerId
    inventoryId := order.inventoryId
    coinDelta := order.coinAmount
    balanceBefore := read.availableBalance
    balanceAfter := updated.availableBalance
    reference := .purchaseOrder order.id
    actorId := input.adminId
    source := input.source }

/-- What an approval commits, where `current` is the inventory row it updates. -/
def Books.approved (books : Books) (input : ApprovalInput) (order : PurchaseOrder)
    (read current : CoinSellerInventory) : Books :=
  { books with
    reserve := books.reserve.map fun balance => balance - order.coinAmount
    orders :=
      KeyedRows.update PurchaseOrder.id input.orderId (PurchaseOrder.credited input.adminId)
        books.orders
    inventories :=
      KeyedRows.update CoinSellerInventory.id order.inventoryId
        (CoinSellerInventory.purchase order.coinAmount) books.inventories
    audits := books.audits ++ [approvalAudit input order read (current.purchase order.coinAmount)] }

def saleWalletKey (idempotencyKey : String) : String :=
  s!"wallet-coin-seller-sale-{idempotencyKey}"

def saleReferenceType : String := "CoinSellerUserSaleTransaction"

def saleCredit (input : SaleInput) : WalletMovementInput :=
  { userId := input.buyerId
    currency := .gold
    amount := input.amount
    reason := .coinSellerCredit
    idempotencyKey := saleWalletKey input.idempotencyKey
    referenceType := some saleReferenceType
    actorId := some input.sellerId }

def saleRow (input : SaleInput) (inventory : CoinSellerInventory) (buyerCountry : String)
    (buyerWalletTxnId : TransactionId) : UserSaleTransaction :=
  { sellerId := input.sellerId
    inventoryId := inventory.id
    buyerId := input.buyerId
    coinAmount := input.amount
    sellerCountry := inventory.country
    buyerCountry := buyerCountry
    idempotencyKey := input.idempotencyKey
    buyerWalletTxnId := buyerWalletTxnId }

def saleAudit (input : SaleInput) (inventory locked updated : CoinSellerInventory) :
    InventoryAudit :=
  { sellerId := input.sellerId
    inventoryId := inventory.id
    coinDelta := -input.amount
    balanceBefore := locked.availableBalance
    balanceAfter := updated.availableBalance
    reference := .userSale input.idempotencyKey
    actorId := some input.sellerId }

/-- What a sale commits, once the wallet has answered and the sale row is stored. -/
def Books.soldTo (books : Books) (input : SaleInput)
    (inventory locked current : CoinSellerInventory) (db : Db)
    (sales : UniqueTable UserSaleTransaction.idempotencyKey) : Books :=
  { books with
    inventories :=
      KeyedRows.update CoinSellerInventory.id inventory.id (CoinSellerInventory.sell input.amount)
        books.inventories
    db := db
    sales := sales
    audits := books.audits ++ [saleAudit input inventory locked (current.sell input.amount)] }

/-- The transaction of a sale from the update of the locked row on. -/
def Books.commitSale (books : Books) (platform : Platform) (input : SaleInput)
    (inventory : CoinSellerInventory) (buyerCountry : String) (locked : CoinSellerInventory) :
    Books :=
  match books.findInventory inventory.id with
  | none => books
  | some current =>
      match WalletService.credit platform books.db (saleCredit input) with
      | (_, .error _) => books
      | (db, .ok credited) =>
          match books.sales.create
            (saleRow input inventory buyerCountry credited.transactionId) with
          | none => books
          | some sales => books.soldTo input inventory locked current db sales

/-! ### Steps -/

namespace Channel

/-- A call whose row is free goes on. -/
def advance (books : Books) (reply : Reply) : Call → Books × Call
  | .confirm sellerId purchaseOrderId razorpayPaymentId =>
      match books.findOrder purchaseOrderId with
      | none => (books, .ended)
      | some order =>
          if order.sellerId ≠ sellerId then (books, .ended)
          else if order.razorpayOrderId.getD "" = "" then (books, .ended)
          else if reply.signatureMatches then
            (books, .credit
              { purchaseOrderId := purchaseOrderId
                providerTxnRef := razorpayPaymentId
                actorId := some sellerId })
          else (books, .refuse order)
  | .refuse order =>
      (books.updateOrder order.id order.refused, .ended)
  | .credit input =>
      match books.findOrder input.purchaseOrderId with
      | none => (books, .ended)
      | some order =>
          if order.status = .inventoryCredited then (books, .ended) else (books, .verify input)
  | .verify input =>
      (books.updateOrder input.purchaseOrderId (PurchaseOrder.verified input.providerTxnRef),
        .approve
          { orderId := input.purchaseOrderId
            adminId := input.actorId
            source := input.source })
  | .approve input => (books, .approving input)
  | .approving input =>
      match books.findOrder input.orderId with
      | none => (books, .ended)
      | some order =>
          match books.findInventory order.inventoryId with
          | none => (books, .ended)
          | some inventory =>
              if approvable order.status then (books, .sourcing input order inventory)
              else (books, .ended)
  | .sourcing input order inventory => (books, .sourced input order inventory)
  | .sourced input order inventory =>
      match books.reserve with
      | none => (books, .ended)
      | some balance =>
          if balance < order.coinAmount then (books, .ended)
          else (books, .stocked input order inventory)
  | .stocked input order inventory =>
      match books.findInventory order.inventoryId with
      | none => (books, .ended)
      | some current => (books.approved input order inventory current, .ended)
  | .sell input =>
      match books.sales.find? input.idempotencyKey with
      | some _ => (books, .ended)
      | none => (books, .checking input)
  | .checking input =>
      match books.findInventoryOfSeller input.sellerId with
      | none => (books, .ended)
      | some inventory =>
          if inventory.availableBalance < input.amount then (books, .ended)
          else (books, .matching input inventory)
  | .matching input inventory =>
      match reply.buyerCountry with
      | none => (books, .ended)
      | some buyerCountry =>
          -- Stored countries are ISO codes, so ASCII case is enough.
          if reply.buyerExists ∧ inventory.country.toUpper = buyerCountry then
            (books, .selling input inventory buyerCountry)
          else (books, .ended)
  | .selling input inventory buyerCountry =>
      match books.findInventory inventory.id with
      | none => (books, .ended)
      | some locked =>
          if locked.availableBalance < input.amount then (books, .ended)
          else (books, .sold input inventory buyerCountry locked)
  | .sold input inventory buyerCountry locked =>
      (books.commitSale reply.platform input inventory buyerCountry locked, .ended)
  | .ended => (books, .ended)

/-- The row that the next statement needs is locked by another transaction. -/
def Waits (channel : Channel) (call : Call) : Prop :=
  ∃ row ∈ call.wants, ¬Free Call.locks channel.calls row

instance (channel : Channel) (call : Call) : Decidable (channel.Waits call) :=
  inferInstanceAs (Decidable (∃ row ∈ call.wants, ¬Free Call.locks channel.calls row))

/-- The checks before anything is read; keys are trimmed. -/
def accept : Request → Call
  | .confirmCheckout sellerId purchaseOrderId razorpayPaymentId =>
      .confirm sellerId purchaseOrderId razorpayPaymentId
  | .handleWebhookEvent purchaseOrderId paymentId =>
      .credit
        { purchaseOrderId := purchaseOrderId
          providerTxnRef := paymentId
          actorId := none
          source := some "RAZORPAY_WEBHOOK" }
  | .approvePurchaseOrder orderId adminId =>
      .approve
        { orderId := orderId
          adminId := some adminId }
  | .sellCoinsToUser input =>
      if input.amount ≤ 0 ∨ trim input.idempotencyKey = "" then .ended
      else .sell { input with idempotencyKey := trim input.idempotencyKey }

def step (channel : Channel) : ChannelEvent → Channel
  | .request request => { channel with calls := channel.calls ++ [accept request] }
  | .resume position reply =>
      match channel.calls[position]? with
      | none => channel
      | some call =>
          -- What throws rolls its transaction back and frees its rows.
          if reply.fails then { channel with calls := channel.calls.set position .ended }
          else if channel.Waits call then channel
          else
            { books := (advance channel.books reply call).1
              calls := channel.calls.set position (advance channel.books reply call).2 }

end Channel

/-! ### What a step can do -/

/-- What a call that goes on can write, and when. -/
inductive Books.Writes (books : Books) : Call → Books → Prop where
  | nothing (call : Call) : Writes books call books
  | refused (order : PurchaseOrder) :
      Writes books (.refuse order) (books.updateOrder order.id order.refused)
  | verified (input : CreditInput) :
      Writes books (.verify input)
        (books.updateOrder input.purchaseOrderId (PurchaseOrder.verified input.providerTxnRef))
  | approved (input : ApprovalInput) {order : PurchaseOrder} (read : CoinSellerInventory)
      {current : CoinSellerInventory}
      (found : books.findInventory order.inventoryId = some current) :
      Writes books (.stocked input order read) (books.approved input order read current)
  | sold {platform : Platform} {input : SaleInput} {inventory current : CoinSellerInventory}
      {buyerCountry : String} (locked : CoinSellerInventory) {db : Db}
      {credited : WalletMovementResult} {sales : UniqueTable UserSaleTransaction.idempotencyKey}
      (found : books.findInventory inventory.id = some current)
      (paid : WalletService.credit platform books.db (saleCredit input) = (db, .ok credited))
      (stored : books.sales.create
        (saleRow input inventory buyerCountry credited.transactionId) = some sales) :
      Writes books (.sold input inventory buyerCountry locked)
        (books.soldTo input inventory locked current db sales)

theorem writes_commitSale (books : Books) (platform : Platform) (input : SaleInput)
    (inventory : CoinSellerInventory) (buyerCountry : String) (locked : CoinSellerInventory) :
    books.Writes (.sold input inventory buyerCountry locked)
      (books.commitSale platform input inventory buyerCountry locked) := by
  unfold Books.commitSale
  split
  · exact .nothing _
  · rename_i found
    split
    · exact .nothing _
    · rename_i paid
      split
      · exact .nothing _
      · rename_i stored
        exact .sold locked found paid stored

namespace Channel

theorem writes_advance (books : Books) (reply : Reply) (call : Call) :
    books.Writes call (advance books reply call).1 := by
  cases call with
  | refuse order => exact .refused order
  | verify input => exact .verified input
  | stocked input order inventory =>
      unfold advance
      dsimp only
      split
      · exact .nothing _
      · rename_i found
        exact .approved input inventory found
  | sold input inventory buyerCountry locked => exact writes_commitSale _ _ _ _ _ _
  | confirm | credit | approve | approving | sourcing | sourced | sell | checking | matching | selling
  | ended =>
      unfold advance
      dsimp only
      repeat' split
      all_goals exact .nothing _

/-- What a step can do, and when. -/
inductive Steps (channel : Channel) : ChannelEvent → Channel → Prop where
  | idle (event : ChannelEvent) : Steps channel event channel
  | request (request : Request) :
      Steps channel (.request request) { channel with calls := channel.calls ++ [accept request] }
  | failed {position : Nat} {call : Call} {reply : Reply}
      (found : channel.calls[position]? = some call) (fails : reply.fails = true) :
      Steps channel (.resume position reply)
        { channel with calls := channel.calls.set position .ended }
  | goesOn {position : Nat} {call : Call} {reply : Reply}
      (found : channel.calls[position]? = some call) (succeeds : reply.fails = false)
      (free : ¬channel.Waits call) :
      Steps channel (.resume position reply)
        { books := (advance channel.books reply call).1
          calls := channel.calls.set position (advance channel.books reply call).2 }

theorem steps_step (channel : Channel) (event : ChannelEvent) :
    channel.Steps event (channel.step event) := by
  cases event with
  | request request => exact .request request
  | resume position reply =>
      unfold step
      dsimp only
      split
      · exact .idle _
      · rename_i found
        split
        · rename_i fails
          exact .failed found fails
        · rename_i succeeds
          split
          · exact .idle _
          · rename_i free
            exact .goesOn found (eq_false_of_ne_true succeeds) free

end Channel

/-! ### What a call relies on between its steps -/

/-- What a call has read of the rows it keeps locked is still so. -/
def Call.Relies (books : Books) : Call → Prop
  | .sourcing input order _ =>
      books.findOrder input.orderId = some order ∧ approvable order.status = true
  | .sourced input order _ =>
      books.findOrder input.orderId = some order ∧ approvable order.status = true
  | .stocked input order _ =>
      (books.findOrder input.orderId = some order ∧ approvable order.status = true) ∧
        books.reserve.isSome = true
  | .sold input inventory _ locked =>
      books.findInventory inventory.id = some locked ∧
        input.amount ≤ locked.availableBalance
  | _ => True

/-- Ids are primary keys. -/
structure Books.Keyed (books : Books) : Prop where
  orders : (books.orders.map PurchaseOrder.id).Nodup
  inventories : (books.inventories.map CoinSellerInventory.id).Nodup

def rowLocks : Outline Books Call where
  world := Books.Keyed
  asserts := fun books call => call.Relies books
  apart := Apart Call.locks

theorem keepsKey_refused (read : PurchaseOrder) :
    KeyedRows.KeepsKey PurchaseOrder.id read.refused := fun _ => rfl

theorem keepsKey_verified (providerTxnRef : String) :
    KeyedRows.KeepsKey PurchaseOrder.id (PurchaseOrder.verified providerTxnRef) := fun _ => rfl

theorem keepsKey_credited (adminId : Option UserId) :
    KeyedRows.KeepsKey PurchaseOrder.id (PurchaseOrder.credited adminId) := fun _ => rfl

theorem keepsKey_purchase (amount : Int) :
    KeyedRows.KeepsKey CoinSellerInventory.id (CoinSellerInventory.purchase amount) :=
  fun _ => rfl

theorem keepsKey_sell (amount : Int) :
    KeyedRows.KeepsKey CoinSellerInventory.id (CoinSellerInventory.sell amount) :=
  fun _ => rfl

theorem keyed_of_writes {books after : Books} {call : Call} (keyed : books.Keyed)
    (writes : books.Writes call after) : after.Keyed := by
  obtain ⟨orders, inventories⟩ := keyed
  cases writes with
  | nothing => exact ⟨orders, inventories⟩
  | refused order =>
      refine ⟨?_, inventories⟩
      rw [Books.updateOrder, KeyedRows.keys_update (keepsKey_refused order)]
      exact orders
  | verified input =>
      refine ⟨?_, inventories⟩
      rw [Books.updateOrder, KeyedRows.keys_update (keepsKey_verified _)]
      exact orders
  | approved input read found =>
      constructor
      · rw [Books.approved, KeyedRows.keys_update (keepsKey_credited _)]
        exact orders
      · rw [Books.approved, KeyedRows.keys_update (keepsKey_purchase _)]
        exact inventories
  | sold locked found paid stored =>
      refine ⟨orders, ?_⟩
      rw [Books.soldTo, KeyedRows.keys_update (keepsKey_sell _)]
      exact inventories

/-- A write leaves every row but those it locks or waits for. -/
theorem find_of_writes {books after : Books} {call : Call} (writes : books.Writes call after) :
    (∀ id, call.wants ≠ some (.order id) → .order id ∉ call.locks →
      after.findOrder id = books.findOrder id) ∧
    (∀ id, .inventory id ∉ call.locks → after.findInventory id = books.findInventory id) := by
  cases writes with
  | nothing => exact ⟨fun _ _ _ => rfl, fun _ _ => rfl⟩
  | refused order =>
      refine ⟨?_, fun _ _ => rfl⟩
      intro id unwanted _
      apply KeyedRows.find_update_other (keepsKey_refused order)
      intro same
      exact unwanted (by rw [same]; rfl)
  | verified input =>
      refine ⟨?_, fun _ _ => rfl⟩
      intro id unwanted _
      apply KeyedRows.find_update_other (keepsKey_verified _)
      intro same
      exact unwanted (by rw [same]; rfl)
  | approved input read found =>
      constructor
      · intro id _ unlocked
        apply KeyedRows.find_update_other (keepsKey_credited _)
        intro same
        exact unlocked (by rw [same]; simp [Call.locks])
      · intro id unlocked
        apply KeyedRows.find_update_other (keepsKey_purchase _)
        intro same
        exact unlocked (by rw [same]; simp [Call.locks])
  | sold locked found paid stored =>
      refine ⟨fun _ _ _ => rfl, ?_⟩
      intro id unlocked
      apply KeyedRows.find_update_other (keepsKey_sell _)
      intro same
      exact unlocked (by rw [same]; simp [Call.locks])

theorem reserve_of_writes {books after : Books} {call : Call} (writes : books.Writes call after) :
    after.reserve.isSome = books.reserve.isSome := by
  cases writes with
  | approved input read found => exact Option.isSome_map
  | nothing | refused | verified | sold => rfl

theorem relies_of_writes {books after : Books} {call other : Call}
    (writes : books.Writes call after) (relies : other.Relies books)
    (apart : Apart Call.locks call other) (unwanted : ∀ row ∈ call.wants, row ∉ other.locks) :
    other.Relies after := by
  obtain ⟨orders, inventories⟩ := find_of_writes writes
  have sameOrder : ∀ id, .order id ∈ other.locks → after.findOrder id = books.findOrder id := by
    intro id held
    exact orders id (fun wanted => unwanted _ wanted held) (fun locked => apart _ locked held)
  have sameInventory : ∀ id, .inventory id ∈ other.locks →
      after.findInventory id = books.findInventory id := by
    intro id held
    exact inventories id (fun locked => apart _ locked held)
  cases other with
  | sourcing input order inventory =>
      exact ⟨(sameOrder _ (by simp [Call.locks])).trans relies.1, relies.2⟩
  | sourced input order inventory =>
      exact ⟨(sameOrder _ (by simp [Call.locks])).trans relies.1, relies.2⟩
  | stocked input order inventory =>
      obtain ⟨read, stocked⟩ := relies
      exact ⟨⟨(sameOrder _ (by simp [Call.locks])).trans read.1, read.2⟩,
        (reserve_of_writes writes).trans stocked⟩
  | sold input inventory buyerCountry locked =>
      exact ⟨(sameInventory _ (by simp [Call.locks])).trans relies.1, relies.2⟩
  | confirm | refuse | credit | verify | approve | approving | sell | checking | matching
  | selling | ended => trivial

namespace Channel

/-- A call that goes on keeps its locks, takes the one it wants, or gives them up. -/
theorem locks_advance (books : Books) (reply : Reply) (call : Call) :
    ∀ row ∈ (advance books reply call).2.locks, row ∈ call.wants ∨ row ∈ call.locks := by
  cases call with
  | approve input =>
      intro row held
      exact Or.inl (List.mem_singleton.mp held ▸ rfl)
  | sourcing input order inventory =>
      intro row held
      rcases List.mem_pair.mp held with isTreasury | isOrder
      · exact Or.inl (isTreasury ▸ rfl)
      · exact Or.inr (isOrder ▸ List.mem_singleton_self _)
  | approving input =>
      unfold advance
      dsimp only
      repeat' split
      all_goals first
        | exact fun _ held => Or.inr held
        | exact List.forall_mem_nil _
  | sourced input order inventory =>
      unfold advance
      dsimp only
      repeat' split
      all_goals first
        | exact List.forall_mem_nil _
        | (intro row held
           rcases List.mem_cons.mp held with isInventory | before
           · exact Or.inl (isInventory ▸ rfl)
           · exact Or.inr before)
  | selling input inventory buyerCountry =>
      unfold advance
      dsimp only
      repeat' split
      all_goals first
        | exact List.forall_mem_nil _
        | exact fun row held => Or.inl (List.mem_singleton.mp held ▸ rfl)
  | confirm | refuse | credit | verify | stocked | sell | checking | matching | sold | ended =>
      unfold advance
      dsimp only
      repeat' split
      all_goals exact List.forall_mem_nil _

theorem relies_advance {books : Books} {call : Call} (relies : call.Relies books)
    (reply : Reply) : (advance books reply call).2.Relies (advance books reply call).1 := by
  cases call with
  | approving input =>
      unfold advance
      dsimp only
      split
      · trivial
      · rename_i order found
        split
        · trivial
        · split
          · rename_i approved
            exact ⟨found, approved⟩
          · trivial
  | sourcing input order inventory => exact relies
  | sourced input order inventory =>
      unfold advance
      dsimp only
      split
      · trivial
      · rename_i stocked
        split
        · trivial
        · exact ⟨relies, Option.isSome_of_eq_some stocked⟩
  | selling input inventory buyerCountry =>
      unfold advance
      dsimp only
      split
      · trivial
      · rename_i locked found
        split
        · trivial
        · rename_i enough
          exact ⟨found, Int.not_lt.mp enough⟩
  | confirm | refuse | credit | verify | approve | stocked | sell | checking | matching | sold
  | ended =>
      unfold advance
      dsimp only
      repeat' split
      all_goals trivial

theorem relies_accept (books : Books) (request : Request) : (accept request).Relies books := by
  cases request with
  | sellCoinsToUser input =>
      unfold accept
      dsimp only
      split <;> trivial
  | confirmCheckout | handleWebhookEvent | approvePurchaseOrder => trivial

theorem locks_accept (request : Request) : (accept request).locks = [] := by
  cases request with
  | sellCoinsToUser input =>
      unfold accept
      dsimp only
      split <;> rfl
  | confirmCheckout | handleWebhookEvent | approvePurchaseOrder => rfl

/-- Row locks keep what was read under them. -/
theorem rowLocks_step {channel : Channel} (holds : rowLocks.Holds channel.books channel.calls)
    (event : ChannelEvent) :
    rowLocks.Holds (channel.step event).books (channel.step event).calls := by
  have steps := steps_step channel event
  generalize channel.step event = after at steps ⊢
  cases steps with
  | idle => exact holds
  | request request =>
      apply holds.spawn (relies_accept _ request)
      intro other _
      have apart : Apart Call.locks (accept request) other := apart_of_none (locks_accept request)
      exact ⟨apart, apart.symm⟩
  | failed found fails =>
      have ended : rowLocks.asserts channel.books .ended := trivial
      apply holds.goOn found holds.world ended
      intro other _ relies _ _
      have apart : Apart Call.locks .ended other := apart_of_none rfl
      exact ⟨relies, apart, apart.symm⟩
  | @goesOn position call reply found succeeds free =>
      have writes := writes_advance channel.books reply call
      have wanted : ∀ row ∈ call.wants, Free Call.locks channel.calls row := by
        intro row wants
        exact Decidable.of_not_not fun taken => free ⟨row, wants, taken⟩
      apply holds.goOn found (keyed_of_writes holds.world writes)
        (relies_advance (holds.asserts call (List.mem_of_getElem? found)) reply)
      intro other member relies apart _
      have unwanted : ∀ row ∈ call.wants, row ∉ other.locks :=
        fun row wants => wanted row wants other member
      have nextApart : Apart Call.locks (advance channel.books reply call).2 other :=
        apart.of_taken (locks_advance channel.books reply call) unwanted
      exact ⟨relies_of_writes writes relies apart unwanted, nextApart, nextApart.symm⟩

/-! ### Guarded runs -/

/-- A call that the event takes on meets the guard. -/
def Guarded (guard : Books → Call → Prop) (channel : Channel) : ChannelEvent → Prop
  | .request _ => True
  | .resume position reply =>
      ∀ call ∈ channel.calls[position]?, reply.fails = false → ¬channel.Waits call →
        guard channel.books call

variable {holds : Books → Prop} {guard : Books → Call → Prop}

theorem step_iff_guarded {channel : Channel} (now : holds channel.books)
    (exactly : ∀ call ∈ channel.calls, ∀ reply : Reply,
      holds (advance channel.books reply call).1 ↔ guard channel.books call)
    (event : ChannelEvent) :
    holds (channel.step event).books ↔ channel.Guarded guard event := by
  cases event with
  | request request => exact iff_of_true now trivial
  | resume position reply =>
      unfold step Guarded
      dsimp only
      cases found : channel.calls[position]? with
      | none => exact iff_of_true now (fun call member => by cases member)
      | some call =>
          simp only [Option.mem_some_iff, forall_eq']
          by_cases fails : reply.fails = true
          · rw [if_pos fails]
            exact iff_of_true now fun succeeds => absurd (succeeds.symm.trans fails) (by decide)
          · rw [if_neg fails, imp_iff_right (eq_false_of_ne_true fails)]
            by_cases waits : channel.Waits call
            · rw [if_pos waits]
              exact iff_of_true now fun free => absurd waits free
            · rw [if_neg waits, imp_iff_right waits]
              exact exactly call (List.mem_of_getElem? found) reply

/-- What a call keeps exactly when it meets the guard holds throughout a run
exactly when every call that goes on meets it. -/
theorem always_iff_guarded
    (exactly : ∀ (books : Books) (call : Call) (reply : Reply), books.Keyed → call.Relies books →
      holds books → (holds (advance books reply call).1 ↔ guard books call))
    (opening : Books) (keyed : opening.Keyed) (atStart : holds opening)
    (events : List ChannelEvent) :
    Runs.Always step (fun channel => holds channel.books)
        { books := opening, calls := [] } events ↔
      Runs.Each step (Guarded guard) { books := opening, calls := [] } events := by
  apply Runs.always_iff_each fun channel : Channel =>
    rowLocks.Holds channel.books channel.calls
  · intro channel event locks _ _
    exact rowLocks_step locks event
  · intro channel event locks now
    apply step_iff_guarded now
    intro call member reply
    exact exactly channel.books call reply locks.world (locks.asserts call member) now
  · exact Outline.holds_nil keyed
  · exact atStart

end Channel

/-! ### A seller with an open order -/

def openOrder : PurchaseOrder :=
  { id := "order"
    sellerId := "seller"
    inventoryId := "inventory"
    coinAmount := 100
    razorpayOrderId := some "order_1" }

def openingBooks : Books :=
  { reserve := some 1000
    orders := [openOrder]
    inventories :=
      [{ id := "inventory"
         sellerId := "seller"
         country := "IN"
         purchasedTotal := 50
         availableBalance := 50 }]
    sales := .empty
    audits := []
    db := .empty }

theorem keyed_openingBooks : openingBooks.Keyed where
  orders := List.nodup_singleton _
  inventories := List.nodup_singleton _

def openingChannel : Channel :=
  { books := openingBooks
    calls := [] }

/-- The call at the position goes on so many times, and every check passes. -/
def goesOn (position times : Nat) : List ChannelEvent :=
  List.replicate times (.resume position { buyerCountry := some "IN" })

/-- An approval, and a sale that commits while it stands before its commit. -/
def saleDuringApproval : List ChannelEvent :=
  [.request (.approvePurchaseOrder "order" "admin")] ++ goesOn 0 2 ++
    [.request (.sellCoinsToUser
      { sellerId := "seller"
        buyerId := "buyer"
        amount := 40
        idempotencyKey := "sale" })] ++ goesOn 1 5 ++ goesOn 0 3

end Soulzaa.CoinSeller
