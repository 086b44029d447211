/-
ReceiptVerificationService, GoogleRtdnService and the expiry sweep, on their tables.

A purchase order is settled in four writes that no transaction holds together: the
receipt, the credit, the flag of the receipt and the status of the order.  A call stands
where its last await has left it, and no call holds a lock.
-/

import Soulzaa.Lib.Interleaving
import Soulzaa.Lib.KeyedRows
import Soulzaa.Lib.Runs
import Soulzaa.Lib.UniqueTable
import Soulzaa.Wallet.Movement

namespace Soulzaa.Payments

abbrev OrderId := Nat

abbrev ProviderTxnId := String

inductive PaymentProvider where
  | googlePlay
  | appleIap
  | razorpay
  | stripe
  | mockGateway
  deriving DecidableEq, Repr

inductive PurchaseOrderStatus where
  | created
  | pendingPayment
  | verificationPending
  | completed
  | failed
  | expired
  | cancelled
  | refunded
  deriving DecidableEq, Repr

structure PurchaseOrder where
  id : OrderId
  userId : UserId
  provider : PaymentProvider
  /-- Of its package. -/
  googleProductId : Option String
  totalCoins : Int
  expiresAt : Nat
  status : PurchaseOrderStatus := .created
  providerTxnRef : Option ProviderTxnId := none
  deriving DecidableEq, Repr

structure PaymentReceipt where
  providerTxnId : ProviderTxnId
  purchaseOrderId : OrderId
  provider : PaymentProvider
  receiptData : String
  isVerified : Bool := false
  deriving DecidableEq, Repr

structure WalletTransaction where
  transactionType : TransactionType
  userId : UserId
  amount : Int
  idempotencyKey : String
  referenceId : OrderId
  deriving DecidableEq, Repr

structure Store where
  orders : List PurchaseOrder := []
  receipts : List PaymentReceipt := []
  transactions : UniqueTable WalletTransaction.idempotencyKey := UniqueTable.empty
  /-- Which order stored a receipt first. -/
  stored : List (ProviderTxnId × OrderId) := []

def rechargeKey (providerTxnId : ProviderTxnId) : String := s!"RECHARGE_{providerTxnId}"

def reversalKey (playOrderId : ProviderTxnId) : String := s!"REVERSAL_{playOrderId}"

namespace Store

def getOrderById (store : Store) (orderId : OrderId) : Option PurchaseOrder :=
  KeyedRows.find PurchaseOrder.id orderId store.orders

def findReceipt (store : Store) (providerTxnId : ProviderTxnId) : Option PaymentReceipt :=
  KeyedRows.find PaymentReceipt.providerTxnId providerTxnId store.receipts

def setStatus (status : PurchaseOrderStatus) (providerTxnRef : Option ProviderTxnId)
    (order : PurchaseOrder) : PurchaseOrder :=
  { order with
    status := status
    providerTxnRef := providerTxnRef }

def writeStatus (store : Store) (orderId : OrderId) (status : PurchaseOrderStatus)
    (providerTxnRef : Option ProviderTxnId) : Store :=
  { store with
    orders := KeyedRows.update PurchaseOrder.id orderId (setStatus status providerTxnRef)
      store.orders }

def createOrder (store : Store) (userId : UserId) (provider : PaymentProvider)
    (googleProductId : Option String) (totalCoins : Int) (expiresAt : Nat) : Store :=
  { store with
    orders := store.orders ++
      [{ id := store.orders.length
         userId := userId
         provider := provider
         googleProductId := googleProductId
         totalCoins := totalCoins
         expiresAt := expiresAt }] }

/-- The key is unique. -/
def createReceipt (store : Store) (receipt : PaymentReceipt) : Option Store :=
  match store.findReceipt receipt.providerTxnId with
  | some _ => none
  | none =>
      some
        { store with
          receipts := store.receipts ++ [receipt]
          stored := store.stored ++ [(receipt.providerTxnId, receipt.purchaseOrderId)] }

def rewritten (order : PurchaseOrder) (receiptData : String) (receipt : PaymentReceipt) :
    PaymentReceipt :=
  { receipt with
    purchaseOrderId := order.id
    provider := order.provider
    receiptData := receiptData
    isVerified := false }

def rewriteReceipt (store : Store) (providerTxnId : ProviderTxnId) (order : PurchaseOrder)
    (receiptData : String) : Store :=
  { store with
    receipts := KeyedRows.update PaymentReceipt.providerTxnId providerTxnId
      (rewritten order receiptData) store.receipts }

def verified (receipt : PaymentReceipt) : PaymentReceipt := { receipt with isVerified := true }

def flagReceipt (store : Store) (providerTxnId : ProviderTxnId) : Store :=
  { store with
    receipts := KeyedRows.update PaymentReceipt.providerTxnId providerTxnId verified
      store.receipts }

/-- A taken key is answered as it was; a wallet posts positive amounts only. -/
def post (store : Store) (transaction : WalletTransaction) : Option Store :=
  if 0 < transaction.amount then
    some { store with transactions := store.transactions.ensure transaction }
  else none

def isExpirable (now : Nat) (order : PurchaseOrder) : Bool :=
  (order.status = .created || order.status = .pendingPayment) && order.expiresAt < now

def reconcileExpiredOrders (store : Store) (now : Nat) : Store :=
  { store with
    orders := store.orders.map fun order =>
      if isExpirable now order then { order with status := .expired } else order }

/-- The last one made. -/
def findByRef (store : Store) (playOrderId : ProviderTxnId) : Option PurchaseOrder :=
  store.orders.reverse.find? fun order =>
    order.provider = .googlePlay ∧ order.providerTxnRef = some playOrderId

def findByToken (store : Store) (purchaseToken : String) : Option PaymentReceipt :=
  store.receipts.reverse.find? fun receipt =>
    receipt.provider = .googlePlay ∧ receipt.receiptData = purchaseToken

end Store

/-! ### The checks of a receipt -/

structure VerificationResult where
  isVerified : Bool
  providerTxnId : String := ""
  productId : Option String := none
  purchaseState : Option Int := none
  consumptionState : Option Int := none
  externalAccountId : Option String := none
  deriving DecidableEq, Repr

/-- Why a genuine Play purchase does not settle the order. -/
def integrityReason (order : PurchaseOrder) (result : VerificationResult) : Option String :=
  if order.provider ≠ .googlePlay then none
  else
    match order.googleProductId.filter (· ≠ "") with
    | none =>
        some ("Order package has no Google Play product ID configured and cannot be settled by a " ++
          "Play receipt")
    | some expectedProductId =>
        match (result.productId.filter (· ≠ "")).filter (· ≠ expectedProductId) with
        | some productId =>
            some s!"Receipt product '{productId}' does not match order package '{expectedProductId}'"
        | none =>
            if result.purchaseState ≠ some 0 then
              some "Purchase is not in the purchased state"
            else if result.consumptionState ≠ some 0 then
              some "Purchase has already been consumed and cannot be credited again"
            else if result.externalAccountId ≠ some order.userId then
              some "Purchase is bound to a different account than the order"
            else none

def VerificationResult.accepts (result : VerificationResult) (order : PurchaseOrder) : Bool :=
  result.isVerified && (integrityReason order result).isNone

/-! ### Calls -/

structure VerifyPurchase where
  orderId : OrderId
  receiptData : String
  providerTxnId : Option String := none
  actorId : UserId
  /-- Not for an admin. -/
  enforceOwnership : Bool := true
  deriving DecidableEq, Repr

/-- The provider's value wins over the client's. -/
def VerifyPurchase.txnId (request : VerifyPurchase) (result : VerificationResult) :
    Option ProviderTxnId :=
  if result.providerTxnId = "" then request.providerTxnId else some result.providerTxnId

/-- What a call awaits. -/
inductive Call where
  -- `fulfill`
  | gettingOrder (request : VerifyPurchase)
  | verifying (request : VerifyPurchase) (order : PurchaseOrder)
  | findingReceipt (request : VerifyPurchase) (order : PurchaseOrder) (providerTxnId : ProviderTxnId)
  | recordingReceipt (request : VerifyPurchase) (order : PurchaseOrder)
      (providerTxnId : ProviderTxnId) (existing : Bool)
  | creditingWallet (order : PurchaseOrder) (providerTxnId : ProviderTxnId)
  | flaggingReceipt (order : PurchaseOrder) (providerTxnId : ProviderTxnId)
  -- `updateOrderStatus`
  | updatingStatus (orderId : OrderId) (status : PurchaseOrderStatus)
      (providerTxnRef : Option ProviderTxnId)
  | writingStatus (orderId : OrderId) (status : PurchaseOrderStatus)
      (providerTxnRef : Option ProviderTxnId)
  -- `handleNotification`
  | findingByRef (playOrderId purchaseToken : String)
  | findingByToken (playOrderId purchaseToken : String)
  | reversing (playOrderId : String) (order : PurchaseOrder)
  | ended
  deriving DecidableEq, Repr

/-- What the awaited call comes back with, as far as it does not follow from the tables. -/
structure Reply where
  verification : VerificationResult := { isVerified := false }
  deriving DecidableEq, Repr

def maxSafeInteger : Int := 9007199254740991

def creditOf (order : PurchaseOrder) (providerTxnId : ProviderTxnId) : WalletTransaction :=
  { transactionType := .deposit
    userId := order.userId
    amount := toNumber order.totalCoins
    idempotencyKey := rechargeKey providerTxnId
    referenceId := order.id }

def reversalOf (order : PurchaseOrder) (playOrderId : ProviderTxnId) : WalletTransaction :=
  { transactionType := .withdrawal
    userId := order.userId
    amount := toNumber order.totalCoins
    idempotencyKey := reversalKey playOrderId
    referenceId := order.id }

namespace Call

/-- The order of a notification, if its purchase was completed. -/
def refunding (playOrderId : String) (order : PurchaseOrder) : Call :=
  if order.status = .completed then .reversing playOrderId order else .ended

def advance (store : Store) (reply : Reply) : Call → Store × Call
  | .gettingOrder request =>
      (store,
        match store.getOrderById request.orderId with
        | none => .ended
        | some order =>
            if request.enforceOwnership = true ∧ order.userId ≠ request.actorId then .ended
            else if order.status = .completed then .ended
            else if order.status = .cancelled ∨ order.status = .expired then .ended
            else .verifying request order)
  | .verifying request order =>
      (store,
        if reply.verification.accepts order then
          match request.txnId reply.verification with
          | none => .ended
          | some providerTxnId => .findingReceipt request order providerTxnId
        else .updatingStatus order.id .failed none)
  | .findingReceipt request order providerTxnId =>
      (store,
        match store.findReceipt providerTxnId with
        | none => .recordingReceipt request order providerTxnId false
        | some existingReceipt =>
            if existingReceipt.isVerified then .ended
            else if existingReceipt.purchaseOrderId ≠ order.id then .ended
            else .recordingReceipt request order providerTxnId true)
  | .recordingReceipt request order providerTxnId existing =>
      if existing then
        (store.rewriteReceipt providerTxnId order request.receiptData,
          .creditingWallet order providerTxnId)
      else
        match store.createReceipt
            { providerTxnId := providerTxnId
              purchaseOrderId := order.id
              provider := order.provider
              receiptData := request.receiptData } with
        | none => (store, .ended)
        | some after => (after, .creditingWallet order providerTxnId)
  | .creditingWallet order providerTxnId =>
      match store.post (creditOf order providerTxnId) with
      | none => (store, .ended)
      | some after => (after, .flaggingReceipt order providerTxnId)
  | .flaggingReceipt order providerTxnId =>
      (store.flagReceipt providerTxnId, .updatingStatus order.id .completed (some providerTxnId))
  | .updatingStatus orderId status providerTxnRef =>
      (store,
        match store.getOrderById orderId with
        | none => .ended
        | some order => .writingStatus orderId status (providerTxnRef.or order.providerTxnRef))
  | .writingStatus orderId status providerTxnRef =>
      (store.writeStatus orderId status providerTxnRef, .ended)
  | .findingByRef playOrderId purchaseToken =>
      (store,
        match store.findByRef playOrderId with
        | some order => refunding playOrderId order
        | none => .findingByToken playOrderId purchaseToken)
  | .findingByToken playOrderId purchaseToken =>
      (store,
        match (store.findByToken purchaseToken).bind fun receipt =>
          store.getOrderById receipt.purchaseOrderId with
        | some order => refunding playOrderId order
        | none => .ended)
  | .reversing playOrderId order =>
      if maxSafeInteger < order.totalCoins then (store, .ended)
      else
        match store.post (reversalOf order playOrderId) with
        | none => (store, .ended)
        | some after => (after, .updatingStatus order.id .refunded none)
  | .ended => (store, .ended)

end Call

/-! ### Runs -/

structure World where
  store : Store := {}
  calls : List Call := []

inductive Event where
  | createPurchaseOrder (userId : UserId) (provider : PaymentProvider)
      (googleProductId : Option String) (totalCoins : Int) (expiresAt : Nat)
  | fulfill (request : VerifyPurchase)
  | handleNotification (orderId purchaseToken : String)
  | resume (position : Nat) (reply : Reply)
  /-- The await rejects, or the process ends. -/
  | fails (position : Nat)
  | reconcileExpiredOrders (now : Nat)
  deriving DecidableEq, Repr

namespace World

def spawn (world : World) (call : Call) : World :=
  { world with calls := world.calls ++ [call] }

def resume (world : World) (position : Nat) (reply : Reply) (call : Call) : World :=
  { store := (call.advance world.store reply).1
    calls := world.calls.set position (call.advance world.store reply).2 }

def step (world : World) : Event → World
  | .createPurchaseOrder userId provider googleProductId totalCoins expiresAt =>
      { world with
        store := world.store.createOrder userId provider googleProductId totalCoins expiresAt }
  | .fulfill request => world.spawn (.gettingOrder request)
  | .handleNotification orderId purchaseToken =>
      if orderId = "" ∨ purchaseToken = "" then world
      else world.spawn (.findingByRef orderId purchaseToken)
  | .resume position reply =>
      match world.calls[position]? with
      | none => world
      | some call => world.resume position reply call
  | .fails position => { world with calls := world.calls.set position .ended }
  | .reconcileExpiredOrders now => { world with store := world.store.reconcileExpiredOrders now }

end World

/-! ### One order -/

def aliceOrder : PurchaseOrder :=
  { id := 0
    userId := "alice"
    provider := .googlePlay
    googleProductId := some "coins-100"
    totalCoins := 100
    expiresAt := 1000 }

/-- The provider's answer for a token that the order's owner bought. -/
def bought (providerTxnId : ProviderTxnId) : Reply :=
  { verification :=
      { isVerified := true
        providerTxnId := providerTxnId
        productId := some "coins-100"
        purchaseState := some 0
        consumptionState := some 0
        externalAccountId := some "alice" } }

def resumes (position times : Nat) (reply : Reply) : List Event :=
  List.replicate times (.resume position reply)

def ordered : Event := .createPurchaseOrder "alice" .googlePlay (some "coins-100") 100 1000

def fulfilling (receiptData : String) : Event :=
  .fulfill { orderId := 0, receiptData := receiptData, actorId := "alice" }

end Soulzaa.Payments
