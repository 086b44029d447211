/-
What the tables of purchases keep, over whole runs.

They only grow in what calls rely on: an order keeps its owner and its coins, a receipt
its order, and a wallet transaction stays.  So a call keeps what it has seen whatever the
others do.
-/

import Soulzaa.Payments.Purchases

namespace Soulzaa.Payments

open Interleaving

/-! ### What the tables keep -/

/-- The owner and the coins of an order do not change. -/
def SameTerms (order later : PurchaseOrder) : Prop :=
  later.id = order.id ∧ later.userId = order.userId ∧ later.totalCoins = order.totalCoins

structure Grows (store after : Store) : Prop where
  orders : ∀ orderId order, store.getOrderById orderId = some order →
    ∃ later, after.getOrderById orderId = some later ∧ SameTerms order later
  receipts : ∀ providerTxnId receipt, store.findReceipt providerTxnId = some receipt →
    ∃ later, after.findReceipt providerTxnId = some later ∧
      later.purchaseOrderId = receipt.purchaseOrderId
  transactions : ∀ row ∈ store.transactions.rows, row ∈ after.transactions.rows

/-- The order is in the table, with these terms. -/
def Known (store : Store) (order : PurchaseOrder) : Prop :=
  ∃ row, store.getOrderById order.id = some row ∧ SameTerms row order

def HoldsReceipt (store : Store) (providerTxnId : ProviderTxnId) (orderId : OrderId) : Prop :=
  ∃ receipt, store.findReceipt providerTxnId = some receipt ∧ receipt.purchaseOrderId = orderId

/-- The order was credited for the provider's transaction. -/
def Credited (store : Store) (orderId : OrderId) (providerTxnId : ProviderTxnId) : Prop :=
  ∃ order, store.getOrderById orderId = some order ∧
    creditOf order providerTxnId ∈ store.transactions.rows

def Call.Relies (store : Store) : Call → Prop
  | .verifying _ order => Known store order
  | .findingReceipt _ order _ => Known store order
  | .recordingReceipt _ order providerTxnId existing =>
      Known store order ∧ (existing = true → HoldsReceipt store providerTxnId order.id)
  | .creditingWallet order providerTxnId =>
      Known store order ∧ HoldsReceipt store providerTxnId order.id
  | .flaggingReceipt order providerTxnId =>
      HoldsReceipt store providerTxnId order.id ∧ Credited store order.id providerTxnId
  | .updatingStatus orderId _ providerTxnRef =>
      ∀ providerTxnId ∈ providerTxnRef, Credited store orderId providerTxnId
  | .writingStatus orderId _ providerTxnRef =>
      ∀ providerTxnId ∈ providerTxnRef, Credited store orderId providerTxnId
  | _ => True

structure Store.Regular (store : Store) : Prop where
  numbered : store.orders.map PurchaseOrder.id = List.range store.orders.length
  unique : (store.receipts.map PaymentReceipt.providerTxnId).Nodup
  stored : store.stored =
    store.receipts.map fun receipt => (receipt.providerTxnId, receipt.purchaseOrderId)
  posted : ∀ row ∈ store.transactions.rows,
    (∃ order providerTxnId, row = creditOf order providerTxnId ∧
      store.getOrderById order.id = some order ∧ HoldsReceipt store providerTxnId order.id) ∨
    (∃ order playOrderId, row = reversalOf order playOrderId)
  refs : ∀ order ∈ store.orders, ∀ providerTxnId ∈ order.providerTxnRef,
    creditOf order providerTxnId ∈ store.transactions.rows

variable {store after : Store} {call next : Call} {order other later : PurchaseOrder}
  {providerTxnId : ProviderTxnId} {orderId : OrderId} {row transaction : WalletTransaction}

theorem creditOf_of_sameTerms (same : SameTerms order later) (providerTxnId : ProviderTxnId) :
    creditOf later providerTxnId = creditOf order providerTxnId := by
  obtain ⟨sameId, sameUser, sameCoins⟩ := same
  unfold creditOf
  rw [sameId, sameUser, sameCoins]

theorem sameTerms_refl (order : PurchaseOrder) : SameTerms order order := ⟨rfl, rfl, rfl⟩

theorem id_of_getOrderById (found : store.getOrderById orderId = some order) :
    order.id = orderId := KeyedRows.key_of_find found

theorem txnId_of_findReceipt {receipt : PaymentReceipt}
    (found : store.findReceipt providerTxnId = some receipt) :
    receipt.providerTxnId = providerTxnId := KeyedRows.key_of_find found

theorem known_of_getOrderById (found : store.getOrderById orderId = some order) :
    Known store order := by
  refine ⟨order, ?_, sameTerms_refl order⟩
  rw [id_of_getOrderById found]
  exact found

theorem known_of_grows (grows : Grows store after) (known : Known store order) :
    Known after order := by
  obtain ⟨row, found, same⟩ := known
  obtain ⟨later, foundLater, sameLater⟩ := grows.orders _ _ found
  exact ⟨later, foundLater, same.1.trans sameLater.1.symm, same.2.1.trans sameLater.2.1.symm,
    same.2.2.trans sameLater.2.2.symm⟩

theorem holdsReceipt_of_grows (grows : Grows store after)
    (holds : HoldsReceipt store providerTxnId orderId) :
    HoldsReceipt after providerTxnId orderId := by
  obtain ⟨receipt, found, isOrder⟩ := holds
  obtain ⟨later, foundLater, sameOrder⟩ := grows.receipts _ _ found
  exact ⟨later, foundLater, sameOrder.trans isOrder⟩

theorem credited_of_grows (grows : Grows store after) (credited : Credited store orderId providerTxnId) :
    Credited after orderId providerTxnId := by
  obtain ⟨order, found, member⟩ := credited
  obtain ⟨later, foundLater, same⟩ := grows.orders _ _ found
  refine ⟨later, foundLater, ?_⟩
  rw [creditOf_of_sameTerms same]
  exact grows.transactions _ member

theorem relies_of_grows (grows : Grows store after) (relies : call.Relies store) :
    call.Relies after := by
  cases call with
  | verifying request order => exact known_of_grows grows relies
  | findingReceipt request order providerTxnId => exact known_of_grows grows relies
  | recordingReceipt request order providerTxnId existing =>
      exact ⟨known_of_grows grows relies.1,
        fun isExisting => holdsReceipt_of_grows grows (relies.2 isExisting)⟩
  | creditingWallet order providerTxnId =>
      exact ⟨known_of_grows grows relies.1, holdsReceipt_of_grows grows relies.2⟩
  | flaggingReceipt order providerTxnId =>
      exact ⟨holdsReceipt_of_grows grows relies.1, credited_of_grows grows relies.2⟩
  | updatingStatus orderId status providerTxnRef =>
      exact fun providerTxnId isRef => credited_of_grows grows (relies providerTxnId isRef)
  | writingStatus orderId status providerTxnRef =>
      exact fun providerTxnId isRef => credited_of_grows grows (relies providerTxnId isRef)
  | _ => exact trivial

theorem grows_refl (store : Store) : Grows store store where
  orders := fun _ order found => ⟨order, found, sameTerms_refl order⟩
  receipts := fun _ receipt found => ⟨receipt, found, rfl⟩
  transactions := fun _ member => member

/-! ### Keys -/

theorem append_left_injective (front : String) : Function.Injective fun back => front ++ back := by
  intro one two same
  have chars := congrArg String.toList same
  simp only [String.toList_append] at chars
  exact String.toList_inj.mp (List.append_cancel_left chars)

theorem rechargeKey_injective : Function.Injective rechargeKey := append_left_injective "RECHARGE_"

theorem reversalKey_injective : Function.Injective reversalKey := append_left_injective "REVERSAL_"

theorem reversalKey_ne_rechargeKey (playOrderId providerTxnId : ProviderTxnId) :
    reversalKey playOrderId ≠ rechargeKey providerTxnId := by
  intro same
  have chars : ("REVERSAL_" ++ playOrderId).toList = ("RECHARGE_" ++ providerTxnId).toList :=
    congrArg String.toList same
  simp at chars

/-! ### Statements of the tables -/

theorem grows_of_orders {orders : List PurchaseOrder}
    (kept : ∀ orderId order, store.getOrderById orderId = some order →
      ∃ later, KeyedRows.find PurchaseOrder.id orderId orders = some later ∧
        SameTerms order later) : Grows store { store with orders := orders } where
  orders := kept
  receipts := fun _ receipt found => ⟨receipt, found, rfl⟩
  transactions := fun _ member => member

/-- Where no wallet row and no receipt is written, what is posted stays so. -/
theorem posted_of_grows (regular : store.Regular) (grows : Grows store after)
    (same : after.transactions = store.transactions) :
    ∀ row ∈ after.transactions.rows,
      (∃ order providerTxnId, row = creditOf order providerTxnId ∧
        after.getOrderById order.id = some order ∧ HoldsReceipt after providerTxnId order.id) ∨
      (∃ order playOrderId, row = reversalOf order playOrderId) := by
  intro row member
  rw [same] at member
  rcases regular.posted row member with ⟨order, providerTxnId, isCredit, found, holds⟩ | isReversal
  · left
    obtain ⟨later, foundLater, sameTerms⟩ := grows.orders _ _ found
    refine ⟨later, providerTxnId, ?_, ?_, ?_⟩
    · rw [isCredit, creditOf_of_sameTerms sameTerms]
    · rw [sameTerms.1]
      exact foundLater
    · rw [sameTerms.1]
      exact holdsReceipt_of_grows grows holds
  · exact Or.inr isReversal

theorem ids_distinct (regular : store.Regular) : (store.orders.map PurchaseOrder.id).Nodup := by
  rw [regular.numbered]
  exact List.nodup_range

theorem getOrderById_of_mem (regular : store.Regular) (member : order ∈ store.orders) :
    store.getOrderById order.id = some order :=
  KeyedRows.find_of_mem (ids_distinct regular) member

section CreateOrder

variable (userId : UserId) (provider : PaymentProvider) (googleProductId : Option String)
  (totalCoins : Int) (expiresAt : Nat)

theorem grows_createOrder (store : Store) :
    Grows store (store.createOrder userId provider googleProductId totalCoins expiresAt) := by
  apply grows_of_orders
  intro orderId order found
  have isRow : KeyedRows.find PurchaseOrder.id orderId store.orders = some order := found
  refine ⟨order, ?_, sameTerms_refl order⟩
  rw [KeyedRows.find_concat, isRow, Option.some_or]

theorem regular_createOrder (regular : store.Regular) :
    (store.createOrder userId provider googleProductId totalCoins expiresAt).Regular where
  numbered := by
    unfold Store.createOrder
    rw [List.map_append, List.length_append, List.length_singleton, List.range_succ,
      regular.numbered]
    rfl
  unique := regular.unique
  stored := regular.stored
  posted := posted_of_grows regular (grows_createOrder _ _ _ _ _ store) rfl
  refs := by
    intro order member
    rcases List.mem_append.mp member with before | isNew
    · exact regular.refs order before
    · rw [List.mem_singleton.mp isNew]
      exact nofun

end CreateOrder

section OrderRows

/-- Rows are written in place, with their ids and terms. -/
theorem getOrderById_map (change : PurchaseOrder → PurchaseOrder)
    (keeps : ∀ order, SameTerms order (change order)) (orders : List PurchaseOrder)
    (orderId : OrderId) :
    KeyedRows.find PurchaseOrder.id orderId (orders.map change) =
      (KeyedRows.find PurchaseOrder.id orderId orders).map change := by
  unfold KeyedRows.find
  rw [List.find?_map]
  congr 2
  funext order
  rw [Function.comp_apply, (keeps order).1]

theorem grows_map {change : PurchaseOrder → PurchaseOrder}
    (keeps : ∀ order, SameTerms order (change order)) :
    Grows store { store with orders := store.orders.map change } := by
  apply grows_of_orders
  intro orderId order found
  have isRow : KeyedRows.find PurchaseOrder.id orderId store.orders = some order := found
  rw [getOrderById_map change keeps, isRow, Option.map_some]
  exact ⟨change order, rfl, keeps order⟩

theorem regular_map (regular : store.Regular) {change : PurchaseOrder → PurchaseOrder}
    (keeps : ∀ order, SameTerms order (change order))
    (refs : ∀ order ∈ store.orders, ∀ providerTxnId ∈ (change order).providerTxnRef,
      creditOf order providerTxnId ∈ store.transactions.rows) :
    Store.Regular { store with orders := store.orders.map change } where
  numbered := by
    change (store.orders.map change).map PurchaseOrder.id = List.range (store.orders.map change).length
    rw [List.length_map, ← regular.numbered, List.map_map]
    apply List.map_congr_left
    intro order _
    exact (keeps order).1
  unique := regular.unique
  stored := regular.stored
  posted := posted_of_grows regular (grows_map keeps) rfl
  refs := by
    intro order member providerTxnId isRef
    obtain ⟨before, inside, rfl⟩ := List.mem_map.mp member
    rw [creditOf_of_sameTerms (keeps before)]
    exact refs before inside providerTxnId isRef

def expire (now : Nat) (order : PurchaseOrder) : PurchaseOrder :=
  if Store.isExpirable now order then { order with status := .expired } else order

theorem sameTerms_expire (now : Nat) (order : PurchaseOrder) :
    SameTerms order (expire now order) := by
  unfold expire
  split
  · exact ⟨rfl, rfl, rfl⟩
  · exact sameTerms_refl order

theorem ref_expire (now : Nat) (order : PurchaseOrder) :
    (expire now order).providerTxnRef = order.providerTxnRef := by
  unfold expire
  split
  · rfl
  · rfl

theorem regular_reconcile (regular : store.Regular) (now : Nat) :
    (store.reconcileExpiredOrders now).Regular := by
  apply regular_map regular (sameTerms_expire now)
  intro order member providerTxnId isRef
  rw [ref_expire] at isRef
  exact regular.refs order member providerTxnId isRef

theorem sameTerms_setStatus (orderId : OrderId) (status : PurchaseOrderStatus)
    (providerTxnRef : Option ProviderTxnId) (order : PurchaseOrder) :
    SameTerms order
      (if order.id = orderId then Store.setStatus status providerTxnRef order else order) := by
  split
  · exact ⟨rfl, rfl, rfl⟩
  · exact sameTerms_refl order

theorem regular_writeStatus (regular : store.Regular) (orderId : OrderId)
    (status : PurchaseOrderStatus) {providerTxnRef : Option ProviderTxnId}
    (credited : ∀ providerTxnId ∈ providerTxnRef, Credited store orderId providerTxnId) :
    (store.writeStatus orderId status providerTxnRef).Regular := by
  apply regular_map regular (sameTerms_setStatus orderId status providerTxnRef)
  intro order member providerTxnId isRef
  split at isRef
  · rename_i isOrder
    obtain ⟨row, found, isCredited⟩ := credited providerTxnId isRef
    have isRow := getOrderById_of_mem regular member
    rw [isOrder, found] at isRow
    rw [← Option.some_inj.mp isRow]
    exact isCredited
  · exact regular.refs order member providerTxnId isRef

end OrderRows

section Receipts

variable {receipt : PaymentReceipt}

/-- A receipt is written in place, with its order. -/
theorem grows_updateReceipt {change : PaymentReceipt → PaymentReceipt}
    (keeps : KeyedRows.KeepsKey PaymentReceipt.providerTxnId change)
    (kept : ∀ receipt, store.findReceipt providerTxnId = some receipt →
      (change receipt).purchaseOrderId = receipt.purchaseOrderId) :
    Grows store
      { store with
        receipts := KeyedRows.update PaymentReceipt.providerTxnId providerTxnId change
          store.receipts } where
  orders := fun _ order found => ⟨order, found, sameTerms_refl order⟩
  receipts := by
    intro wanted receipt found
    have isRow : KeyedRows.find PaymentReceipt.providerTxnId wanted store.receipts =
        some receipt := found
    unfold Store.findReceipt
    rw [KeyedRows.find_update_eq_ite keeps, isRow]
    by_cases isThis : wanted = providerTxnId
    · rw [if_pos isThis]
      exact ⟨change receipt, rfl, kept receipt (isThis ▸ found)⟩
    · rw [if_neg isThis]
      exact ⟨receipt, rfl, rfl⟩
  transactions := fun _ member => member

theorem regular_updateReceipt (regular : store.Regular) {change : PaymentReceipt → PaymentReceipt}
    (keeps : KeyedRows.KeepsKey PaymentReceipt.providerTxnId change)
    (kept : ∀ receipt, store.findReceipt providerTxnId = some receipt →
      (change receipt).purchaseOrderId = receipt.purchaseOrderId) :
    Store.Regular
      { store with
        receipts := KeyedRows.update PaymentReceipt.providerTxnId providerTxnId change
          store.receipts } where
  numbered := regular.numbered
  unique := by
    rw [KeyedRows.keys_update keeps]
    exact regular.unique
  stored := by
    change store.stored = _
    rw [regular.stored]
    unfold KeyedRows.update
    rw [List.map_map]
    apply List.map_congr_left
    intro receipt member
    rw [Function.comp_apply]
    split
    · rename_i isThis
      have found : store.findReceipt providerTxnId = some receipt :=
        isThis ▸ KeyedRows.find_of_mem regular.unique member
      rw [keeps receipt, kept receipt found]
    · rfl
  posted := posted_of_grows regular (grows_updateReceipt keeps kept) rfl
  refs := regular.refs

theorem keeps_rewritten (order : PurchaseOrder) (receiptData : String) :
    KeyedRows.KeepsKey PaymentReceipt.providerTxnId (Store.rewritten order receiptData) :=
  fun _ => rfl

theorem keeps_verified : KeyedRows.KeepsKey PaymentReceipt.providerTxnId Store.verified :=
  fun _ => rfl

theorem kept_rewritten (holds : HoldsReceipt store providerTxnId order.id) (receiptData : String) :
    ∀ receipt, store.findReceipt providerTxnId = some receipt →
      (Store.rewritten order receiptData receipt).purchaseOrderId = receipt.purchaseOrderId := by
  intro receipt found
  obtain ⟨held, isHeld, isOrder⟩ := holds
  rw [found] at isHeld
  rw [Option.some_inj.mp isHeld, isOrder]
  rfl

theorem holdsReceipt_createReceipt (created : store.createReceipt receipt = some after) :
    Grows store after ∧ HoldsReceipt after receipt.providerTxnId receipt.purchaseOrderId := by
  unfold Store.createReceipt at created
  split at created
  · cases created
  · rename_i absent
    cases created
    have missing : KeyedRows.find PaymentReceipt.providerTxnId receipt.providerTxnId
        store.receipts = none := absent
    refine ⟨⟨fun _ order found => ⟨order, found, sameTerms_refl order⟩, ?_,
      fun _ member => member⟩, receipt, ?_, rfl⟩
    · intro wanted held found
      have isRow : KeyedRows.find PaymentReceipt.providerTxnId wanted store.receipts = some held :=
        found
      refine ⟨held, ?_, rfl⟩
      unfold Store.findReceipt
      rw [KeyedRows.find_concat, isRow, Option.some_or]
    · unfold Store.findReceipt
      rw [KeyedRows.find_concat, missing, if_pos rfl, Option.none_or]

theorem regular_createReceipt (regular : store.Regular)
    (created : store.createReceipt receipt = some after) : after.Regular := by
  have grows := (holdsReceipt_createReceipt created).1
  unfold Store.createReceipt at created
  split at created
  · cases created
  · rename_i absent
    cases created
    refine ⟨regular.numbered, ?_, ?_, posted_of_grows regular grows rfl, regular.refs⟩
    · rw [List.map_append, List.map_singleton]
      refine List.Nodup.append regular.unique (List.nodup_singleton _)
        (List.disjoint_singleton.mpr ?_)
      intro taken
      obtain ⟨held, member, sameKey⟩ := List.mem_map.mp taken
      have missed := List.find?_eq_none.mp absent held member
      exact missed (decide_eq_true sameKey)
    · change store.stored ++ [(receipt.providerTxnId, receipt.purchaseOrderId)] =
        (store.receipts ++ [receipt]).map _
      rw [List.map_append, List.map_singleton, regular.stored]

end Receipts

section Posting

theorem post_eq_some (posted : store.post transaction = some after) :
    after = { store with transactions := store.transactions.ensure transaction } := by
  unfold Store.post at posted
  split at posted
  · exact (Option.some_inj.mp posted).symm
  · cases posted

theorem grows_post (store : Store) (transaction : WalletTransaction) :
    Grows store { store with transactions := store.transactions.ensure transaction } where
  orders := fun _ order found => ⟨order, found, sameTerms_refl order⟩
  receipts := fun _ receipt found => ⟨receipt, found, rfl⟩
  transactions := fun _ member => UniqueTable.mem_ensure_of_mem member

theorem regular_post (regular : store.Regular)
    (isPosting : (∃ order providerTxnId, transaction = creditOf order providerTxnId ∧
        store.getOrderById order.id = some order ∧ HoldsReceipt store providerTxnId order.id) ∨
      (∃ order playOrderId, transaction = reversalOf order playOrderId)) :
    Store.Regular { store with transactions := store.transactions.ensure transaction } where
  numbered := regular.numbered
  unique := regular.unique
  stored := regular.stored
  posted := by
    intro row member
    rcases UniqueTable.mem_ensure member with before | ⟨rfl, -⟩
    · exact regular.posted row before
    · exact isPosting
  refs := fun order member providerTxnId isRef =>
    UniqueTable.mem_ensure_of_mem (regular.refs order member providerTxnId isRef)

/-- A taken key of a credit is that of the receipt's order. -/
theorem credited_of_taken (regular : store.Regular)
    (found : store.getOrderById order.id = some order)
    (holds : HoldsReceipt store providerTxnId order.id)
    (taken : ¬store.transactions.Absent (rechargeKey providerTxnId)) :
    creditOf order providerTxnId ∈ store.transactions.rows := by
  obtain ⟨row, member, sameKey⟩ := List.mem_map.mp (Decidable.of_not_not taken)
  rcases regular.posted row member with ⟨other, txnId, isCredit, foundOther, holdsOther⟩ |
    ⟨other, playOrderId, isReversal⟩
  · -- The receipt of the key has one order.
    rw [isCredit] at sameKey
    have sameTxn : txnId = providerTxnId := rechargeKey_injective sameKey
    obtain ⟨one, isOne, oneOrder⟩ := holds
    obtain ⟨two, isTwo, twoOrder⟩ := holdsOther
    rw [sameTxn, isOne] at isTwo
    rw [← Option.some_inj.mp isTwo, oneOrder] at twoOrder
    rw [← twoOrder, found] at foundOther
    rw [sameTxn, ← Option.some_inj.mp foundOther] at isCredit
    rw [isCredit] at member
    exact member
  · rw [isReversal] at sameKey
    exact absurd sameKey (reversalKey_ne_rechargeKey playOrderId providerTxnId)

/-- After the credit there is one to the order, whether it was there before or not. -/
theorem credited_post (regular : store.Regular)
    (found : store.getOrderById order.id = some order)
    (holds : HoldsReceipt store providerTxnId order.id) :
    creditOf order providerTxnId ∈
      (store.transactions.ensure (creditOf order providerTxnId)).rows := by
  by_cases absent : store.transactions.Absent (rechargeKey providerTxnId)
  · unfold UniqueTable.ensure
    rw [dif_pos (show store.transactions.Absent (creditOf order providerTxnId).idempotencyKey
      from absent)]
    exact List.mem_append_right _ (List.mem_singleton_self _)
  · exact UniqueTable.mem_ensure_of_mem (credited_of_taken regular found holds absent)

end Posting

/-! ### A step of a call -/

structure Advances (store after : Store) (next : Call) : Prop where
  grows : Grows store after
  regular : after.Regular
  relies : next.Relies after

theorem advances_quiet (regular : store.Regular) (relies : next.Relies store) :
    Advances store store next := ⟨grows_refl store, regular, relies⟩

theorem relies_refunding (store : Store) (playOrderId : String) (order : PurchaseOrder) :
    (Call.refunding playOrderId order).Relies store := by
  unfold Call.refunding
  split
  · exact trivial
  · exact trivial

theorem advances_recording (regular : store.Regular) {request : VerifyPurchase} {existing : Bool}
    (reply : Reply)
    (relies : (Call.recordingReceipt request order providerTxnId existing).Relies store) :
    Advances store
      ((Call.recordingReceipt request order providerTxnId existing).advance store reply).1
      ((Call.recordingReceipt request order providerTxnId existing).advance store reply).2 := by
  obtain ⟨known, held⟩ := relies
  unfold Call.advance
  dsimp only
  split
  · rename_i isExisting
    have holds := held isExisting
    have grows : Grows store (store.rewriteReceipt providerTxnId order request.receiptData) :=
      grows_updateReceipt (keeps_rewritten order request.receiptData)
        (kept_rewritten holds request.receiptData)
    refine ⟨grows, ?_, known_of_grows grows known, holdsReceipt_of_grows grows holds⟩
    exact regular_updateReceipt regular (keeps_rewritten order request.receiptData)
      (kept_rewritten holds request.receiptData)
  · split
    · exact advances_quiet regular trivial
    · rename_i after created
      obtain ⟨grows, holds⟩ := holdsReceipt_createReceipt created
      exact ⟨grows, regular_createReceipt regular created, known_of_grows grows known, holds⟩

theorem advances_crediting (regular : store.Regular) (reply : Reply)
    (relies : (Call.creditingWallet order providerTxnId).Relies store) :
    Advances store ((Call.creditingWallet order providerTxnId).advance store reply).1
      ((Call.creditingWallet order providerTxnId).advance store reply).2 := by
  obtain ⟨⟨row, found, same⟩, holds⟩ := relies
  have isCredit := creditOf_of_sameTerms same providerTxnId
  rw [same.1] at found holds
  unfold Call.advance
  dsimp only
  split
  · exact advances_quiet regular trivial
  · rename_i after posted
    rw [post_eq_some posted, isCredit]
    have grows := grows_post store (creditOf row providerTxnId)
    refine ⟨grows, regular_post regular (Or.inl ⟨row, providerTxnId, rfl, found, holds⟩), ?_, ?_⟩
    · rw [same.1]
      exact holdsReceipt_of_grows grows holds
    · rw [same.1]
      exact ⟨row, found, credited_post regular found holds⟩

theorem advances_advance (regular : store.Regular) (reply : Reply) (relies : call.Relies store) :
    Advances store (call.advance store reply).1 (call.advance store reply).2 := by
  cases call with
  | gettingOrder request =>
      unfold Call.advance
      dsimp only
      cases found : store.getOrderById request.orderId with
      | none => exact advances_quiet regular trivial
      | some order =>
          dsimp only
          split
          · exact advances_quiet regular trivial
          · split
            · exact advances_quiet regular trivial
            · split
              · exact advances_quiet regular trivial
              · exact advances_quiet regular (known_of_getOrderById found)
  | verifying request order =>
      unfold Call.advance
      dsimp only
      split
      · split
        · exact advances_quiet regular trivial
        · exact advances_quiet regular relies
      · exact advances_quiet regular fun _ => nofun
  | findingReceipt request order providerTxnId =>
      unfold Call.advance
      dsimp only
      cases found : store.findReceipt providerTxnId with
      | none => exact advances_quiet regular ⟨relies, nofun⟩
      | some existingReceipt =>
          dsimp only
          split
          · exact advances_quiet regular trivial
          · split
            · exact advances_quiet regular trivial
            · rename_i sameOrder
              have isOrder := Decidable.of_not_not sameOrder
              exact advances_quiet regular ⟨relies, fun _ => ⟨existingReceipt, found, isOrder⟩⟩
  | recordingReceipt request order providerTxnId existing =>
      exact advances_recording regular reply relies
  | creditingWallet order providerTxnId => exact advances_crediting regular reply relies
  | flaggingReceipt order providerTxnId =>
      have grows : Grows store (store.flagReceipt providerTxnId) :=
        grows_updateReceipt keeps_verified fun _ _ => rfl
      refine ⟨grows, regular_updateReceipt regular keeps_verified fun _ _ => rfl, ?_⟩
      rintro txnId isRef
      cases isRef
      exact credited_of_grows grows relies.2
  | updatingStatus orderId status providerTxnRef =>
      unfold Call.advance
      dsimp only
      cases found : store.getOrderById orderId with
      | none => exact advances_quiet regular trivial
      | some order =>
          refine advances_quiet regular ?_
          intro providerTxnId isRef
          cases providerTxnRef with
          | some own => exact relies providerTxnId isRef
          | none =>
              have member : order ∈ store.orders := KeyedRows.mem_of_find found
              exact ⟨order, found, regular.refs order member providerTxnId isRef⟩
  | writingStatus orderId status providerTxnRef =>
      exact ⟨grows_map (sameTerms_setStatus orderId status providerTxnRef),
        regular_writeStatus regular orderId status relies, trivial⟩
  | findingByRef playOrderId purchaseToken =>
      unfold Call.advance
      dsimp only
      split
      · exact advances_quiet regular (relies_refunding store playOrderId _)
      · exact advances_quiet regular trivial
  | findingByToken playOrderId purchaseToken =>
      unfold Call.advance
      dsimp only
      split
      · exact advances_quiet regular (relies_refunding store playOrderId _)
      · exact advances_quiet regular trivial
  | reversing playOrderId order =>
      unfold Call.advance
      dsimp only
      split
      · exact advances_quiet regular trivial
      · split
        · exact advances_quiet regular trivial
        · rename_i after posted
          rw [post_eq_some posted]
          exact ⟨grows_post store _, regular_post regular (Or.inr ⟨order, playOrderId, rfl⟩),
            fun _ => nofun⟩
  | ended => exact advances_quiet regular trivial

/-! ### Every run -/

def serial : Outline Store Call where
  world := Store.Regular
  asserts := Call.Relies
  apart := fun _ _ => True

namespace World

variable {world : World}

def Sound (world : World) : Prop := serial.Holds world.store world.calls

theorem Sound.spawn (sound : world.Sound) {call : Call} (relies : call.Relies world.store) :
    (world.spawn call).Sound :=
  Outline.Holds.spawn sound relies fun _ _ => ⟨trivial, trivial⟩

theorem sound_empty : World.Sound {} := by
  refine Outline.holds_nil ⟨rfl, List.nodup_nil, rfl, ?_, ?_⟩
  · exact List.forall_mem_nil _
  · exact List.forall_mem_nil _

theorem sound_step (sound : world.Sound) (event : Event) : (world.step event).Sound := by
  cases event with
  | createPurchaseOrder userId provider googleProductId totalCoins expiresAt =>
      refine Outline.Holds.disturb sound (regular_createOrder _ _ _ _ _ sound.world) ?_
      exact fun call _ relies => relies_of_grows (grows_createOrder _ _ _ _ _ world.store) relies
  | fulfill request => exact sound.spawn trivial
  | handleNotification orderId purchaseToken =>
      unfold step
      dsimp only
      split
      · exact sound
      · exact sound.spawn trivial
  | resume position reply =>
      unfold step
      dsimp only
      cases found : world.calls[position]? with
      | none => exact sound
      | some call =>
          have advances := advances_advance sound.world reply
            (sound.asserts call (List.mem_of_getElem? found))
          refine Outline.Holds.goOn sound found advances.regular advances.relies ?_
          exact fun other _ relies _ _ => ⟨relies_of_grows advances.grows relies, trivial, trivial⟩
  | fails position =>
      unfold step
      dsimp only
      cases found : world.calls[position]? with
      | none =>
          rw [List.set_eq_of_length_le (List.getElem?_eq_none_iff.mp found)]
          exact sound
      | some call =>
          refine Outline.Holds.goOn sound found sound.world trivial ?_
          exact fun other _ relies _ _ => ⟨relies, trivial, trivial⟩
  | reconcileExpiredOrders now =>
      refine Outline.Holds.disturb sound (regular_reconcile sound.world now) ?_
      exact fun call _ relies => relies_of_grows (grows_map (sameTerms_expire now)) relies

end World

end Soulzaa.Payments
