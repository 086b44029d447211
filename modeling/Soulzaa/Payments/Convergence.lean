/-
Retries of a purchase, over whole runs.

The status of the order guards a retry, and the flag of the receipt guards against replays.
A retry goes through where the two agree, so the calls under way have to bring the later
write to the earlier one: a call that has flagged the receipt to the completion of the
order, and on a completed order a call that rewrites the receipt to its flag.
-/

import Soulzaa.Payments.Safety

namespace Soulzaa.Payments

open Interleaving

/-! ### What is claimed -/

def Store.Completed (store : Store) (orderId : OrderId) : Prop :=
  (store.getOrderById orderId).map PurchaseOrder.status = some .completed

def Store.Verified (store : Store) (providerTxnId : ProviderTxnId) : Prop :=
  (store.findReceipt providerTxnId).map PaymentReceipt.isVerified = some true

instance (store : Store) (orderId : OrderId) : Decidable (store.Completed orderId) :=
  inferInstanceAs (Decidable (_ = _))

instance (store : Store) (providerTxnId : ProviderTxnId) :
    Decidable (store.Verified providerTxnId) :=
  inferInstanceAs (Decidable (_ = _))

structure Store.Fulfilled (store : Store) (orderId : OrderId) (providerTxnId : ProviderTxnId) :
    Prop where
  completed : store.Completed orderId
  verified : store.Verified providerTxnId
  once : (store.transactions.rows.filter fun row =>
    row.idempotencyKey = rechargeKey providerTxnId).length = 1

/-- A request for the order, by its owner or an admin, whose receipt the provider accepts. -/
structure Retry (order : PurchaseOrder) (providerTxnId : ProviderTxnId) (request : VerifyPurchase)
    (reply : Reply) : Prop where
  sameOrder : request.orderId = order.id
  mayAct : request.enforceOwnership = true → order.userId = request.actorId
  accepted : reply.verification.accepts order = true
  sameTxn : request.txnId reply.verification = some providerTxnId

/-- The call has eight awaits at most. -/
def World.retrying (world : World) (request : VerifyPurchase) (reply : Reply) : List Event :=
  .fulfill request :: List.replicate 8 (.resume world.calls.length reply)

/-- Once all calls have ended, a retry with the receipt fulfils the order. -/
def World.Converges (orderId : OrderId) (providerTxnId : ProviderTxnId) (world : World) : Prop :=
  (∀ call ∈ world.calls, call = .ended) →
    ∀ order, world.store.getOrderById orderId = some order →
      ∀ request reply, Retry order providerTxnId request reply →
        (Runs.run World.step world (world.retrying request reply)).store.Fulfilled orderId
          providerTxnId

/-! ### The condition -/

namespace Call

/-- About to complete the order. -/
def completes (orderId : OrderId) : Call → Bool
  | .updatingStatus id status _ => id = orderId && status = .completed
  | .writingStatus id status _ => id = orderId && status = .completed
  | _ => false

/-- About to credit the order for the receipt, or to flag the receipt. -/
def pays (orderId : OrderId) (providerTxnId : ProviderTxnId) : Call → Bool
  | .creditingWallet order txnId => order.id = orderId && txnId = providerTxnId
  | .flaggingReceipt order txnId => order.id = orderId && txnId = providerTxnId
  | _ => false

end Call

def Completing (orderId : OrderId) (calls : List Call) : Prop :=
  ∃ call ∈ calls, call.completes orderId = true

def Paying (orderId : OrderId) (providerTxnId : ProviderTxnId) (calls : List Call) : Prop :=
  ∃ call ∈ calls, call.pays orderId providerTxnId = true

instance (orderId : OrderId) (calls : List Call) : Decidable (Completing orderId calls) :=
  inferInstanceAs (Decidable (∃ call ∈ calls, _))

instance (orderId : OrderId) (providerTxnId : ProviderTxnId) (calls : List Call) :
    Decidable (Paying orderId providerTxnId calls) :=
  inferInstanceAs (Decidable (∃ call ∈ calls, _))

section Condition

variable (orderId : OrderId) (providerTxnId : ProviderTxnId)

/-- No other order takes the receipt, no other receipt completes the order before this one is
paid, and what is written over a completed order another call will write over again. -/
def Call.Finishes (store : Store) (others : List Call) : Call → Prop
  | .recordingReceipt _ order txnId _ =>
      txnId = providerTxnId → order.id ≠ orderId → (store.findReceipt providerTxnId).isSome
  | .flaggingReceipt order txnId =>
      order.id = orderId → txnId ≠ providerTxnId →
        store.Verified providerTxnId ∨ Paying orderId providerTxnId others
  | .writingStatus id status _ =>
      id = orderId → status ≠ .completed → store.Completed orderId → Completing orderId others
  | _ => True

/-- The call may end here: another one does what it would have done. -/
def Call.MayFail (store : Store) (others : List Call) (call : Call) : Prop :=
  (call.completes orderId = true → store.Verified providerTxnId →
    store.Completed orderId ∨ Completing orderId others) ∧
  (call.pays orderId providerTxnId = true → store.Completed orderId ∨ Completing orderId others →
    store.Verified providerTxnId ∨ Paying orderId providerTxnId others)

instance (store : Store) (others : List Call) :
    (call : Call) → Decidable (call.Finishes orderId providerTxnId store others)
  | .recordingReceipt _ _ _ _ => inferInstanceAs (Decidable (_ → _ → _))
  | .flaggingReceipt _ _ => inferInstanceAs (Decidable (_ → _ → _))
  | .writingStatus _ _ _ => inferInstanceAs (Decidable (_ → _ → _ → _))
  | .gettingOrder _ => inferInstanceAs (Decidable True)
  | .verifying _ _ => inferInstanceAs (Decidable True)
  | .findingReceipt _ _ _ => inferInstanceAs (Decidable True)
  | .creditingWallet _ _ => inferInstanceAs (Decidable True)
  | .updatingStatus _ _ _ => inferInstanceAs (Decidable True)
  | .findingByRef _ _ => inferInstanceAs (Decidable True)
  | .findingByToken _ _ => inferInstanceAs (Decidable True)
  | .reversing _ _ => inferInstanceAs (Decidable True)
  | .ended => inferInstanceAs (Decidable True)

instance (store : Store) (others : List Call) (call : Call) :
    Decidable (call.MayFail orderId providerTxnId store others) :=
  inferInstanceAs (Decidable (_ ∧ _))

/-- The order's package has coins, as each package is checked to have, and no sweep expires
the order. -/
def World.Finishes (world : World) : Event → Prop
  | .createPurchaseOrder _ _ _ totalCoins _ =>
      world.store.orders.length = orderId → 0 < totalCoins
  | .resume position _ =>
      ∀ call ∈ world.calls[position]?,
        call.Finishes orderId providerTxnId world.store (world.calls.eraseIdx position)
  | .fails position =>
      ∀ call ∈ world.calls[position]?,
        call.MayFail orderId providerTxnId world.store (world.calls.eraseIdx position)
  | .reconcileExpiredOrders now =>
      ∀ order ∈ world.store.getOrderById orderId, Store.isExpirable now order = false
  | _ => True

instance (world : World) :
    (event : Event) → Decidable (world.Finishes orderId providerTxnId event)
  | .createPurchaseOrder _ _ _ _ _ => inferInstanceAs (Decidable (_ → _))
  | .resume position _ => inferInstanceAs (Decidable (∀ call ∈ world.calls[position]?, _))
  | .fails position => inferInstanceAs (Decidable (∀ call ∈ world.calls[position]?, _))
  | .reconcileExpiredOrders _ => inferInstanceAs (Decidable (∀ order ∈ _, _ = _))
  | .fulfill _ => inferInstanceAs (Decidable True)
  | .handleNotification _ _ => inferInstanceAs (Decidable True)

end Condition

/-! ### What a step changes -/

section Advance

variable {store : Store} {orderId : OrderId} {providerTxnId : ProviderTxnId}

theorem orders_createReceipt {receipt : PaymentReceipt} {after : Store}
    (created : store.createReceipt receipt = some after) : after.orders = store.orders := by
  unfold Store.createReceipt at created
  split at created
  · cases created
  · cases created
    rfl

theorem orders_post {transaction : WalletTransaction} {after : Store}
    (posted : store.post transaction = some after) : after.orders = store.orders := by
  rw [post_eq_some posted]

theorem receipts_post {transaction : WalletTransaction} {after : Store}
    (posted : store.post transaction = some after) : after.receipts = store.receipts := by
  rw [post_eq_some posted]

/-- Orders are written at the end of a call only. -/
theorem orders_advance (call : Call) (store : Store) (reply : Reply) :
    (call.advance store reply).1.orders = store.orders ∨
      ∃ id status providerTxnRef, call = .writingStatus id status providerTxnRef := by
  cases call with
  | writingStatus id status providerTxnRef => exact Or.inr ⟨id, status, providerTxnRef, rfl⟩
  | recordingReceipt request order txnId existing =>
      left
      unfold Call.advance
      dsimp only
      split
      · rfl
      · split
        · rfl
        · rename_i after created
          exact orders_createReceipt created
  | creditingWallet order txnId =>
      left
      unfold Call.advance
      dsimp only
      split
      · rfl
      · rename_i after posted
        exact orders_post posted
  | reversing playOrderId order =>
      left
      unfold Call.advance
      dsimp only
      split
      · rfl
      · split
        · rfl
        · rename_i after posted
          exact orders_post posted
  | _ => exact Or.inl rfl

theorem receipts_advance (call : Call) (store : Store) (reply : Reply) :
    (call.advance store reply).1.receipts = store.receipts ∨
      (∃ request order txnId existing, call = .recordingReceipt request order txnId existing) ∨
      (∃ order txnId, call = .flaggingReceipt order txnId) := by
  cases call with
  | recordingReceipt request order txnId existing =>
      exact Or.inr (Or.inl ⟨request, order, txnId, existing, rfl⟩)
  | flaggingReceipt order txnId => exact Or.inr (Or.inr ⟨order, txnId, rfl⟩)
  | creditingWallet order txnId =>
      left
      unfold Call.advance
      dsimp only
      split
      · rfl
      · rename_i after posted
        exact receipts_post posted
  | reversing playOrderId order =>
      left
      unfold Call.advance
      dsimp only
      split
      · rfl
      · split
        · rfl
        · rename_i after posted
          exact receipts_post posted
  | _ => exact Or.inl rfl

theorem keeps_setStatus (status : PurchaseOrderStatus) (providerTxnRef : Option ProviderTxnId) :
    KeyedRows.KeepsKey PurchaseOrder.id (Store.setStatus status providerTxnRef) := fun _ => rfl

/-- An order is as it was before, or its status is what the call wrote. -/
theorem order_of_advance {call : Call} {reply : Reply} {order : PurchaseOrder}
    (found : (call.advance store reply).1.getOrderById orderId = some order) :
    ∃ before, store.getOrderById orderId = some before ∧ SameTerms before order ∧
      (order = before ∨
        ∃ providerTxnRef, call = .writingStatus orderId order.status providerTxnRef) := by
  rcases orders_advance call store reply with same | ⟨id, status, providerTxnRef, rfl⟩
  · unfold Store.getOrderById at found
    rw [same] at found
    exact ⟨order, found, sameTerms_refl order, Or.inl rfl⟩
  · have isWritten : KeyedRows.find PurchaseOrder.id orderId (KeyedRows.update PurchaseOrder.id id
        (Store.setStatus status providerTxnRef) store.orders) = some order := found
    rw [KeyedRows.find_update_eq_ite (keeps_setStatus status providerTxnRef)] at isWritten
    split at isWritten
    · rename_i isId
      obtain ⟨before, isBefore, rfl⟩ := Option.map_eq_some_iff.mp isWritten
      exact ⟨before, isBefore, ⟨rfl, rfl, rfl⟩, Or.inr ⟨providerTxnRef, isId ▸ rfl⟩⟩
    · exact ⟨order, isWritten, sameTerms_refl order, Or.inl rfl⟩

theorem completed_of_advance {call : Call} {reply : Reply}
    (completed : (call.advance store reply).1.Completed orderId) :
    store.Completed orderId ∨ call.completes orderId = true := by
  obtain ⟨order, found, isCompleted⟩ := Option.map_eq_some_iff.mp completed
  obtain ⟨before, isBefore, -, rfl | ⟨providerTxnRef, rfl⟩⟩ := order_of_advance found
  · exact Or.inl (Option.map_eq_some_iff.mpr ⟨order, isBefore, isCompleted⟩)
  · right
    rw [isCompleted]
    unfold Call.completes
    simp

theorem completed_advance (call : Call) (reply : Reply) (completed : store.Completed orderId) :
    (call.advance store reply).1.Completed orderId ∨
      ∃ status providerTxnRef, call = .writingStatus orderId status providerTxnRef ∧
        status ≠ .completed := by
  rcases orders_advance call store reply with same | ⟨id, status, providerTxnRef, rfl⟩
  · left
    unfold Store.Completed Store.getOrderById
    rw [same]
    exact completed
  · by_cases isOther : id = orderId ∧ status ≠ .completed
    · obtain ⟨rfl, notCompleted⟩ := isOther
      exact Or.inr ⟨status, providerTxnRef, rfl, notCompleted⟩
    · left
      obtain ⟨order, found, isCompleted⟩ := Option.map_eq_some_iff.mp completed
      change (KeyedRows.find PurchaseOrder.id orderId (KeyedRows.update PurchaseOrder.id id
        (Store.setStatus status providerTxnRef) store.orders)).map _ = _
      have isRow : KeyedRows.find PurchaseOrder.id orderId store.orders = some order := found
      rw [KeyedRows.find_update_eq_ite (keeps_setStatus status providerTxnRef), isRow]
      split
      · rename_i isId
        have same : status = .completed := by
          by_contra different
          exact isOther ⟨isId.symm, different⟩
        rw [same]
        rfl
      · rw [Option.map_some, isCompleted]

/-- The receipt of a flagging call is verified. -/
theorem verified_flagReceipt (stored : HoldsReceipt store providerTxnId orderId) :
    (store.flagReceipt providerTxnId).Verified providerTxnId := by
  obtain ⟨receipt, found, -⟩ := stored
  have isRow : KeyedRows.find PaymentReceipt.providerTxnId providerTxnId store.receipts =
      some receipt := found
  change (KeyedRows.find PaymentReceipt.providerTxnId providerTxnId (KeyedRows.update
    PaymentReceipt.providerTxnId providerTxnId Store.verified store.receipts)).map _ = _
  rw [KeyedRows.find_update_self keeps_verified isRow]
  rfl

theorem findReceipt_createReceipt {receipt : PaymentReceipt} {after : Store}
    (created : store.createReceipt receipt = some after) :
    after.findReceipt providerTxnId = (store.findReceipt providerTxnId).or
      (if receipt.providerTxnId = providerTxnId then some receipt else none) := by
  unfold Store.createReceipt at created
  split at created
  · cases created
  · cases created
    exact KeyedRows.find_concat

theorem findReceipt_rewriteReceipt (store : Store) (txnId : ProviderTxnId) (order : PurchaseOrder)
    (receiptData : String) :
    (store.rewriteReceipt txnId order receiptData).findReceipt providerTxnId =
      if providerTxnId = txnId then
        (store.findReceipt providerTxnId).map (Store.rewritten order receiptData)
      else store.findReceipt providerTxnId :=
  KeyedRows.find_update_eq_ite (keeps_rewritten order receiptData)

theorem findReceipt_flagReceipt (store : Store) (txnId : ProviderTxnId) :
    (store.flagReceipt txnId).findReceipt providerTxnId =
      if providerTxnId = txnId then (store.findReceipt providerTxnId).map Store.verified
      else store.findReceipt providerTxnId :=
  KeyedRows.find_update_eq_ite keeps_verified

/-- A receipt is recorded unverified. -/
theorem verified_of_recording {request : VerifyPurchase} {order : PurchaseOrder}
    {txnId : ProviderTxnId} {existing : Bool} {reply : Reply}
    (verified : ((Call.recordingReceipt request order txnId existing).advance store reply).1.Verified
      providerTxnId) : store.Verified providerTxnId := by
  unfold Call.advance at verified
  dsimp only at verified
  split at verified
  · unfold Store.Verified at verified
    rw [findReceipt_rewriteReceipt] at verified
    split at verified
    · rw [Option.map_map] at verified
      obtain ⟨receipt, -, isFalse⟩ := Option.map_eq_some_iff.mp verified
      cases isFalse
    · exact verified
  · split at verified
    · exact verified
    · rename_i after created
      unfold Store.Verified at verified
      rw [findReceipt_createReceipt created] at verified
      cases found : store.findReceipt providerTxnId with
      | some receipt =>
          rw [found, Option.some_or] at verified
          unfold Store.Verified
          rw [found]
          exact verified
      | none =>
          rw [found, Option.none_or] at verified
          obtain ⟨receipt, isNew, isVerified⟩ := Option.map_eq_some_iff.mp verified
          split at isNew
          · cases isNew
            cases isVerified
          · cases isNew

theorem verified_of_advance {call : Call} {reply : Reply}
    (verified : (call.advance store reply).1.Verified providerTxnId) :
    store.Verified providerTxnId ∨ ∃ order, call = .flaggingReceipt order providerTxnId := by
  rcases receipts_advance call store reply with same | ⟨request, order, txnId, existing, rfl⟩ |
    ⟨order, txnId, rfl⟩
  · left
    unfold Store.Verified Store.findReceipt at verified
    rw [same] at verified
    exact verified
  · exact Or.inl (verified_of_recording verified)
  · by_cases isThis : providerTxnId = txnId
    · exact Or.inr ⟨order, isThis ▸ rfl⟩
    · left
      have kept : ((store.flagReceipt txnId).findReceipt providerTxnId).map _ = _ := verified
      rw [findReceipt_flagReceipt, if_neg isThis] at kept
      exact kept

theorem verified_advance (call : Call) (reply : Reply) (verified : store.Verified providerTxnId) :
    (call.advance store reply).1.Verified providerTxnId ∨
      ∃ request order, call = .recordingReceipt request order providerTxnId true := by
  obtain ⟨receipt, found, isVerified⟩ := Option.map_eq_some_iff.mp verified
  rcases receipts_advance call store reply with same | ⟨request, order, txnId, existing, rfl⟩ |
    ⟨order, txnId, rfl⟩
  · left
    unfold Store.Verified Store.findReceipt
    rw [same]
    exact verified
  · by_cases isThis : providerTxnId = txnId ∧ existing = true
    · obtain ⟨rfl, rfl⟩ := isThis
      exact Or.inr ⟨request, order, rfl⟩
    · left
      unfold Call.advance Store.Verified
      dsimp only
      split
      · rename_i isExisting
        rw [findReceipt_rewriteReceipt, if_neg fun same => isThis ⟨same, isExisting⟩]
        exact verified
      · split
        · exact verified
        · rename_i after created
          rw [findReceipt_createReceipt created, found, Option.some_or, Option.map_some, isVerified]
  · left
    change ((store.flagReceipt txnId).findReceipt providerTxnId).map _ = _
    rw [findReceipt_flagReceipt, found]
    split
    · rfl
    · rw [Option.map_some, isVerified]

/-- A receipt that was not there is of the order that records it. -/
theorem order_of_recorded {call : Call} {reply : Reply} {receipt : PaymentReceipt}
    (absent : store.findReceipt providerTxnId = none)
    (found : (call.advance store reply).1.findReceipt providerTxnId = some receipt) :
    ∃ request order existing, call = .recordingReceipt request order providerTxnId existing ∧
      receipt.purchaseOrderId = order.id := by
  rcases receipts_advance call store reply with same | ⟨request, order, txnId, existing, rfl⟩ |
    ⟨order, txnId, rfl⟩
  · unfold Store.findReceipt at found absent
    rw [same, absent] at found
    cases found
  · unfold Call.advance at found
    dsimp only at found
    split at found
    · rw [findReceipt_rewriteReceipt, absent, Option.map_none, ite_self] at found
      cases found
    · split at found
      · rw [absent] at found
        cases found
      · rename_i after created
        rw [findReceipt_createReceipt created, absent, Option.none_or] at found
        split at found
        · rename_i isThis
          cases found
          dsimp only at isThis
          subst isThis
          exact ⟨request, order, existing, rfl, rfl⟩
        · cases found
  · have kept : (store.flagReceipt txnId).findReceipt providerTxnId = some receipt := found
    rw [findReceipt_flagReceipt, absent, Option.map_none, ite_self] at kept
    cases kept

theorem completed_writeStatus {order : PurchaseOrder}
    (found : store.getOrderById orderId = some order) (providerTxnRef : Option ProviderTxnId) :
    (store.writeStatus orderId .completed providerTxnRef).Completed orderId := by
  have isRow : KeyedRows.find PurchaseOrder.id orderId store.orders = some order := found
  change (KeyedRows.find PurchaseOrder.id orderId (KeyedRows.update PurchaseOrder.id orderId
    (Store.setStatus .completed providerTxnRef) store.orders)).map _ = _
  rw [KeyedRows.find_update_self (keeps_setStatus _ _) isRow]
  rfl

/-- A call that is about to complete the order does, or is still about to. -/
theorem completes_advance {call : Call} (reply : Reply) {order : PurchaseOrder}
    (found : store.getOrderById orderId = some order) (completes : call.completes orderId = true) :
    (call.advance store reply).1.Completed orderId ∨
      (call.advance store reply).2.completes orderId = true := by
  cases call with
  | updatingStatus id status providerTxnRef =>
      right
      unfold Call.completes at completes
      rw [Bool.and_eq_true, decide_eq_true_eq, decide_eq_true_eq] at completes
      obtain ⟨rfl, rfl⟩ := completes
      unfold Call.advance
      dsimp only
      rw [found]
      unfold Call.completes
      simp
  | writingStatus id status providerTxnRef =>
      left
      unfold Call.completes at completes
      rw [Bool.and_eq_true, decide_eq_true_eq, decide_eq_true_eq] at completes
      obtain ⟨rfl, rfl⟩ := completes
      exact completed_writeStatus found providerTxnRef
  | _ => cases completes

theorem completes_flagging (store : Store) (order : PurchaseOrder) (txnId : ProviderTxnId)
    (reply : Reply) :
    ((Call.flaggingReceipt order txnId).advance store reply).2.completes order.id = true := by
  unfold Call.advance Call.completes
  simp

theorem pays_rewriting (store : Store) (request : VerifyPurchase) (order : PurchaseOrder)
    (txnId : ProviderTxnId) (reply : Reply) :
    ((Call.recordingReceipt request order txnId true).advance store reply).2.pays order.id txnId =
      true := by
  unfold Call.advance Call.pays
  simp

theorem completes_of_refunding {playOrderId : String} {order : PurchaseOrder} :
    (Call.refunding playOrderId order).completes orderId = false := by
  unfold Call.refunding
  split
  · rfl
  · rfl

/-- Only a call that flags a receipt comes to complete an order. -/
theorem completes_of_next {call : Call} {reply : Reply}
    (completes : (call.advance store reply).2.completes orderId = true) :
    call.completes orderId = true ∨
      ∃ order txnId, call = .flaggingReceipt order txnId ∧ order.id = orderId := by
  cases call with
  | flaggingReceipt order txnId =>
      right
      unfold Call.advance Call.completes at completes
      dsimp only at completes
      rw [Bool.and_eq_true, decide_eq_true_eq] at completes
      exact ⟨order, txnId, rfl, completes.1⟩
  | updatingStatus id status providerTxnRef =>
      left
      unfold Call.advance at completes
      dsimp only at completes
      split at completes
      · cases completes
      · exact completes
  | writingStatus id status providerTxnRef => cases completes
  | verifying request order =>
      unfold Call.advance at completes
      dsimp only at completes
      split at completes
      · split at completes
        · cases completes
        · cases completes
      · unfold Call.completes at completes
        simp at completes
  | findingByRef playOrderId purchaseToken =>
      unfold Call.advance at completes
      dsimp only at completes
      split at completes
      · rw [completes_of_refunding] at completes
        cases completes
      · cases completes
  | findingByToken playOrderId purchaseToken =>
      unfold Call.advance at completes
      dsimp only at completes
      split at completes
      · rw [completes_of_refunding] at completes
        cases completes
      · cases completes
  | reversing playOrderId order =>
      unfold Call.advance at completes
      dsimp only at completes
      split at completes
      · cases completes
      · split at completes
        · cases completes
        · unfold Call.completes at completes
          simp at completes
  | _ =>
      unfold Call.advance at completes
      dsimp only at completes
      repeat' split at completes
      all_goals cases completes

theorem toNumber_pos {value : Int} (positive : 0 < value) : 0 < toNumber value := by
  have nonneg := Binary64.round_nonneg (le_of_lt positive)
  have nonzero : Binary64.round value ≠ 0 := by
    intro isZero
    rw [(Binary64.round_eq_zero_iff value).mp isZero] at positive
    exact absurd positive (lt_irrefl 0)
  exact lt_of_le_of_ne nonneg nonzero.symm

theorem post_of_pos {transaction : WalletTransaction} (positive : 0 < transaction.amount) :
    store.post transaction =
      some { store with transactions := store.transactions.ensure transaction } := if_pos positive

/-- A call that pays flags the receipt, or is about to. -/
theorem pays_advance {call : Call} (reply : Reply) (relies : call.Relies store)
    (coins : ∀ order, store.getOrderById orderId = some order → 0 < order.totalCoins)
    (pays : call.pays orderId providerTxnId = true) :
    (call.advance store reply).1.Verified providerTxnId ∨
      (call.advance store reply).2.pays orderId providerTxnId = true := by
  cases call with
  | creditingWallet order txnId =>
      right
      have isThis := pays
      unfold Call.pays at isThis
      rw [Bool.and_eq_true, decide_eq_true_eq] at isThis
      obtain ⟨row, found, same⟩ := relies.1
      rw [isThis.1] at found
      have positive : 0 < (creditOf order txnId).amount := by
        apply toNumber_pos
        rw [same.2.2]
        exact coins row found
      unfold Call.advance
      dsimp only
      rw [post_of_pos positive]
      exact pays
  | flaggingReceipt order txnId =>
      left
      unfold Call.pays at pays
      rw [Bool.and_eq_true, decide_eq_true_eq, decide_eq_true_eq] at pays
      rw [← pays.2]
      exact verified_flagReceipt relies.1
  | _ => cases pays

/-- No call cancels or expires an order. -/
def Call.Closes : Call → Prop
  | .updatingStatus _ status _ => status ≠ .cancelled ∧ status ≠ .expired
  | .writingStatus _ status _ => status ≠ .cancelled ∧ status ≠ .expired
  | _ => True

theorem closes_refunding (playOrderId : String) (order : PurchaseOrder) :
    (Call.refunding playOrderId order).Closes := by
  unfold Call.refunding
  split
  · exact trivial
  · exact trivial

theorem closes_advance {call : Call} (store : Store) (reply : Reply) (closes : call.Closes) :
    (call.advance store reply).2.Closes := by
  cases call with
  | flaggingReceipt order txnId => exact ⟨nofun, nofun⟩
  | updatingStatus id status providerTxnRef =>
      unfold Call.advance
      dsimp only
      split
      · exact trivial
      · exact closes
  | verifying request order =>
      unfold Call.advance
      dsimp only
      split
      · split
        · exact trivial
        · exact trivial
      · exact ⟨nofun, nofun⟩
  | findingByRef playOrderId purchaseToken =>
      unfold Call.advance
      dsimp only
      split
      · exact closes_refunding playOrderId _
      · exact trivial
  | findingByToken playOrderId purchaseToken =>
      unfold Call.advance
      dsimp only
      split
      · exact closes_refunding playOrderId _
      · exact trivial
  | reversing playOrderId order =>
      unfold Call.advance
      dsimp only
      split
      · exact trivial
      · split
        · exact trivial
        · exact ⟨nofun, nofun⟩
  | _ =>
      unfold Call.advance
      dsimp only
      repeat' split
      all_goals exact trivial

end Advance

/-! ### Every run -/

/-- The flag and the status agree, but for what a call is about to do. -/
structure Settled (orderId : OrderId) (providerTxnId : ProviderTxnId) (store : Store)
    (calls : List Call) : Prop where
  verified : store.Verified providerTxnId →
    store.Completed orderId ∨ Completing orderId calls
  paid : store.Completed orderId ∨ Completing orderId calls →
    store.Verified providerTxnId ∨ Paying orderId providerTxnId calls
  own : ∀ receipt, store.findReceipt providerTxnId = some receipt →
    receipt.purchaseOrderId = orderId
  credited : store.Verified providerTxnId → Credited store orderId providerTxnId
  coins : ∀ order, store.getOrderById orderId = some order → 0 < order.totalCoins
  retryable : ∀ order, store.getOrderById orderId = some order →
    order.status ≠ .cancelled ∧ order.status ≠ .expired
  closes : ∀ call ∈ calls, call.Closes

section Steps

variable {store : Store} {calls : List Call} {position : Nat} {call : Call} {orderId : OrderId}
  {providerTxnId : ProviderTxnId} {reply : Reply}

theorem own_of_holds (settled : Settled orderId providerTxnId store calls) {id : OrderId}
    (holds : HoldsReceipt store providerTxnId id) : id = orderId := by
  obtain ⟨receipt, found, isOrder⟩ := holds
  exact isOrder.symm.trans (settled.own receipt found)

theorem completing_set (orderId : OrderId) (found : calls[position]? = some call) (next : Call) :
    Completing orderId (calls.set position next) ↔
      next.completes orderId = true ∨ Completing orderId (calls.eraseIdx position) :=
  exists_set_iff_others found next

theorem paying_set (orderId : OrderId) (providerTxnId : ProviderTxnId)
    (found : calls[position]? = some call) (next : Call) :
    Paying orderId providerTxnId (calls.set position next) ↔
      next.pays orderId providerTxnId = true ∨
        Paying orderId providerTxnId (calls.eraseIdx position) :=
  exists_set_iff_others found next

/-- What the order's completion needs, where a call goes on. -/
theorem verified_goOn (settled : Settled orderId providerTxnId store calls)
    (found : calls[position]? = some call) (relies : call.Relies store)
    (finishes : call.Finishes orderId providerTxnId store (calls.eraseIdx position))
    (verified : (call.advance store reply).1.Verified providerTxnId) :
    (call.advance store reply).1.Completed orderId ∨
      Completing orderId (calls.set position (call.advance store reply).2) := by
  have others := completing_set orderId found (call.advance store reply).2
  rcases verified_of_advance verified with before | ⟨order, rfl⟩
  · obtain ⟨order, isOrder, -⟩ := settled.credited before
    rcases settled.verified before with completed | completing
    · rcases completed_advance call reply completed with still | ⟨status, ref, rfl, notCompleted⟩
      · exact Or.inl still
      · exact Or.inr (others.mpr (Or.inr (finishes rfl notCompleted completed)))
    · rcases (exists_iff_others found).mp completing with own | other
      · rcases completes_advance reply isOrder own with now | still
        · exact Or.inl now
        · exact Or.inr (others.mpr (Or.inl still))
      · exact Or.inr (others.mpr (Or.inr other))
  · -- The call that flagged the receipt is the one to complete the order.
    obtain rfl := own_of_holds settled relies.1
    exact Or.inr (others.mpr (Or.inl (completes_flagging store order providerTxnId reply)))

theorem paid_goOn (settled : Settled orderId providerTxnId store calls)
    (found : calls[position]? = some call) (relies : call.Relies store)
    (finishes : call.Finishes orderId providerTxnId store (calls.eraseIdx position))
    (completed : (call.advance store reply).1.Completed orderId ∨
      Completing orderId (calls.set position (call.advance store reply).2)) :
    (call.advance store reply).1.Verified providerTxnId ∨
      Paying orderId providerTxnId (calls.set position (call.advance store reply).2) := by
  have others := paying_set orderId providerTxnId found (call.advance store reply).2
  have kept : store.Verified providerTxnId ∨ Paying orderId providerTxnId calls →
      (call.advance store reply).1.Verified providerTxnId ∨
        Paying orderId providerTxnId (calls.set position (call.advance store reply).2) := by
    rintro (verified | paying)
    · rcases verified_advance call reply verified with still | ⟨request, order, rfl⟩
      · exact Or.inl still
      · -- The receipt is rewritten, and paid again.
        obtain rfl := own_of_holds settled (relies.2 rfl)
        exact Or.inr (others.mpr (Or.inl (pays_rewriting store request order providerTxnId reply)))
    · rcases (exists_iff_others found).mp paying with own | other
      · rcases pays_advance reply relies settled.coins own with now | still
        · exact Or.inl now
        · exact Or.inr (others.mpr (Or.inl still))
      · exact Or.inr (others.mpr (Or.inr other))
  rcases completed with now | completing
  · rcases completed_of_advance now with before | own
    · exact kept (settled.paid (Or.inl before))
    · exact kept (settled.paid (Or.inr ((exists_iff_others found).mpr (Or.inl own))))
  · rcases (exists_set_iff_others found _).mp completing with next | other
    · rcases completes_of_next next with own | ⟨order, txnId, rfl, rfl⟩
      · exact kept (settled.paid (Or.inr ((exists_iff_others found).mpr (Or.inl own))))
      · by_cases isThis : txnId = providerTxnId
        · left
          rw [← isThis]
          exact verified_flagReceipt relies.1
        · rcases finishes rfl isThis with verified | paying
          · exact kept (Or.inl verified)
          · exact Or.inr (others.mpr (Or.inr paying))
    · exact kept (settled.paid (Or.inr ((exists_iff_others found).mpr (Or.inr other))))

theorem settled_goOn (settled : Settled orderId providerTxnId store calls)
    (regular : store.Regular) (found : calls[position]? = some call) (relies : call.Relies store)
    (finishes : call.Finishes orderId providerTxnId store (calls.eraseIdx position)) :
    Settled orderId providerTxnId (call.advance store reply).1
      (calls.set position (call.advance store reply).2) where
  verified := verified_goOn settled found relies finishes
  paid := paid_goOn settled found relies finishes
  own := by
    intro receipt isReceipt
    have grows := (advances_advance regular reply relies).grows
    cases before : store.findReceipt providerTxnId with
    | some held =>
        obtain ⟨later, isLater, sameOrder⟩ := grows.receipts _ _ before
        rw [isReceipt] at isLater
        rw [Option.some_inj.mp isLater, sameOrder]
        exact settled.own held before
    | none =>
        obtain ⟨request, order, existing, rfl, isOrder⟩ := order_of_recorded before isReceipt
        rw [isOrder]
        by_contra other
        have stored := finishes rfl other
        rw [before] at stored
        cases stored
  credited := by
    intro verified
    have grows := (advances_advance regular reply relies).grows
    rcases verified_of_advance verified with before | ⟨order, rfl⟩
    · exact credited_of_grows grows (settled.credited before)
    · rw [← own_of_holds settled relies.1]
      exact credited_of_grows grows relies.2
  coins := by
    intro order isOrder
    obtain ⟨before, isBefore, same, -⟩ := order_of_advance isOrder
    rw [same.2.2]
    exact settled.coins before isBefore
  retryable := by
    intro order isOrder
    obtain ⟨before, isBefore, -, rfl | ⟨ref, rfl⟩⟩ := order_of_advance isOrder
    · exact settled.retryable order isBefore
    · exact settled.closes _ (List.mem_of_getElem? found)
  closes := by
    intro other member
    rcases List.mem_or_eq_of_mem_set member with before | rfl
    · exact settled.closes other before
    · exact closes_advance store reply (settled.closes call (List.mem_of_getElem? found))

theorem settled_ended (settled : Settled orderId providerTxnId store calls)
    (found : calls[position]? = some call)
    (mayFail : call.MayFail orderId providerTxnId store (calls.eraseIdx position)) :
    Settled orderId providerTxnId store (calls.set position .ended) where
  verified := by
    intro verified
    rw [completing_set orderId found]
    rcases settled.verified verified with completed | completing
    · exact Or.inl completed
    · rcases (exists_iff_others found).mp completing with own | other
      · exact (mayFail.1 own verified).imp_right Or.inr
      · exact Or.inr (Or.inr other)
  paid := by
    rw [completing_set orderId found, paying_set orderId providerTxnId found]
    intro completed
    have others : store.Completed orderId ∨ Completing orderId (calls.eraseIdx position) :=
      completed.imp_right fun completing => completing.resolve_left nofun
    have before : store.Completed orderId ∨ Completing orderId calls :=
      others.imp_right fun completing => (exists_iff_others found).mpr (Or.inr completing)
    rcases settled.paid before with verified | paying
    · exact Or.inl verified
    · rcases (exists_iff_others found).mp paying with own | other
      · exact (mayFail.2 own others).imp_right Or.inr
      · exact Or.inr (Or.inr other)
  own := settled.own
  credited := settled.credited
  coins := settled.coins
  retryable := settled.retryable
  closes := by
    intro other member
    rcases List.mem_or_eq_of_mem_set member with before | rfl
    · exact settled.closes other before
    · exact trivial

theorem settled_spawn (settled : Settled orderId providerTxnId store calls)
    (completes : call.completes orderId = false) (closes : call.Closes) : Settled orderId providerTxnId store (calls ++ [call]) where
  verified := by
    intro verified
    refine (settled.verified verified).imp_right ?_
    rintro ⟨other, member, isCompleting⟩
    exact ⟨other, List.mem_append_left _ member, isCompleting⟩
  paid := by
    intro completed
    have before : store.Completed orderId ∨ Completing orderId calls := by
      refine completed.imp_right ?_
      rintro ⟨other, member, isCompleting⟩
      rcases List.mem_append.mp member with earlier | isNew
      · exact ⟨other, earlier, isCompleting⟩
      · rw [List.mem_singleton.mp isNew, completes] at isCompleting
        cases isCompleting
    refine (settled.paid before).imp_right ?_
    rintro ⟨other, member, isPaying⟩
    exact ⟨other, List.mem_append_left _ member, isPaying⟩
  own := settled.own
  credited := settled.credited
  coins := settled.coins
  retryable := settled.retryable
  closes := by
    intro other member
    rcases List.mem_append.mp member with earlier | isNew
    · exact settled.closes other earlier
    · rw [List.mem_singleton.mp isNew]
      exact closes

/-- Orders are written outside of calls, and not the completed one. -/
theorem settled_of_orders (settled : Settled orderId providerTxnId store calls)
    {orders : List PurchaseOrder} (grows : Grows store { store with orders := orders })
    (kept : ∀ order, store.getOrderById orderId = some order →
      KeyedRows.find PurchaseOrder.id orderId orders = some order)
    (only : ∀ order, KeyedRows.find PurchaseOrder.id orderId orders = some order →
      store.getOrderById orderId = some order ∨
        order.status = .created ∧ 0 < order.totalCoins) :
    Settled orderId providerTxnId { store with orders := orders } calls where
  verified := by
    intro verified
    refine (settled.verified verified).imp_left ?_
    intro completed
    obtain ⟨order, found, isCompleted⟩ := Option.map_eq_some_iff.mp completed
    exact Option.map_eq_some_iff.mpr ⟨order, kept order found, isCompleted⟩
  paid := by
    intro completed
    apply settled.paid
    refine completed.imp_left ?_
    intro now
    obtain ⟨order, found, isCompleted⟩ := Option.map_eq_some_iff.mp now
    rcases only order found with before | ⟨isCreated, -⟩
    · exact Option.map_eq_some_iff.mpr ⟨order, before, isCompleted⟩
    · rw [isCreated] at isCompleted
      cases isCompleted
  own := settled.own
  credited := fun verified => credited_of_grows grows (settled.credited verified)
  coins := by
    intro order found
    rcases only order found with before | ⟨-, positive⟩
    · exact settled.coins order before
    · exact positive
  retryable := by
    intro order found
    rcases only order found with before | ⟨isCreated, -⟩
    · exact settled.retryable order before
    · rw [isCreated]
      exact ⟨nofun, nofun⟩
  closes := settled.closes

theorem settled_createOrder (settled : Settled orderId providerTxnId store calls)
    (userId : UserId) (provider : PaymentProvider) (googleProductId : Option String)
    {totalCoins : Int} (expiresAt : Nat) (positive : store.orders.length = orderId → 0 < totalCoins) :
    Settled orderId providerTxnId
      (store.createOrder userId provider googleProductId totalCoins expiresAt) calls := by
  apply settled_of_orders settled (grows_createOrder _ _ _ _ _ store)
  · intro order found
    have isRow : KeyedRows.find PurchaseOrder.id orderId store.orders = some order := found
    rw [KeyedRows.find_concat, isRow, Option.some_or]
  · intro order found
    rw [KeyedRows.find_concat] at found
    rcases Option.or_eq_some_iff.mp found with before | ⟨-, isNew⟩
    · exact Or.inl before
    · split at isNew
      · rename_i isThis
        cases isNew
        exact Or.inr ⟨rfl, positive isThis⟩
      · cases isNew

theorem settled_reconcile (settled : Settled orderId providerTxnId store calls) (now : Nat)
    (alive : ∀ order ∈ store.getOrderById orderId, Store.isExpirable now order = false) :
    Settled orderId providerTxnId (store.reconcileExpiredOrders now) calls := by
  have same : ∀ order, store.getOrderById orderId = some order → expire now order = order := by
    intro order found
    unfold expire
    rw [alive order found, if_neg Bool.false_ne_true]
  apply settled_of_orders settled (grows_map (sameTerms_expire now))
  · intro order found
    have isRow : KeyedRows.find PurchaseOrder.id orderId store.orders = some order := found
    have mapped := getOrderById_map (expire now) (sameTerms_expire now) store.orders orderId
    rw [isRow, Option.map_some, same order found] at mapped
    exact mapped
  · intro order found
    have mapped := getOrderById_map (expire now) (sameTerms_expire now) store.orders orderId
    obtain ⟨before, isBefore, rfl⟩ := Option.map_eq_some_iff.mp (mapped.symm.trans found)
    left
    rw [same before isBefore]
    exact isBefore

theorem settled_step {world : World} (sound : world.Sound)
    (settled : Settled orderId providerTxnId world.store world.calls) (event : Event)
    (finishes : world.Finishes orderId providerTxnId event) :
    Settled orderId providerTxnId (world.step event).store (world.step event).calls := by
  cases event with
  | createPurchaseOrder userId provider googleProductId totalCoins expiresAt =>
      exact settled_createOrder settled userId provider googleProductId expiresAt finishes
  | fulfill request => exact settled_spawn settled rfl trivial
  | handleNotification playOrderId purchaseToken =>
      unfold World.step
      dsimp only
      split
      · exact settled
      · exact settled_spawn settled rfl trivial
  | resume position reply =>
      unfold World.step
      dsimp only
      cases found : world.calls[position]? with
      | none => exact settled
      | some call =>
          exact settled_goOn settled sound.world found
            (sound.asserts call (List.mem_of_getElem? found)) (finishes call found)
  | fails position =>
      unfold World.step
      dsimp only
      cases found : world.calls[position]? with
      | none =>
          rw [List.set_eq_of_length_le (List.getElem?_eq_none_iff.mp found)]
          exact settled
      | some call => exact settled_ended settled found (finishes call found)
  | reconcileExpiredOrders now => exact settled_reconcile settled now finishes

theorem settled_empty (orderId : OrderId) (providerTxnId : ProviderTxnId) :
    Settled orderId providerTxnId {} [] where
  verified := by
    intro verified
    cases verified
  paid := by
    rintro (completed | ⟨call, member, -⟩)
    · cases completed
    · cases member
  own := by
    intro receipt found
    cases found
  credited := by
    intro verified
    cases verified
  coins := by
    intro order found
    cases found
  retryable := by
    intro order found
    cases found
  closes := List.forall_mem_nil _

end Steps

/-! ### The retry -/

/-- The call goes on with no other between. -/
def drive (reply : Reply) : Nat → Store × Call → Store × Call
  | 0, state => state
  | times + 1, state => drive reply times (state.2.advance state.1 reply)

theorem run_resumes (reply : Reply) (times : Nat) (world : World) {position : Nat} {call : Call}
    (found : world.calls[position]? = some call) :
    (Runs.run World.step world (List.replicate times (.resume position reply))).store =
      (drive reply times (world.store, call)).1 := by
  induction times generalizing world call with
  | zero => rfl
  | succ times ih =>
      have inside := (List.getElem?_eq_some_iff.mp found).1
      have stepped : world.step (.resume position reply) = world.resume position reply call := by
        unfold World.step
        dsimp only
        rw [found]
      rw [List.replicate_succ]
      change (Runs.run World.step (world.step (.resume position reply)) _).store = _
      rw [stepped]
      exact ih (world.resume position reply call) (List.getElem?_set_self inside)

theorem drive_ended (reply : Reply) (times : Nat) (store : Store) :
    drive reply times (store, .ended) = (store, .ended) := by
  induction times with
  | zero => rfl
  | succ times ih => exact ih

section Retries

variable {store : Store} {order : PurchaseOrder} {orderId : OrderId}
  {providerTxnId : ProviderTxnId} {request : VerifyPurchase} {reply : Reply}

/-- One transaction has the key of a credit. -/
theorem once_of_credited (credited : Credited store orderId providerTxnId) :
    (store.transactions.rows.filter fun row =>
      row.idempotencyKey = rechargeKey providerTxnId).length = 1 := by
  obtain ⟨order, -, member⟩ := credited
  apply Nat.le_antisymm (store.transactions.length_filter_le_one (rechargeKey providerTxnId))
  apply List.length_pos_of_mem
  exact List.mem_filter.mpr ⟨member, decide_eq_true rfl⟩

theorem fulfilled_flagging
    (relies : (Call.flaggingReceipt order providerTxnId).Relies store) :
    (drive reply 3 (store, .flaggingReceipt order providerTxnId)).1.Fulfilled order.id
      providerTxnId := by
  obtain ⟨holds, credited⟩ := relies
  obtain ⟨row, found, -⟩ := id credited
  have stillFound : (store.flagReceipt providerTxnId).getOrderById order.id = some row := found
  have isDriven : drive reply 3 (store, .flaggingReceipt order providerTxnId) =
      ((store.flagReceipt providerTxnId).writeStatus order.id .completed (some providerTxnId),
        .ended) := by
    unfold drive drive drive drive Call.advance
    dsimp only
    rw [stillFound]
    rfl
  rw [isDriven]
  have once := once_of_credited credited
  exact ⟨completed_writeStatus stillFound _, verified_flagReceipt holds, once⟩

theorem fulfilled_crediting (regular : store.Regular) (positive : 0 < order.totalCoins)
    (relies : (Call.creditingWallet order providerTxnId).Relies store) :
    (drive reply 4 (store, .creditingWallet order providerTxnId)).1.Fulfilled order.id
      providerTxnId := by
  have posted : store.post (creditOf order providerTxnId) =
      some { store with
        transactions := store.transactions.ensure (creditOf order providerTxnId) } :=
    post_of_pos (toNumber_pos positive)
  have advances := advances_crediting regular reply relies
  have isNext : (Call.creditingWallet order providerTxnId).advance store reply =
      ({ store with transactions := store.transactions.ensure (creditOf order providerTxnId) },
        .flaggingReceipt order providerTxnId) := by
    unfold Call.advance
    dsimp only
    rw [posted]
  rw [isNext] at advances
  change (drive reply 3 ((Call.creditingWallet order providerTxnId).advance store reply)).1.Fulfilled
    order.id providerTxnId
  rw [isNext]
  exact fulfilled_flagging advances.relies

/-- No other call has recorded the receipt between. -/
theorem fulfilled_recording (regular : store.Regular) (positive : 0 < order.totalCoins)
    {existing : Bool}
    (relies : (Call.recordingReceipt request order providerTxnId existing).Relies store)
    (absent : existing = false → store.findReceipt providerTxnId = none) :
    (drive reply 5 (store, .recordingReceipt request order providerTxnId existing)).1.Fulfilled
      order.id providerTxnId := by
  have advances := advances_recording regular reply relies
  have isNext : ((Call.recordingReceipt request order providerTxnId existing).advance store
      reply).2 = .creditingWallet order providerTxnId := by
    unfold Call.advance
    dsimp only
    split
    · rfl
    · rename_i isNew
      unfold Store.createReceipt
      dsimp only
      rw [absent (Bool.eq_false_of_not_eq_true isNew)]
  rw [isNext] at advances
  change (drive reply 4 ((Call.recordingReceipt request order providerTxnId existing).advance store
    reply)).1.Fulfilled order.id providerTxnId
  have paired : (Call.recordingReceipt request order providerTxnId existing).advance store reply =
      (((Call.recordingReceipt request order providerTxnId existing).advance store reply).1,
        .creditingWallet order providerTxnId) := Prod.ext rfl isNext
  rw [paired]
  exact fulfilled_crediting advances.regular positive advances.relies

theorem fulfilled_finding (settled : Settled orderId providerTxnId store [])
    (regular : store.Regular) (found : store.getOrderById orderId = some order)
    (notVerified : ¬store.Verified providerTxnId) :
    (drive reply 6 (store, .findingReceipt request order providerTxnId)).1.Fulfilled order.id
      providerTxnId := by
  have known := known_of_getOrderById found
  have positive := settled.coins order found
  change (drive reply 5 ((Call.findingReceipt request order providerTxnId).advance store
    reply)).1.Fulfilled order.id providerTxnId
  unfold Call.advance
  dsimp only
  cases isFound : store.findReceipt providerTxnId with
  | none => exact fulfilled_recording regular positive ⟨known, nofun⟩ fun _ => isFound
  | some existingReceipt =>
      dsimp only
      have sameOrder : existingReceipt.purchaseOrderId = order.id := by
        rw [settled.own existingReceipt isFound, id_of_getOrderById found]
      rw [if_neg, if_neg (not_not_intro sameOrder)]
      · exact fulfilled_recording regular positive ⟨known, fun _ => ⟨_, isFound, sameOrder⟩⟩ nofun
      · intro isVerified
        apply notVerified
        unfold Store.Verified
        rw [isFound, Option.map_some, isVerified]

/-- With all calls ended, the flag and the status agree, and the retry goes through. -/
theorem fulfilled_gettingOrder (settled : Settled orderId providerTxnId store [])
    (regular : store.Regular) (found : store.getOrderById orderId = some order)
    (retry : Retry order providerTxnId request reply) :
    (drive reply 8 (store, .gettingOrder request)).1.Fulfilled orderId providerTxnId := by
  have isId := id_of_getOrderById found
  have isOrder : store.getOrderById request.orderId = some order := by
    rw [retry.sameOrder, isId]
    exact found
  have isOwner : ¬(request.enforceOwnership = true ∧ order.userId ≠ request.actorId) := by
    rintro ⟨isEnforced, isOther⟩
    exact isOther (retry.mayAct isEnforced)
  change (drive reply 7 ((Call.gettingOrder request).advance store reply)).1.Fulfilled orderId
    providerTxnId
  unfold Call.advance
  dsimp only
  rw [isOrder]
  dsimp only
  rw [if_neg isOwner]
  split
  · rename_i isCompleted
    rw [drive_ended]
    have completed : store.Completed orderId := by
      unfold Store.Completed
      rw [found, Option.map_some, isCompleted]
    have verified : store.Verified providerTxnId := by
      rcases settled.paid (Or.inl completed) with verified | ⟨call, member, -⟩
      · exact verified
      · cases member
    exact ⟨completed, verified, once_of_credited (settled.credited verified)⟩
  · rename_i notCompleted
    have notVerified : ¬store.Verified providerTxnId := by
      intro verified
      rcases settled.verified verified with completed | ⟨call, member, -⟩
      · apply notCompleted
        unfold Store.Completed at completed
        rw [found] at completed
        exact Option.some_inj.mp completed
      · cases member
    obtain ⟨notCancelled, notExpired⟩ := settled.retryable order found
    rw [if_neg (not_or.mpr ⟨notCancelled, notExpired⟩)]
    change (drive reply 6 ((Call.verifying request order).advance store reply)).1.Fulfilled orderId
      providerTxnId
    unfold Call.advance
    dsimp only
    rw [if_pos retry.accepted, retry.sameTxn, ← isId]
    exact fulfilled_finding settled regular found notVerified

end Retries

/-- Ended calls are about to do nothing. -/
theorem settled_idle {world : World} {orderId : OrderId} {providerTxnId : ProviderTxnId}
    (settled : Settled orderId providerTxnId world.store world.calls)
    (idle : ∀ call ∈ world.calls, call = .ended) :
    Settled orderId providerTxnId world.store [] where
  verified := by
    intro verified
    refine (settled.verified verified).imp_right ?_
    rintro ⟨call, member, completes⟩
    rw [idle call member] at completes
    cases completes
  paid := by
    intro completed
    have before : world.store.Completed orderId ∨ Completing orderId world.calls := by
      refine completed.imp_right ?_
      rintro ⟨call, member, -⟩
      cases member
    refine (settled.paid before).imp_right ?_
    rintro ⟨call, member, pays⟩
    rw [idle call member] at pays
    cases pays
  own := settled.own
  credited := settled.credited
  coins := settled.coins
  retryable := settled.retryable
  closes := List.forall_mem_nil _

theorem converges_of_settled {world : World} {orderId : OrderId} {providerTxnId : ProviderTxnId}
    (sound : world.Sound) (settled : Settled orderId providerTxnId world.store world.calls) :
    world.Converges orderId providerTxnId := by
  intro idle order found request reply retry
  change (Runs.run World.step (world.spawn (.gettingOrder request)) _).store.Fulfilled orderId
    providerTxnId
  rw [run_resumes reply 8 (world.spawn (.gettingOrder request))
    (List.getElem?_concat_length ..)]
  have alone := settled_idle settled idle
  exact fulfilled_gettingOrder alone sound.world found retry

/-- In every run under the condition, the retry of an order fulfils it. -/
theorem converges_of_finishes (orderId : OrderId) (providerTxnId : ProviderTxnId)
    (events : List Event)
    (finishes : Runs.Each World.step (World.Finishes orderId providerTxnId) {} events) :
    Runs.Always World.step (World.Converges orderId providerTxnId) {} events := by
  have kept : ∀ (world : World) (event : Event),
      world.Sound ∧ Settled orderId providerTxnId world.store world.calls →
        world.Finishes orderId providerTxnId event → (world.step event).Sound ∧
          Settled orderId providerTxnId (world.step event).store (world.step event).calls := by
    rintro world event ⟨sound, settled⟩ isFinishing
    exact ⟨World.sound_step sound event, settled_step sound settled event isFinishing⟩
  have always := Runs.always_of_each kept {}
    ⟨World.sound_empty, settled_empty orderId providerTxnId⟩ events finishes
  exact always.imp fun world invariant => converges_of_settled invariant.1 invariant.2

/-! ### Crashes and a rejected receipt -/

def rejected : Reply := { verification := { isVerified := false } }

/-- A call dies after its credit, another is rejected and marks the order FAILED, and a third
completes it. -/
def crashedAfterCredit : List Event :=
  [ordered, fulfilling "token"] ++ resumes 0 5 (bought "play") ++ [.fails 0, fulfilling "forged"] ++
    resumes 1 4 rejected ++ [fulfilling "token"] ++ resumes 2 8 (bought "play")

theorem converges_crashedAfterCredit :
    Runs.Always World.step (World.Converges 0 "play") {} crashedAfterCredit :=
  converges_of_finishes 0 "play" crashedAfterCredit (by decide +kernel)

/-- The call dies after the flag. -/
def crashedAfterFlag : List Event :=
  [ordered, fulfilling "token"] ++ resumes 0 6 (bought "play") ++ [.fails 0]

/-- A rejected call writes the order after another has completed it. -/
def rejectedAfterCompleted : List Event :=
  [ordered, fulfilling "forged"] ++ resumes 0 3 rejected ++ [fulfilling "token"] ++
    resumes 1 8 (bought "play") ++ resumes 0 1 rejected

def aliceRetry : VerifyPurchase := { orderId := 0, receiptData := "token", actorId := "alice" }

theorem not_converges_crashedAfterFlag :
    ¬Runs.Always World.step (World.Converges 0 "play") {} crashedAfterFlag ∧
      ¬Runs.Always World.step (World.Converges 0 "play") {} rejectedAfterCompleted := by
  constructor
  · intro always
    have fulfilled := always.final (by decide +kernel) aliceOrder (by decide +kernel) aliceRetry
      (bought "play") ⟨rfl, fun _ => rfl, by decide +kernel, by decide +kernel⟩
    exact absurd fulfilled.completed (by decide +kernel)
  · intro always
    have fulfilled := always.final (by decide +kernel) { aliceOrder with status := .failed }
      (by decide +kernel) aliceRetry (bought "play")
      ⟨rfl, fun _ => rfl, by decide +kernel, by decide +kernel⟩
    exact absurd fulfilled.completed (by decide +kernel)

end Soulzaa.Payments
