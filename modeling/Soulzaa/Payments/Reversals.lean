/-
What purchases credit and take back, over whole runs.

The key of the credit is that of the receipt, and a reference stands on an order only after
the credit.  The key of the reversal is the notification's, and its order is found in one
of two ways: by the reference, or by the token on a receipt that need not be verified.
-/

import Soulzaa.Payments.Safety

namespace Soulzaa.Payments

open Interleaving

/-! ### What is claimed -/

/-- A provider transaction is credited once, to the owner of the order that first stored
its receipt, with that order's coins. -/
structure Store.CreditsStored (store : Store) : Prop where
  once : ∀ providerTxnId, (store.transactions.rows.filter fun row =>
    row.idempotencyKey = rechargeKey providerTxnId).length ≤ 1
  first : ∀ providerTxnId one two, (providerTxnId, one) ∈ store.stored →
    (providerTxnId, two) ∈ store.stored → one = two
  owner : ∀ row ∈ store.transactions.rows, row.transactionType = .deposit →
    ∃ providerTxnId order, row.idempotencyKey = rechargeKey providerTxnId ∧
      (providerTxnId, order.id) ∈ store.stored ∧ store.getOrderById order.id = some order ∧
        row.userId = order.userId ∧ row.amount = order.totalCoins

/-- A Play order is reversed once, after it was credited, by the credited amount. -/
structure Store.ReversesCredited (store : Store) : Prop where
  once : ∀ playOrderId, (store.transactions.rows.filter fun row =>
    row.idempotencyKey = reversalKey playOrderId).length ≤ 1
  credited : ∀ front row, front ++ [row] <+: store.transactions.rows →
    row.transactionType = .withdrawal →
      ∃ playOrderId, row.idempotencyKey = reversalKey playOrderId ∧
        ∃ credit ∈ front, credit.transactionType = .deposit ∧
          credit.idempotencyKey = rechargeKey playOrderId ∧ credit.userId = row.userId ∧
            credit.amount = row.amount

/-! ### The condition -/

/-- The order that the purchase token leads to. -/
def Store.orderOfToken (store : Store) (purchaseToken : String) : Option PurchaseOrder :=
  (store.findByToken purchaseToken).bind fun receipt => store.getOrderById receipt.purchaseOrderId

/-- The coins are exact as a number; and a completed order that a notification finds by the
token only has the receipt of the Play order, and that was credited. -/
def Call.Settles (store : Store) : Call → Prop
  | .creditingWallet order _ => toNumber order.totalCoins = order.totalCoins
  | .findingByToken playOrderId purchaseToken =>
      ∀ order ∈ store.orderOfToken purchaseToken, order.status = .completed →
        (store.findReceipt playOrderId).map PaymentReceipt.purchaseOrderId = some order.id ∧
          ¬store.transactions.Absent (rechargeKey playOrderId)
  | _ => True

instance (store : Store) : (call : Call) → Decidable (call.Settles store)
  | .creditingWallet _ _ => inferInstanceAs (Decidable (_ = _))
  | .findingByToken _ _ => inferInstanceAs (Decidable (∀ order ∈ store.orderOfToken _, _))
  | .gettingOrder _ => inferInstanceAs (Decidable True)
  | .verifying _ _ => inferInstanceAs (Decidable True)
  | .findingReceipt _ _ _ => inferInstanceAs (Decidable True)
  | .recordingReceipt _ _ _ _ => inferInstanceAs (Decidable True)
  | .flaggingReceipt _ _ => inferInstanceAs (Decidable True)
  | .updatingStatus _ _ _ => inferInstanceAs (Decidable True)
  | .writingStatus _ _ _ => inferInstanceAs (Decidable True)
  | .findingByRef _ _ => inferInstanceAs (Decidable True)
  | .reversing _ _ => inferInstanceAs (Decidable True)
  | .ended => inferInstanceAs (Decidable True)

def World.Settles (world : World) : Event → Prop
  | .resume position _ => ∀ call ∈ world.calls[position]?, call.Settles world.store
  | _ => True

instance (world : World) : (event : Event) → Decidable (world.Settles event)
  | .resume position _ => inferInstanceAs (Decidable (∀ call ∈ world.calls[position]?, _))
  | .createPurchaseOrder _ _ _ _ _ => inferInstanceAs (Decidable True)
  | .fulfill _ => inferInstanceAs (Decidable True)
  | .handleNotification _ _ => inferInstanceAs (Decidable True)
  | .fails _ => inferInstanceAs (Decidable True)
  | .reconcileExpiredOrders _ => inferInstanceAs (Decidable True)

/-! ### Credits and reversals -/

structure Store.Backed (store : Store) : Prop where
  exact : ∀ row ∈ store.transactions.rows, row.transactionType = .deposit →
    ∃ providerTxnId order, row = creditOf order providerTxnId ∧
      store.getOrderById order.id = some order ∧ HoldsReceipt store providerTxnId order.id ∧
        toNumber order.totalCoins = order.totalCoins
  credited : ∀ front row, front ++ [row] <+: store.transactions.rows →
    row.transactionType = .withdrawal →
      ∃ playOrderId order, row = reversalOf order playOrderId ∧ creditOf order playOrderId ∈ front

/-- What is about to be reversed was credited. -/
def Call.Backed (store : Store) : Call → Prop
  | .reversing playOrderId order => creditOf order playOrderId ∈ store.transactions.rows
  | _ => True

variable {store after : Store} {call : Call} {order : PurchaseOrder}
  {providerTxnId : ProviderTxnId}

theorem exact_of_grows (backed : store.Backed) (grows : Grows store after)
    {row : WalletTransaction} (member : row ∈ store.transactions.rows)
    (isDeposit : row.transactionType = .deposit) :
    ∃ providerTxnId order, row = creditOf order providerTxnId ∧
      after.getOrderById order.id = some order ∧ HoldsReceipt after providerTxnId order.id ∧
        toNumber order.totalCoins = order.totalCoins := by
  obtain ⟨providerTxnId, order, isCredit, found, holds, isExact⟩ :=
    backed.exact row member isDeposit
  obtain ⟨later, foundLater, same⟩ := grows.orders _ _ found
  refine ⟨providerTxnId, later, ?_, ?_, ?_, ?_⟩
  · rw [isCredit, creditOf_of_sameTerms same]
  · rw [same.1]
    exact foundLater
  · rw [same.1]
    exact holdsReceipt_of_grows grows holds
  · rw [same.2.2]
    exact isExact

theorem Store.Backed.of_grows (backed : store.Backed) (grows : Grows store after)
    (same : after.transactions = store.transactions) : after.Backed where
  exact := by
    intro row member
    rw [same] at member
    exact exact_of_grows backed grows member
  credited := by
    rw [same]
    exact backed.credited

theorem Call.Backed.of_grows (backed : call.Backed store) (grows : Grows store after) :
    call.Backed after := by
  cases call with
  | reversing playOrderId order => exact grows.transactions _ backed
  | _ => exact trivial

theorem backed_credit (backed : store.Backed)
    (relies : (Call.creditingWallet order providerTxnId).Relies store)
    (isExact : toNumber order.totalCoins = order.totalCoins) :
    Store.Backed
      { store with transactions := store.transactions.ensure (creditOf order providerTxnId) } where
  exact := by
    intro row member isDeposit
    have grows := grows_post store (creditOf order providerTxnId)
    rcases UniqueTable.mem_ensure member with before | ⟨rfl, -⟩
    · exact exact_of_grows backed grows before isDeposit
    · obtain ⟨⟨stored, found, same⟩, holds⟩ := relies
      have isCredit := creditOf_of_sameTerms same providerTxnId
      rw [same.1] at found holds
      refine ⟨providerTxnId, stored, isCredit, found, holds, ?_⟩
      rw [← same.2.2]
      exact isExact
  credited := by
    intro front row inside isWithdrawal
    rcases UniqueTable.prefix_ensure inside with before | ⟨-, rfl⟩
    · exact backed.credited front row before isWithdrawal
    · cases isWithdrawal

theorem backed_reversal (backed : store.Backed) (playOrderId : ProviderTxnId)
    (isCredited : creditOf order playOrderId ∈ store.transactions.rows) :
    Store.Backed
      { store with transactions := store.transactions.ensure (reversalOf order playOrderId) } where
  exact := by
    intro row member isDeposit
    rcases UniqueTable.mem_ensure member with before | ⟨rfl, -⟩
    · exact exact_of_grows backed (grows_post store _) before isDeposit
    · cases isDeposit
  credited := by
    intro front row inside isWithdrawal
    rcases UniqueTable.prefix_ensure inside with before | ⟨rfl, rfl⟩
    · exact backed.credited front row before isWithdrawal
    · exact ⟨playOrderId, order, rfl, isCredited⟩

theorem backed_refunding (playOrderId : String)
    (isCredited : order.status = .completed →
      creditOf order playOrderId ∈ store.transactions.rows) :
    (Call.refunding playOrderId order).Backed store := by
  unfold Call.refunding
  split
  · rename_i isCompleted
    exact isCredited isCompleted
  · exact trivial

theorem mem_of_findByRef {playOrderId : String} (found : store.findByRef playOrderId = some order) :
    order ∈ store.orders ∧ order.providerTxnRef = some playOrderId := by
  unfold Store.findByRef at found
  have holds := List.find?_some found
  rw [decide_eq_true_eq] at holds
  exact ⟨List.mem_reverse.mp (List.mem_of_find?_eq_some found), holds.2⟩

/-- The wallet rows are written by two kinds of calls. -/
theorem transactions_advance (call : Call) (store : Store) (reply : Reply) :
    (call.advance store reply).1.transactions = store.transactions ∨
      (∃ order providerTxnId, call = .creditingWallet order providerTxnId ∧
        (call.advance store reply).1 =
          { store with transactions := store.transactions.ensure (creditOf order providerTxnId) }) ∨
      (∃ playOrderId order, call = .reversing playOrderId order ∧
        (call.advance store reply).1 =
          { store with
            transactions := store.transactions.ensure (reversalOf order playOrderId) }) := by
  cases call with
  | creditingWallet order providerTxnId =>
      unfold Call.advance
      dsimp only
      split
      · exact Or.inl rfl
      · rename_i after posted
        exact Or.inr (Or.inl ⟨order, providerTxnId, rfl, post_eq_some posted⟩)
  | reversing playOrderId order =>
      unfold Call.advance
      dsimp only
      split
      · exact Or.inl rfl
      · split
        · exact Or.inl rfl
        · rename_i after posted
          exact Or.inr (Or.inr ⟨playOrderId, order, rfl, post_eq_some posted⟩)
  | recordingReceipt request order providerTxnId existing =>
      unfold Call.advance
      dsimp only
      split
      · exact Or.inl rfl
      · split
        · exact Or.inl rfl
        · rename_i after created
          unfold Store.createReceipt at created
          split at created
          · cases created
          · cases created
            exact Or.inl rfl
  | _ => exact Or.inl rfl

/-- A call goes on, under the condition. -/
theorem backed_advance (regular : store.Regular) (backed : store.Backed) (reply : Reply)
    (relies : call.Relies store) (pending : call.Backed store) (settles : call.Settles store) :
    (call.advance store reply).1.Backed := by
  rcases transactions_advance call store reply with same |
    ⟨order, providerTxnId, rfl, isAfter⟩ | ⟨playOrderId, order, rfl, isAfter⟩
  · exact backed.of_grows (advances_advance regular reply relies).grows same
  · rw [isAfter]
    exact backed_credit backed relies settles
  · rw [isAfter]
    exact backed_reversal backed playOrderId pending

/-- A notification goes on to the reversal of what was credited. -/
theorem backed_next (regular : store.Regular) (reply : Reply) (settles : call.Settles store) :
    (call.advance store reply).2.Backed (call.advance store reply).1 := by
  cases call with
  | findingByRef playOrderId purchaseToken =>
      unfold Call.advance
      dsimp only
      split
      · rename_i order found
        obtain ⟨member, isRef⟩ := mem_of_findByRef found
        exact backed_refunding playOrderId fun _ => regular.refs order member playOrderId isRef
      · exact trivial
  | findingByToken playOrderId purchaseToken =>
      unfold Call.advance
      dsimp only
      split
      · rename_i order found
        apply backed_refunding playOrderId
        intro isCompleted
        obtain ⟨isOrder, taken⟩ := settles order found isCompleted
        obtain ⟨receipt, isReceipt, sameOrder⟩ := Option.map_eq_some_iff.mp isOrder
        obtain ⟨held, -, isHeld⟩ := Option.bind_eq_some_iff.mp found
        have isRow : store.getOrderById order.id = some order := by
          rw [id_of_getOrderById isHeld]
          exact isHeld
        exact credited_of_taken regular isRow ⟨receipt, isReceipt, sameOrder⟩ taken
      · exact trivial
  | _ =>
      -- No other call leads to a reversal.
      unfold Call.advance
      dsimp only
      repeat' split
      all_goals exact trivial

/-! ### Every run -/

def booked : Outline Store Call where
  world := Store.Backed
  asserts := fun store call => call.Backed store
  apart := fun _ _ => True

namespace World

variable {world : World}

/-- The tables are sound, and what was and what will be reversed was credited. -/
def Backed (world : World) : Prop := world.Sound ∧ booked.Holds world.store world.calls

theorem backed_spawn (backed : world.Backed) {call : Call} (relies : call.Relies world.store)
    (pending : call.Backed world.store) : (world.spawn call).Backed :=
  ⟨backed.1.spawn relies, Outline.Holds.spawn backed.2 pending fun _ _ => ⟨trivial, trivial⟩⟩

theorem backed_resume (backed : world.Backed) {position : Nat} {call : Call}
    (found : world.calls[position]? = some call) (reply : Reply)
    (settles : call.Settles world.store) :
    booked.Holds (world.resume position reply call).store
      (world.resume position reply call).calls := by
  have member := List.mem_of_getElem? found
  have regular := backed.1.world
  have relies := backed.1.asserts call member
  have advances := advances_advance regular reply relies
  refine Outline.Holds.goOn backed.2 found ?_ (backed_next regular reply settles) ?_
  · exact backed_advance regular backed.2.world reply relies (backed.2.asserts call member) settles
  · intro other _ pending _ _
    exact ⟨Call.Backed.of_grows pending advances.grows, trivial, trivial⟩

theorem backed_step (backed : world.Backed) (event : Event) (settles : world.Settles event) :
    (world.step event).Backed := by
  have sound := sound_step backed.1 event
  cases event with
  | createPurchaseOrder userId provider googleProductId totalCoins expiresAt =>
      have grows := grows_createOrder userId provider googleProductId totalCoins expiresAt world.store
      refine ⟨sound, Outline.Holds.disturb backed.2 (backed.2.world.of_grows grows rfl) ?_⟩
      exact fun call _ pending => Call.Backed.of_grows pending grows
  | fulfill request => exact backed_spawn backed trivial trivial
  | handleNotification orderId purchaseToken =>
      unfold step
      dsimp only
      split
      · exact backed
      · exact backed_spawn backed trivial trivial
  | resume position reply =>
      refine ⟨sound, ?_⟩
      unfold step
      dsimp only
      cases found : world.calls[position]? with
      | none => exact backed.2
      | some call => exact backed_resume backed found reply (settles call found)
  | fails position =>
      refine ⟨sound, ?_⟩
      unfold step
      dsimp only
      cases found : world.calls[position]? with
      | none =>
          rw [List.set_eq_of_length_le (List.getElem?_eq_none_iff.mp found)]
          exact backed.2
      | some call =>
          refine Outline.Holds.goOn backed.2 found backed.2.world trivial ?_
          exact fun other _ pending _ _ => ⟨pending, trivial, trivial⟩
  | reconcileExpiredOrders now =>
      have grows : Grows world.store (world.store.reconcileExpiredOrders now) :=
        grows_map (sameTerms_expire now)
      refine ⟨sound, Outline.Holds.disturb backed.2 (backed.2.world.of_grows grows rfl) ?_⟩
      exact fun call _ pending => Call.Backed.of_grows pending grows

theorem backed_empty : World.Backed {} := by
  refine ⟨sound_empty, Outline.holds_nil ⟨List.forall_mem_nil _, ?_⟩⟩
  intro front row inside
  have isNil := List.prefix_nil.mp inside
  simp at isNil

end World

/-- One order stored the receipt, since its key is unique. -/
theorem creditsStored_of_backed (regular : store.Regular) (backed : store.Backed) :
    store.CreditsStored where
  once := fun providerTxnId => store.transactions.length_filter_le_one (rechargeKey providerTxnId)
  first := by
    intro providerTxnId one two storedOne storedTwo
    rw [regular.stored] at storedOne storedTwo
    obtain ⟨first, isFirst, sameFirst⟩ := List.mem_map.mp storedOne
    obtain ⟨second, isSecond, sameSecond⟩ := List.mem_map.mp storedTwo
    obtain ⟨keyOne, orderOne⟩ := Prod.mk.inj sameFirst
    obtain ⟨keyTwo, orderTwo⟩ := Prod.mk.inj sameSecond
    have same : first = second :=
      List.inj_on_of_nodup_map regular.unique isFirst isSecond (keyOne.trans keyTwo.symm)
    rw [← orderOne, ← orderTwo, same]
  owner := by
    intro row member isDeposit
    obtain ⟨providerTxnId, order, isCredit, found, holds, isExact⟩ :=
      backed.exact row member isDeposit
    refine ⟨providerTxnId, order, ?_, ?_, found, ?_, ?_⟩
    · rw [isCredit]
      rfl
    · obtain ⟨receipt, isReceipt, isOrder⟩ := holds
      rw [regular.stored]
      refine List.mem_map.mpr ⟨receipt, KeyedRows.mem_of_find isReceipt, ?_⟩
      rw [txnId_of_findReceipt isReceipt, isOrder]
    · rw [isCredit]
      rfl
    · rw [isCredit]
      exact isExact

theorem reversesCredited_of_backed (backed : store.Backed) : store.ReversesCredited where
  once := fun playOrderId => store.transactions.length_filter_le_one (reversalKey playOrderId)
  credited := by
    intro front row inside isWithdrawal
    obtain ⟨playOrderId, order, isReversal, member⟩ := backed.credited front row inside isWithdrawal
    rw [isReversal]
    exact ⟨playOrderId, rfl, creditOf order playOrderId, member, rfl, rfl, rfl, rfl⟩

/-- Where the coins are exact and a token leads to what was credited, every run is safe. -/
theorem safe_of_settles (events : List Event) (settles : Runs.Each World.step World.Settles {} events) :
    Runs.Always World.step
      (fun world => world.store.CreditsStored ∧ world.store.ReversesCredited) {} events := by
  have kept : ∀ (world : World) (event : Event), world.Backed → world.Settles event →
      (world.step event).Backed := fun _ event backed settles => World.backed_step backed event settles
  refine (Runs.always_of_each kept {} World.backed_empty events settles).imp ?_
  intro world backed
  exact ⟨creditsStored_of_backed backed.1.world backed.2.world,
    reversesCredited_of_backed backed.2.world⟩

/-! ### Two tokens on one order -/

/-- A call dies after its credit, a retry completes the order, and a notification that is
delivered twice reverses it. -/
def retriedAndRefunded : List Event :=
  [ordered, fulfilling "token"] ++ resumes 0 5 (bought "play") ++ [.fails 0, fulfilling "token"] ++
    resumes 1 8 (bought "play") ++ [.handleNotification "play" "token"] ++ resumes 2 4 (bought "") ++
      [.handleNotification "play" "token"] ++ resumes 3 4 (bought "")

theorem safe_retriedAndRefunded :
    Runs.Always World.step
      (fun world => world.store.CreditsStored ∧ world.store.ReversesCredited) {}
      retriedAndRefunded :=
  safe_of_settles retriedAndRefunded (by decide +kernel)

/-- The credit of the first token fails, the second token completes the order, and the first
purchase is voided. -/
def refundedUncredited : List Event :=
  [ordered, fulfilling "first token"] ++ resumes 0 4 (bought "first play") ++
    [.fails 0, fulfilling "second token"] ++ resumes 1 8 (bought "second play") ++
      [.handleNotification "first play" "first token"] ++ resumes 2 3 (bought "")

theorem rows_refundedUncredited :
    (Runs.run World.step {} refundedUncredited).store.transactions.rows =
      [creditOf aliceOrder "second play"] ++ [reversalOf aliceOrder "first play"] := by
  decide +kernel

theorem not_safe_refundedUncredited :
    ¬Runs.Always World.step
      (fun world => world.store.CreditsStored ∧ world.store.ReversesCredited) {}
      refundedUncredited := by
  intro always
  have reverses := always.final.2
  obtain ⟨playOrderId, isKey, credit, member, -, sameKey, -⟩ := reverses.credited
    [creditOf aliceOrder "second play"] (reversalOf aliceOrder "first play")
    (rows_refundedUncredited ▸ List.prefix_refl _) rfl
  have isPlay : playOrderId = "first play" := reversalKey_injective isKey.symm
  rw [List.mem_singleton.mp member, isPlay] at sameKey
  exact absurd (rechargeKey_injective sameKey) (by decide)

end Soulzaa.Payments
