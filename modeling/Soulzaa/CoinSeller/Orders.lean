/-
Purchase orders.  An approval locks the order and credits it only in a pending
status, so the status is what keeps a second credit out.  The writes that mark an
order FAILED or PAYMENT_VERIFIED do not look at it again.
-/

import Soulzaa.CoinSeller.Channel

namespace Soulzaa.CoinSeller

open Interleaving

def InventoryAudit.purchased (audit : InventoryAudit) : Int :=
  match audit.reference with
  | .purchaseOrder _ => audit.coinDelta
  | .userSale _ => 0

namespace Books

/-- The approvals that have credited the order. -/
def creditsOf (books : Books) (id : OrderId) : List InventoryAudit :=
  books.audits.filter fun audit => audit.reference = .purchaseOrder id

/-- Coins that approvals have taken from the treasury. -/
def issued (books : Books) : Int :=
  (books.audits.map InventoryAudit.purchased).sum

/-- Coins that approvals have put into the inventory. -/
def issuedTo (books : Books) (id : InventoryId) : Int :=
  ((books.audits.filter fun audit => audit.inventoryId = id).map InventoryAudit.purchased).sum

structure CreditedOnce (books : Books) : Prop where
  once : ∀ id, (books.creditsOf id).length ≤ 1
  recorded : ∀ order ∈ books.orders,
    order.status = .inventoryCredited ↔ books.creditsOf order.id ≠ []
  amounts : ∀ order ∈ books.orders, ∀ audit ∈ books.creditsOf order.id,
    audit.inventoryId = order.inventoryId ∧ audit.coinDelta = order.coinAmount

/-- Treasury and inventories have moved by the recorded credits. -/
structure Accounts (opening books : Books) : Prop where
  treasury : books.reserve.getD 0 + books.issued = opening.reserve.getD 0 + opening.issued
  inventories : ∀ id,
    (books.findInventory id).map (fun inventory => inventory.purchasedTotal - books.issuedTo id) =
      (opening.findInventory id).map fun inventory =>
        inventory.purchasedTotal - opening.issuedTo id

structure Credits (opening books : Books) : Prop where
  once : books.CreditedOnce
  accounts : opening.Accounts books

theorem Accounts.refl (books : Books) : books.Accounts books :=
  ⟨rfl, fun _ => rfl⟩

theorem Accounts.trans {opening books after : Books} (first : opening.Accounts books)
    (second : books.Accounts after) : opening.Accounts after :=
  ⟨second.treasury.trans first.treasury,
    fun id => (second.inventories id).trans (first.inventories id)⟩

end Books

/-! ### Accounts -/

theorem issuedTo_append {books after : Books} {audit : InventoryAudit}
    (audits : after.audits = books.audits ++ [audit]) (id : InventoryId) :
    after.issuedTo id =
      books.issuedTo id + if audit.inventoryId = id then audit.purchased else 0 := by
  unfold Books.issuedTo
  rw [audits, List.filter_append, List.map_append, List.sum_append]
  by_cases isFor : audit.inventoryId = id
  · simp [isFor]
  · simp [isFor]

theorem issued_append {books after : Books} {audit : InventoryAudit}
    (audits : after.audits = books.audits ++ [audit]) :
    after.issued = books.issued + audit.purchased := by
  unfold Books.issued
  rw [audits, List.map_append, List.sum_append, List.map_singleton, List.sum_singleton]

/-- A transaction that moves one inventory and writes an audit row for it. -/
theorem accounts_of_audit {books after : Books} {id : InventoryId}
    {change : CoinSellerInventory → CoinSellerInventory} {audit : InventoryAudit}
    (keeps : KeyedRows.KeepsKey CoinSellerInventory.id change)
    (inventories : after.inventories =
      KeyedRows.update CoinSellerInventory.id id change books.inventories)
    (audits : after.audits = books.audits ++ [audit]) (isFor : audit.inventoryId = id)
    (purchases : ∀ row, (change row).purchasedTotal = row.purchasedTotal + audit.purchased)
    (treasury : after.reserve.getD 0 = books.reserve.getD 0 - audit.purchased) :
    books.Accounts after where
  treasury := by
    rw [issued_append audits, treasury]
    omega
  inventories := by
    intro other
    unfold Books.findInventory
    rw [inventories, KeyedRows.find_update keeps, Option.map_map]
    cases found : KeyedRows.find CoinSellerInventory.id other books.inventories with
    | none => rfl
    | some row =>
        have isOther := KeyedRows.key_of_find found
        rw [Option.map_some, Option.map_some, Function.comp_apply, issuedTo_append audits, isFor,
          isOther]
        congr 1
        by_cases same : other = id
        · rw [if_pos same, if_pos same.symm, purchases]
          omega
        · rw [if_neg same, if_neg (Ne.symm same)]
          omega

theorem accounts_of_writes {books after : Books} {call : Call} (relies : call.Relies books)
    (writes : books.Writes call after) : books.Accounts after := by
  cases writes with
  | nothing => exact .refl books
  | refused order => exact ⟨rfl, fun _ => rfl⟩
  | verified input => exact ⟨rfl, fun _ => rfl⟩
  | @approved input order read current found =>
      obtain ⟨balance, reserve⟩ := Option.isSome_iff_exists.mp relies.2
      apply accounts_of_audit (keepsKey_purchase order.coinAmount) rfl rfl rfl fun _ => rfl
      unfold Books.approved
      rw [reserve]
      rfl
  | @sold platform input inventory current buyerCountry locked db credited sales found paid
      stored =>
      apply accounts_of_audit (keepsKey_sell input.amount) rfl rfl rfl
      · exact fun row => (add_zero row.purchasedTotal).symm
      · exact (sub_zero _).symm

/-! ### Statuses -/

/-- A status write finds the order not credited. -/
def Call.SparesCredited (books : Books) : Call → Prop
  | .refuse order => ∀ row ∈ books.findOrder order.id, row.status ≠ .inventoryCredited
  | .verify input =>
      ∀ row ∈ books.findOrder input.purchaseOrderId, row.status ≠ .inventoryCredited
  | _ => True

section CreditedOnce

variable {books after : Books}

theorem creditedOnce_updateOrder_iff (keyed : books.Keyed) (once : books.CreditedOnce)
    {id : OrderId} {change : PurchaseOrder → PurchaseOrder}
    (keeps : KeyedRows.KeepsKey PurchaseOrder.id change)
    (sameInventory : ∀ row, (change row).inventoryId = row.inventoryId)
    (sameAmount : ∀ row, (change row).coinAmount = row.coinAmount)
    (leaves : ∀ row, (change row).status ≠ .inventoryCredited) :
    (books.updateOrder id change).CreditedOnce ↔
      ∀ row ∈ books.findOrder id, row.status ≠ .inventoryCredited := by
  constructor
  · intro afterOnce row found credited
    have member := KeyedRows.mem_of_find found
    have written : change row ∈ (books.updateOrder id change).orders :=
      KeyedRows.mem_of_find (KeyedRows.find_update_self keeps found)
    have hasCredit := (once.recorded row member).mp credited
    rw [← keeps row] at hasCredit
    exact leaves row ((afterOnce.recorded (change row) written).mpr hasCredit)
  · intro spared
    refine ⟨once.once, ?_, ?_⟩
    · intro order member
      obtain ⟨before, inside, rfl⟩ := KeyedRows.mem_update member
      split
      · rename_i same
        have byId := KeyedRows.find_of_mem keyed.orders inside
        rw [same] at byId
        refine iff_of_false (leaves before) ?_
        rw [keeps before]
        exact fun hasCredit => spared before byId ((once.recorded before inside).mpr hasCredit)
      · exact once.recorded before inside
    · intro order member
      obtain ⟨before, inside, rfl⟩ := KeyedRows.mem_update member
      split
      · rw [keeps before, sameInventory, sameAmount]
        exact once.amounts before inside
      · exact once.amounts before inside

theorem creditedOnce_soldTo (once : books.CreditedOnce) {input : SaleInput}
    {inventory locked current : CoinSellerInventory} {db : Db}
    {sales : UniqueTable UserSaleTransaction.idempotencyKey} :
    (books.soldTo input inventory locked current db sales).CreditedOnce := by
  have same : ∀ id, (books.soldTo input inventory locked current db sales).creditsOf id =
      books.creditsOf id := by
    intro id
    unfold Books.creditsOf Books.soldTo
    rw [List.filter_append]
    exact List.append_nil _
  refine ⟨?_, ?_, ?_⟩
  · intro id
    rw [same]
    exact once.once id
  · intro order member
    rw [same]
    exact once.recorded order member
  · intro order member
    rw [same]
    exact once.amounts order member

section Approved

variable {input : ApprovalInput} {order : PurchaseOrder} {read current : CoinSellerInventory}

theorem creditsOf_approved (id : OrderId) :
    (books.approved input order read current).creditsOf id =
      books.creditsOf id ++ if order.id = id then
        [approvalAudit input order read (current.purchase order.coinAmount)] else [] := by
  unfold Books.creditsOf Books.approved
  rw [List.filter_append]
  congr 1
  by_cases same : order.id = id
  · rw [if_pos same, List.filter_cons_of_pos (by simp [approvalAudit, same]), List.filter_nil]
  · rw [if_neg same, List.filter_cons_of_neg (by simpa [approvalAudit] using same),
      List.filter_nil]

theorem creditedOnce_approved (keyed : books.Keyed) (once : books.CreditedOnce)
    (found : books.findOrder input.orderId = some order)
    (pending : approvable order.status = true) :
    (books.approved input order read current).CreditedOnce := by
  have sameId : order.id = input.orderId := KeyedRows.key_of_find found
  have isOrder : ∀ row ∈ books.orders, row.id = order.id → row = order := by
    intro row inside same
    have byId := KeyedRows.find_of_mem keyed.orders inside
    rw [same, sameId] at byId
    exact Option.some_inj.mp (byId.symm.trans found)
  -- A pending order has no credit yet.
  have noCredit : books.creditsOf order.id = [] := by
    by_contra hasCredit
    have credited := (once.recorded order (KeyedRows.mem_of_find found)).mpr hasCredit
    rw [credited] at pending
    cases pending
  refine ⟨?_, ?_, ?_⟩
  · intro id
    rw [creditsOf_approved]
    split
    · rename_i same
      rw [← same, noCredit]
      exact le_refl 1
    · rw [List.append_nil]
      exact once.once id
  · intro row member
    obtain ⟨before, inside, rfl⟩ := KeyedRows.mem_update member
    split
    · rename_i same
      refine iff_of_true rfl ?_
      have isSame : order.id = (before.credited input.adminId).id := sameId.trans same.symm
      rw [creditsOf_approved, if_pos isSame]
      exact List.append_ne_nil_of_right_ne_nil _ (List.cons_ne_nil _ _)
    · rename_i different
      rw [creditsOf_approved, if_neg fun same => different (same.symm.trans sameId),
        List.append_nil]
      exact once.recorded before inside
  · intro row member
    obtain ⟨before, inside, rfl⟩ := KeyedRows.mem_update member
    split
    · rename_i same
      have isSame : order.id = (before.credited input.adminId).id := sameId.trans same.symm
      rw [creditsOf_approved, if_pos isSame, ← isSame, noCredit, List.nil_append,
        isOrder before inside (same.trans sameId.symm)]
      exact List.forall_mem_singleton.mpr ⟨rfl, rfl⟩
    · rename_i different
      rw [creditsOf_approved, if_neg fun same => different (same.symm.trans sameId),
        List.append_nil]
      exact once.amounts before inside

end Approved

theorem creditedOnce_refused_iff (keyed : books.Keyed) (once : books.CreditedOnce)
    (order : PurchaseOrder) :
    (books.updateOrder order.id order.refused).CreditedOnce ↔
      (Call.refuse order).SparesCredited books :=
  creditedOnce_updateOrder_iff keyed once (keepsKey_refused order) (fun _ => rfl) (fun _ => rfl)
    (fun _ => InventoryPurchaseStatus.noConfusion)

theorem creditedOnce_verified_iff (keyed : books.Keyed) (once : books.CreditedOnce)
    (input : CreditInput) :
    (books.updateOrder input.purchaseOrderId
      (PurchaseOrder.verified input.providerTxnRef)).CreditedOnce ↔
      (Call.verify input).SparesCredited books :=
  creditedOnce_updateOrder_iff keyed once (keepsKey_verified _) (fun _ => rfl) (fun _ => rfl)
    (fun _ => InventoryPurchaseStatus.noConfusion)

theorem creditedOnce_of_writes (keyed : books.Keyed) (once : books.CreditedOnce) {call : Call}
    (relies : call.Relies books) (spares : call.SparesCredited books)
    (writes : books.Writes call after) : after.CreditedOnce := by
  cases writes with
  | nothing => exact once
  | refused order => exact (creditedOnce_refused_iff keyed once order).mpr spares
  | verified input => exact (creditedOnce_verified_iff keyed once input).mpr spares
  | approved input read found => exact creditedOnce_approved keyed once relies.1.1 relies.1.2
  | sold locked found paid stored => exact creditedOnce_soldTo once

theorem creditedOnce_advance_iff (keyed : books.Keyed) (once : books.CreditedOnce) {call : Call}
    (relies : call.Relies books) (reply : Reply) :
    (Channel.advance books reply call).1.CreditedOnce ↔ call.SparesCredited books := by
  have writes := Channel.writes_advance books reply call
  cases call with
  | refuse order => exact creditedOnce_refused_iff keyed once order
  | verify input => exact creditedOnce_verified_iff keyed once input
  | _ => exact iff_of_true (creditedOnce_of_writes keyed once relies trivial writes) trivial

end CreditedOnce

/-! ### Runs -/

/-- Whoever confirms, delivers and approves, and in whatever order: every order is
credited at most once and stays credited exactly when no status write goes through
on a credited order. -/
theorem creditedOnce_iff (opening : Books) (keyed : opening.Keyed) (once : opening.CreditedOnce)
    (events : List ChannelEvent) :
    Runs.Always Channel.step
        (fun channel => opening.Credits channel.books)
        { books := opening, calls := [] } events ↔
      Runs.Each Channel.step (Channel.Guarded fun books call => call.SparesCredited books)
        { books := opening, calls := [] } events := by
  apply Channel.always_iff_guarded _ opening keyed ⟨once, .refl opening⟩ events
  rintro books call reply keyed relies ⟨now, accounts⟩
  have later := accounts.trans (accounts_of_writes relies
    (Channel.writes_advance books reply call))
  have exactly := creditedOnce_advance_iff keyed now relies reply
  exact ⟨fun credits => exactly.mp credits.once, fun spares => ⟨exactly.mpr spares, later⟩⟩

theorem creditedOnce_openingBooks : openingBooks.CreditedOnce where
  once := fun _ => Nat.zero_le 1
  recorded := by
    intro order member
    rw [List.mem_singleton.mp member]
    decide
  amounts := fun _ _ => List.forall_mem_nil _

/-- Two deliveries of one payment: both read the order before either credits it. -/
def deliveredTwice : List ChannelEvent :=
  let delivery := .request (.handleWebhookEvent "order" "payment")
  [delivery, delivery] ++ goesOn 0 1 ++ goesOn 1 1 ++ goesOn 0 6 ++ goesOn 1 6

theorem creditedOnce_iff_deliveredTwice :
    Runs.Always Channel.step (fun channel => openingBooks.Credits channel.books)
        openingChannel deliveredTwice ↔
      Runs.Each Channel.step (Channel.Guarded fun books call => call.SparesCredited books)
        openingChannel deliveredTwice :=
  creditedOnce_iff openingBooks keyed_openingBooks creditedOnce_openingBooks deliveredTwice

theorem credited_twice :
    ¬Runs.Always Channel.step (fun channel => openingBooks.Credits channel.books)
      openingChannel deliveredTwice := by
  intro always
  have twice : ¬((Runs.run Channel.step openingChannel deliveredTwice).books.creditsOf
      "order").length ≤ 1 := by
    decide +kernel
  exact twice (always.final.once.once "order")

end Soulzaa.CoinSeller
