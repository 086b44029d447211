/-
Audit rows of an inventory.  A sale writes the balance it re-read under the row
lock.  An approval writes the balance it read with its order, before it holds the
inventory, so its row continues the trail only if nothing was committed between.
-/

import Soulzaa.CoinSeller.Channel
import Soulzaa.Lib.Bookkeeping

namespace Soulzaa.CoinSeller

open Interleaving Bookkeeping

namespace Books

def auditsOf (books : Books) (id : InventoryId) : List InventoryAudit :=
  books.audits.filter fun audit => audit.inventoryId = id

/-- The rows of the inventory, in commit order, lead from its first balance to the
current one. -/
structure Trail (books : Books) (first : Int) (inventory : CoinSellerInventory) : Prop where
  linked : Linked InventoryAudit.balanceBefore InventoryAudit.balanceAfter first
    (books.auditsOf inventory.id)
  sums : ∀ audit ∈ books.auditsOf inventory.id,
    audit.balanceAfter = audit.balanceBefore + audit.coinDelta
  current : endsAt InventoryAudit.balanceAfter first (books.auditsOf inventory.id) =
    inventory.availableBalance

def Trails (opening : InventoryId → Int) (books : Books) : Prop :=
  ∀ inventory ∈ books.inventories, books.Trail (opening inventory.id) inventory

end Books

variable {opening : InventoryId → Int} {books after : Books}

theorem trails_of_same (trails : books.Trails opening)
    (inventories : after.inventories = books.inventories) (audits : after.audits = books.audits) :
    after.Trails opening := by
  intro inventory member
  have rows : after.auditsOf inventory.id = books.auditsOf inventory.id := by
    unfold Books.auditsOf
    rw [audits]
  have trail := trails inventory (inventories ▸ member)
  exact ⟨rows ▸ trail.linked, rows ▸ trail.sums, rows ▸ trail.current⟩

theorem trail_iff_of_rows {first : Int} {before inventory : CoinSellerInventory}
    (sameId : inventory.id = before.id) {audit : InventoryAudit}
    (rows : after.auditsOf before.id = books.auditsOf before.id ++ [audit])
    (trail : books.Trail first before) :
    after.Trail first inventory ↔
      audit.balanceBefore = before.availableBalance ∧
        audit.balanceAfter = audit.balanceBefore + audit.coinDelta ∧
          audit.balanceAfter = inventory.availableBalance := by
  have ends : endsAt InventoryAudit.balanceAfter first (after.auditsOf before.id) =
      audit.balanceAfter := by
    rw [rows, endsAt_append, endsAt_cons, endsAt_nil]
  constructor
  · rintro ⟨linked, sums, current⟩
    rw [sameId, rows] at linked sums
    rw [sameId, ends] at current
    rw [linked_append, trail.current] at linked
    exact ⟨linked.2.1, sums audit (List.mem_append_right _ (List.mem_singleton_self _)), current⟩
  · rintro ⟨continues, sum, current⟩
    constructor
    · rw [sameId, rows, linked_append, trail.current]
      exact ⟨trail.linked, continues, trivial⟩
    · rw [sameId, rows, List.forall_mem_append]
      exact ⟨trail.sums, List.forall_mem_singleton.mpr sum⟩
    · rw [sameId, ends, current]

/-- A transaction that changes an inventory and writes one audit row for it. -/
theorem trails_iff_of_audit (keyed : books.Keyed) (trails : books.Trails opening)
    {id : InventoryId} {current : CoinSellerInventory}
    {change : CoinSellerInventory → CoinSellerInventory} {audit : InventoryAudit}
    (keeps : KeyedRows.KeepsKey CoinSellerInventory.id change)
    (found : books.findInventory id = some current) (isFor : audit.inventoryId = id)
    (inventories : after.inventories =
      KeyedRows.update CoinSellerInventory.id id change books.inventories)
    (audits : after.audits = books.audits ++ [audit]) :
    after.Trails opening ↔
      audit.balanceBefore = current.availableBalance ∧
        audit.balanceAfter = audit.balanceBefore + audit.coinDelta ∧
          audit.balanceAfter = (change current).availableBalance := by
  have isCurrent : current.id = id := KeyedRows.key_of_find found
  have ownRows : after.auditsOf current.id = books.auditsOf current.id ++ [audit] := by
    unfold Books.auditsOf
    rw [audits, List.filter_append, List.filter_cons_of_pos]
    · rfl
    · rw [isFor, isCurrent]
      exact decide_eq_true rfl
  have otherRows : ∀ other, other ≠ id → after.auditsOf other = books.auditsOf other := by
    intro other different
    unfold Books.auditsOf
    rw [audits, List.filter_append, List.filter_cons_of_neg]
    · exact List.append_nil _
    · rw [isFor, decide_eq_true_eq]
      exact Ne.symm different
  have own := trail_iff_of_rows (keeps current) ownRows
    (trails current (KeyedRows.mem_of_find found))
  constructor
  · intro afterTrails
    have written : change current ∈ after.inventories := by
      rw [inventories]
      exact KeyedRows.mem_of_find (KeyedRows.find_update_self keeps found)
    have trail := afterTrails (change current) written
    rw [keeps current] at trail
    exact own.mp trail
  · intro continues inventory member
    rw [inventories] at member
    obtain ⟨before, inside, rfl⟩ := KeyedRows.mem_update member
    split
    · rename_i same
      have isBefore : before = current := by
        have byId := KeyedRows.find_of_mem keyed.inventories inside
        rw [same] at byId
        exact Option.some_inj.mp (byId.symm.trans found)
      rw [isBefore, keeps current]
      exact own.mpr continues
    · rename_i different
      have trail := trails before inside
      have sameRows := otherRows before.id different
      exact ⟨sameRows ▸ trail.linked, sameRows ▸ trail.sums, sameRows ▸ trail.current⟩

/-! ### Approvals -/

/-- An approval that commits has read, with its order, the balance it adds to. -/
def Call.ReadCurrent (books : Books) : Call → Prop
  | .stocked _ order read =>
      ∀ current ∈ books.findInventory order.inventoryId,
        read.availableBalance = current.availableBalance
  | _ => True

theorem trails_approved_iff (keyed : books.Keyed) (trails : books.Trails opening)
    {input : ApprovalInput} {order : PurchaseOrder} {read current : CoinSellerInventory}
    (found : books.findInventory order.inventoryId = some current) :
    (books.approved input order read current).Trails opening ↔
      read.availableBalance = current.availableBalance := by
  rw [trails_iff_of_audit keyed trails (keepsKey_purchase order.coinAmount) found
    (show (approvalAudit input order read (current.purchase order.coinAmount)).inventoryId =
      order.inventoryId from rfl) rfl rfl]
  simp only [approvalAudit, CoinSellerInventory.purchase, and_true]
  constructor
  · rintro ⟨same, _⟩
    exact same
  · intro same
    exact ⟨same, by rw [same]⟩

theorem trails_soldTo (keyed : books.Keyed) (trails : books.Trails opening)
    {input : SaleInput} {inventory locked : CoinSellerInventory} {db : Db}
    {sales : UniqueTable UserSaleTransaction.idempotencyKey}
    (found : books.findInventory inventory.id = some locked) :
    (books.soldTo input inventory locked locked db sales).Trails opening := by
  rw [trails_iff_of_audit keyed trails (keepsKey_sell input.amount) found
    (show (saleAudit input inventory locked (locked.sell input.amount)).inventoryId =
      inventory.id from rfl) rfl rfl]
  refine ⟨rfl, ?_, rfl⟩
  exact Int.sub_eq_add_neg

theorem trails_advance_iff (keyed : books.Keyed) (trails : books.Trails opening) {call : Call}
    (relies : call.Relies books) (reply : Reply) :
    (Channel.advance books reply call).1.Trails opening ↔ call.ReadCurrent books := by
  by_cases approval : ∃ input order read, call = .stocked input order read
  · obtain ⟨input, order, read, rfl⟩ := approval
    unfold Channel.advance Call.ReadCurrent
    dsimp only
    cases found : books.findInventory order.inventoryId with
    | none => simpa using trails
    | some current => simpa using trails_approved_iff keyed trails found
  · have current : call.ReadCurrent books := by
      cases call with
      | stocked input order read => exact absurd ⟨input, order, read, rfl⟩ approval
      | _ => trivial
    refine iff_of_true ?_ current
    have writes := Channel.writes_advance books reply call
    generalize (Channel.advance books reply call).1 = after at writes ⊢
    cases writes with
    | nothing => exact trails
    | refused | verified => exact trails_of_same trails rfl rfl
    | approved input read found => exact absurd ⟨_, _, _, rfl⟩ approval
    | sold locked found paid stored =>
        cases found.symm.trans relies.1
        exact trails_soldTo keyed trails found

/-- The trails are unbroken throughout exactly when every approval commits on the
balance it has read. -/
theorem trails_iff (opening : InventoryId → Int) (books : Books) (keyed : books.Keyed)
    (trails : books.Trails opening) (events : List ChannelEvent) :
    Runs.Always Channel.step (fun channel => channel.books.Trails opening)
        { books := books, calls := [] } events ↔
      Runs.Each Channel.step (Channel.Guarded fun books call => call.ReadCurrent books)
        { books := books, calls := [] } events := by
  apply Channel.always_iff_guarded _ books keyed trails events
  intro books call reply keyed relies trails
  exact trails_advance_iff keyed trails relies reply

theorem trails_openingBooks : openingBooks.Trails fun _ => 50 := by
  intro inventory member
  rw [List.mem_singleton.mp member]
  exact ⟨trivial, List.forall_mem_nil _, rfl⟩

theorem trails_iff_saleDuringApproval :
    Runs.Always Channel.step (fun channel => channel.books.Trails fun _ => 50)
        openingChannel saleDuringApproval ↔
      Runs.Each Channel.step (Channel.Guarded fun books call => call.ReadCurrent books)
        openingChannel saleDuringApproval :=
  trails_iff (fun _ => 50) openingBooks keyed_openingBooks trails_openingBooks saleDuringApproval

/-- The approval has read 50 coins, the sale leaves 10, and the approval writes that
100 more made 110 of 50. -/
theorem trail_breaks :
    ¬Runs.Always Channel.step (fun channel => channel.books.Trails fun _ => 50)
      openingChannel saleDuringApproval := by
  intro always
  have breaks : ∃ inventory ∈ (Runs.run Channel.step openingChannel
      saleDuringApproval).books.inventories,
      ∃ audit ∈ (Runs.run Channel.step openingChannel saleDuringApproval).books.auditsOf
        inventory.id, audit.balanceAfter ≠ audit.balanceBefore + audit.coinDelta := by
    decide +kernel
  obtain ⟨inventory, member, audit, isRow, wrong⟩ := breaks
  exact wrong ((always.final inventory member).sums audit isRow)

end Soulzaa.CoinSeller
