/-
Coins of the seller channel.  Treasury, inventories and what sales have credited
make up a supply that no approval and no sale changes, and a sale key moves coins
out of an inventory and into a wallet once.
-/

import Soulzaa.CoinSeller.Channel

namespace Soulzaa.CoinSeller

open Interleaving

def CoinSellerInventory.Balanced (inventory : CoinSellerInventory) : Prop :=
  inventory.availableBalance = inventory.purchasedTotal - inventory.soldTotal ∧
    0 ≤ inventory.availableBalance

namespace Books

/-- The wallet movements of sales. -/
def saleCredits (books : Books) : List WalletTransaction :=
  books.db.transactions.rows.filter fun header => header.referenceType = some saleReferenceType

def supply (books : Books) : Int :=
  books.reserve.getD 0 + (books.inventories.map CoinSellerInventory.availableBalance).sum +
    (books.saleCredits.map WalletTransaction.amount).sum

/-- What the sales account for of what the inventories have sold. -/
def unaccounted (books : Books) : Int :=
  (books.inventories.map CoinSellerInventory.soldTotal).sum -
    (books.sales.rows.map UserSaleTransaction.coinAmount).sum

/-- Coins of a user that no sale has brought. -/
def otherGold (books : Books) (userId : UserId) : Int :=
  (books.db.row userId).goldBalance -
    ((books.sales.rows.filter fun sale => sale.buyerId = userId).map
      UserSaleTransaction.coinAmount).sum

/-- Every sale row stands for the one movement under its wallet key. -/
structure Regular (books : Books) : Prop where
  keyed : books.Keyed
  balances : ∀ inventory ∈ books.inventories, inventory.Balanced
  credits : books.saleCredits.map (fun header => (header.idempotencyKey, header.amount)) =
    books.sales.rows.map fun sale => (saleWalletKey sale.idempotencyKey, sale.coinAmount)
  replays : ∀ key, books.sales.Absent key → books.db.transactions.Absent (saleWalletKey key)

structure Conserves (opening books : Books) : Prop where
  supply : books.supply = opening.supply
  sold : books.unaccounted = opening.unaccounted
  gold : ∀ userId, books.otherGold userId = opening.otherGold userId

theorem Conserves.refl (books : Books) : books.Conserves books :=
  ⟨rfl, rfl, fun _ => rfl⟩

theorem Conserves.trans {opening books after : Books} (first : opening.Conserves books)
    (second : books.Conserves after) : opening.Conserves after :=
  ⟨second.supply.trans first.supply, second.sold.trans first.sold,
    fun userId => (second.gold userId).trans (first.gold userId)⟩

end Books

theorem saleWalletKey_injective : Function.Injective saleWalletKey := by
  intro first second same
  unfold saleWalletKey at same
  rw [String.append_right_inj] at same
  exact same

/-! ### Rows -/

theorem balanced_purchase {inventory : CoinSellerInventory} (balanced : inventory.Balanced)
    (amount : Nat) : (inventory.purchase amount).Balanced := by
  obtain ⟨sums, nonnegative⟩ := balanced
  constructor <;> simp only [CoinSellerInventory.purchase] <;> omega

theorem balanced_sell {inventory : CoinSellerInventory} (balanced : inventory.Balanced)
    {amount : Int} (enough : amount ≤ inventory.availableBalance) :
    (inventory.sell amount).Balanced := by
  obtain ⟨sums, nonnegative⟩ := balanced
  constructor <;> simp only [CoinSellerInventory.sell] <;> omega

theorem balanced_update {inventories : List CoinSellerInventory} {id : InventoryId}
    {change : CoinSellerInventory → CoinSellerInventory}
    (balances : ∀ inventory ∈ inventories, inventory.Balanced)
    (kept : ∀ inventory ∈ inventories, inventory.id = id → (change inventory).Balanced) :
    ∀ inventory ∈ KeyedRows.update CoinSellerInventory.id id change inventories,
      inventory.Balanced := by
  intro inventory member
  obtain ⟨before, inside, rfl⟩ := KeyedRows.mem_update member
  split
  · rename_i same
    exact kept before inside same
  · exact balances before inside

/-! ### Approvals -/

section Approved

variable {books : Books} {input : ApprovalInput} {order : PurchaseOrder}
  {read current : CoinSellerInventory}

theorem regular_approved (regular : books.Regular)
    (writes : books.Writes (.stocked input order read) (books.approved input order read current)) :
    (books.approved input order read current).Regular where
  keyed := keyed_of_writes regular.keyed writes
  balances := by
    apply balanced_update regular.balances
    intro inventory member _
    exact balanced_purchase (regular.balances inventory member) order.coinAmount
  credits := regular.credits
  replays := regular.replays

theorem conserves_approved (regular : books.Regular) (stocked : books.reserve.isSome = true)
    (found : books.findInventory order.inventoryId = some current) :
    books.Conserves (books.approved input order read current) where
  supply := by
    obtain ⟨balance, reserve⟩ := Option.isSome_iff_exists.mp stocked
    have available := KeyedRows.sum_update CoinSellerInventory.availableBalance
      (CoinSellerInventory.purchase order.coinAmount) regular.keyed.inventories found rfl
    have sameCredits : (books.approved input order read current).saleCredits =
      books.saleCredits := rfl
    unfold Books.supply
    rw [sameCredits]
    simp only [Books.approved, reserve, Option.map_some, Option.getD_some, available]
    omega
  sold := by
    have sold := KeyedRows.sum_update CoinSellerInventory.soldTotal
      (CoinSellerInventory.purchase order.coinAmount) regular.keyed.inventories found
      (add_zero _).symm
    unfold Books.unaccounted
    simp only [Books.approved, sold, add_zero]
  gold := fun _ => rfl

end Approved

/-! ### Sales -/

section Sold

variable {books : Books} {platform : Platform} {input : SaleInput}
  {inventory locked current : CoinSellerInventory} {buyerCountry : String} {db : Db}
  {credited : WalletMovementResult} {sales : UniqueTable UserSaleTransaction.idempotencyKey}

/-- A sale that is stored has moved the buyer's wallet. -/
theorem wrote_of_sold (regular : books.Regular)
    (paid : WalletService.credit platform books.db (saleCredit input) = (db, .ok credited))
    (stored : books.sales.create
      (saleRow input inventory buyerCountry credited.transactionId) = some sales) :
    books.db.Wrote db (WalletRepository.movementWrites books.db
      (WalletService.movementInput .credit (saleCredit input))) := by
  have newKey := regular.replays input.idempotencyKey (UniqueTable.rows_of_create stored).1
  exact (WalletService.wrote_of_move_ok paid newKey).2

theorem saleCredits_soldTo
    (wrote : books.db.Wrote db (WalletRepository.movementWrites books.db
      (WalletService.movementInput .credit (saleCredit input)))) :
    (books.soldTo input inventory locked current db sales).saleCredits =
      books.saleCredits ++ [WalletRepository.movementHeader books.db
        (WalletService.movementInput .credit (saleCredit input))] := by
  unfold Books.saleCredits Books.soldTo
  rw [wrote.headers, List.filter_append]
  rfl

theorem goldBalance_movementWrites (db : Db) (input : SaleInput) (userId : UserId)
    (wallet : Wallet) :
    ((WalletRepository.movementWrites db
      (WalletService.movementInput .credit (saleCredit input))).row userId wallet).goldBalance =
      wallet.goldBalance + if input.buyerId = userId then input.amount else 0 := by
  unfold WalletRepository.movementWrites
  dsimp only
  by_cases isBuyer : input.buyerId = userId
  · subst userId
    rw [if_pos rfl]
    exact congrArg Wallet.goldBalance (onlyRow_self _ _ _)
  · rw [if_neg isBuyer, add_zero]
    exact congrArg Wallet.goldBalance (onlyRow_other (Ne.symm isBuyer) _ _)

theorem bought_append (rows : List UserSaleTransaction) (sale : UserSaleTransaction)
    (userId : UserId) :
    (((rows ++ [sale]).filter fun sale => sale.buyerId = userId).map
      UserSaleTransaction.coinAmount).sum =
      ((rows.filter fun sale => sale.buyerId = userId).map UserSaleTransaction.coinAmount).sum +
        if sale.buyerId = userId then sale.coinAmount else 0 := by
  rw [List.filter_append, List.map_append, List.sum_append]
  by_cases isBuyer : sale.buyerId = userId
  · simp [isBuyer]
  · simp [isBuyer]

theorem regular_soldTo (regular : books.Regular)
    (relies : books.findInventory inventory.id = some locked ∧
      input.amount ≤ locked.availableBalance)
    (writes : books.Writes (.sold input inventory buyerCountry locked)
      (books.soldTo input inventory locked current db sales))
    (paid : WalletService.credit platform books.db (saleCredit input) = (db, .ok credited))
    (stored : books.sales.create
      (saleRow input inventory buyerCountry credited.transactionId) = some sales) :
    (books.soldTo input inventory locked current db sales).Regular where
  keyed := keyed_of_writes regular.keyed writes
  balances := by
    apply balanced_update regular.balances
    intro row member same
    have isLocked : row = locked := by
      have byId := KeyedRows.find_of_mem regular.keyed.inventories member
      rw [same] at byId
      exact Option.some_inj.mp (byId.symm.trans relies.1)
    exact balanced_sell (regular.balances row member) (isLocked ▸ relies.2)
  credits := by
    rw [saleCredits_soldTo (wrote_of_sold regular paid stored), List.map_append, regular.credits]
    unfold Books.soldTo
    rw [(UniqueTable.rows_of_create stored).2, List.map_append]
    rfl
  replays := by
    intro key absent taken
    have headers := (wrote_of_sold regular paid stored).headers
    unfold Books.soldTo at absent taken
    dsimp only at absent taken
    rw [UniqueTable.Absent, (UniqueTable.rows_of_create stored).2, List.map_append, List.mem_append,
      not_or] at absent
    rw [headers, List.map_append, List.mem_append] at taken
    rcases taken with before | new
    · exact regular.replays key absent.1 before
    · have sameKey := saleWalletKey_injective (List.mem_singleton.mp new)
      exact absent.2 (List.mem_singleton.mpr sameKey)

theorem conserves_soldTo (regular : books.Regular)
    (found : books.findInventory inventory.id = some current)
    (paid : WalletService.credit platform books.db (saleCredit input) = (db, .ok credited))
    (stored : books.sales.create
      (saleRow input inventory buyerCountry credited.transactionId) = some sales) :
    books.Conserves (books.soldTo input inventory locked current db sales) where
  supply := by
    have available := KeyedRows.sum_update CoinSellerInventory.availableBalance
      (CoinSellerInventory.sell input.amount) regular.keyed.inventories found Int.sub_eq_add_neg
    have amount : (WalletRepository.movementHeader books.db
        (WalletService.movementInput .credit (saleCredit input))).amount = input.amount := rfl
    unfold Books.supply
    rw [saleCredits_soldTo (wrote_of_sold regular paid stored)]
    simp only [Books.soldTo, available, List.map_append, List.map_singleton, List.sum_append,
      List.sum_singleton, amount]
    omega
  sold := by
    have soldTotal := KeyedRows.sum_update CoinSellerInventory.soldTotal
      (CoinSellerInventory.sell input.amount) regular.keyed.inventories found rfl
    unfold Books.unaccounted
    simp only [Books.soldTo, soldTotal, (UniqueTable.rows_of_create stored).2, List.map_append,
      List.map_singleton, List.sum_append, List.sum_singleton, saleRow]
    omega
  gold := by
    intro userId
    have row := (wrote_of_sold regular paid stored).row userId
    unfold Books.otherGold Books.soldTo
    dsimp only
    rw [row, goldBalance_movementWrites, (UniqueTable.rows_of_create stored).2, bought_append]
    unfold saleRow
    dsimp only
    omega

end Sold

/-! ### Runs -/

theorem conserves_of_writes {books after : Books} {call : Call} (regular : books.Regular)
    (relies : call.Relies books) (writes : books.Writes call after) :
    after.Regular ∧ books.Conserves after := by
  cases writes with
  | nothing => exact ⟨regular, .refl books⟩
  | refused order =>
      refine ⟨?_, ⟨rfl, rfl, fun _ => rfl⟩⟩
      exact ⟨keyed_of_writes regular.keyed (.refused order), regular.balances, regular.credits,
        regular.replays⟩
  | verified input =>
      refine ⟨?_, ⟨rfl, rfl, fun _ => rfl⟩⟩
      exact ⟨keyed_of_writes regular.keyed (.verified input), regular.balances, regular.credits,
        regular.replays⟩
  | approved input read found =>
      exact ⟨regular_approved regular (.approved input read found),
        conserves_approved regular relies.2 found⟩
  | sold locked found paid stored =>
      exact ⟨regular_soldTo regular relies (.sold locked found paid stored) paid stored,
        conserves_soldTo regular found paid stored⟩

theorem conserves_step {channel : Channel} (holds : rowLocks.Holds channel.books channel.calls)
    (regular : channel.books.Regular) (event : ChannelEvent) :
    (channel.step event).books.Regular ∧ channel.books.Conserves (channel.step event).books := by
  have steps := Channel.steps_step channel event
  generalize channel.step event = after at steps ⊢
  cases steps with
  | idle | request | failed => exact ⟨regular, .refl _⟩
  | @goesOn position call reply found succeeds free =>
      exact conserves_of_writes regular (holds.asserts call (List.mem_of_getElem? found))
        (Channel.writes_advance channel.books reply call)

/-- Approvals and sales in any order, with any failures and replays: the supply
of coins stays, every inventory is the balance of what it bought and sold, and
each key has moved its coins once. -/
theorem always_conserves (opening : Books) (regular : opening.Regular)
    (events : List ChannelEvent) :
    Runs.Always Channel.step
      (fun channel => channel.books.Regular ∧ opening.Conserves channel.books)
      { books := opening, calls := [] } events := by
  have kept : ∀ (channel : Channel) (event : ChannelEvent),
      (rowLocks.Holds channel.books channel.calls ∧ channel.books.Regular ∧
        opening.Conserves channel.books) →
      rowLocks.Holds (channel.step event).books (channel.step event).calls ∧
        (channel.step event).books.Regular ∧ opening.Conserves (channel.step event).books := by
    rintro channel event ⟨locks, regular, conserves⟩
    obtain ⟨regularAfter, conservesStep⟩ := conserves_step locks regular event
    exact ⟨Channel.rowLocks_step locks event, regularAfter, conserves.trans conservesStep⟩
  have always := Runs.always_of_step kept { books := opening, calls := [] }
    ⟨Outline.holds_nil regular.keyed, regular, .refl opening⟩ events
  exact always.imp fun _ holds => holds.2

theorem regular_openingBooks : openingBooks.Regular where
  keyed := keyed_openingBooks
  balances := by
    intro inventory member
    rw [List.mem_singleton.mp member]
    exact ⟨rfl, by decide⟩
  credits := rfl
  replays := fun _ _ => List.not_mem_nil

theorem conserves_saleDuringApproval :
    Runs.Always Channel.step
      (fun channel => channel.books.Regular ∧ openingBooks.Conserves channel.books)
      openingChannel saleDuringApproval :=
  always_conserves openingBooks regular_openingBooks saleDuringApproval

end Soulzaa.CoinSeller
