/-
What the shelf, the distributions and the backpacks say of each other.

The transaction keeps the three together whatever the calls.  A call whose key is taken is
answered with the row under that key, whichever agency, recipient or reward it is of.
-/

import Soulzaa.Agencies.Rewards

namespace Soulzaa.Agencies

/-- Shelves that nothing has been sent from. -/
structure Stock where
  shelves : List AgencyRewardInventory
  distinct : (shelves.map AgencyRewardInventory.id).Nodup
  covered : ∀ shelf ∈ shelves, 0 ≤ shelf.quantity
  unsent : ∀ shelf ∈ shelves, shelf.distributedTotal = 0

def Stock.world (stock : Stock) (members : List (AgencyId × UserId)) : World :=
  { tables :=
      { inventory := stock.shelves
        backpack := .empty
        distributions := .empty }
    members := members
    calls := [] }

namespace Tables

/-- A shelf's identity, and what it holds and has given together. -/
def whole (shelf : AgencyRewardInventory) : InventoryId × Int :=
  (shelf.id, shelf.quantity + shelf.distributedTotal)

def distributed (tables : Tables) (inventoryId : InventoryId) : Int :=
  KeyedRows.total AgencyRewardDistribution.inventoryId AgencyRewardDistribution.quantity
    inventoryId tables.distributions.rows

/-- The quantity of the backpack item a distribution names. -/
def given (tables : Tables) (row : AgencyRewardDistribution) : Int :=
  ((KeyedRows.find BackpackItem.id row.backpackItemId tables.backpack.rows).map
    BackpackItem.quantity).getD 0

def granted (tables : Tables) (inventoryId : InventoryId) : Int :=
  KeyedRows.total AgencyRewardDistribution.inventoryId tables.given inventoryId
    tables.distributions.rows

/-- The shelves, the distributions and the backpacks agree. -/
structure Conserved (stock : Stock) (tables : Tables) : Prop where
  whole : tables.inventory.map whole = stock.shelves.map whole
  covered : ∀ shelf ∈ tables.inventory, 0 ≤ shelf.quantity
  counted : ∀ shelf ∈ tables.inventory, shelf.distributedTotal = tables.distributed shelf.id
  granted : ∀ shelf ∈ tables.inventory, tables.granted shelf.id = tables.distributed shelf.id
  once : (tables.distributions.rows.map AgencyRewardDistribution.backpackItemId).Nodup
  nothingElse : ∀ item ∈ tables.backpack.rows, ∃ row ∈ tables.distributions.rows,
    row.backpackItemId = item.id ∧ row.recipientId = item.userId

end Tables

/-- The distribution is of the reward asked for, by the agency and for the recipient. -/
structure Fits (agencyId : AgencyId) (input : DistributeInput) (row : AgencyRewardDistribution) :
    Prop where
  agency : row.agencyId = agencyId
  reward : row.inventoryId = input.inventoryId
  recipient : row.recipientId = input.recipientId
  quantity : row.quantity = input.units
  kind : row.kind = input.givenKind

namespace World

/-- Every call that succeeded is answered with a distribution of what it asked for. -/
def Delivered (world : World) : Prop :=
  ∀ call ∈ world.calls, ∀ row, call.point = .done (.ok row) →
    row ∈ world.tables.distributions.rows ∧ Fits call.agencyId call.input row

structure Sound (stock : Stock) (world : World) : Prop where
  conserved : world.tables.Conserved stock
  delivered : world.Delivered

/-- A call that looks its key up finds nothing, or a distribution of what it asks for. -/
def Matches (world : World) : Happening → Prop
  | .goOn position _ => ∀ call ∈ world.calls[position]?, call.point = .looking →
      ∀ row ∈ world.tables.distributions.find? call.input.idempotencyKey,
        Fits call.agencyId call.input row
  | _ => True

end World

/-! ### The transaction -/

namespace Tables

variable {stock : Stock} {tables after : Tables} {now : Nat} {agencyId : AgencyId}
  {input : DistributeInput} {row : AgencyRewardDistribution}

/-- The distribution and the item that one transaction wrote. -/
structure Pays (row : AgencyRewardDistribution) (item : BackpackItem) : Prop where
  names : row.backpackItemId = item.id
  recipient : row.recipientId = item.userId
  quantity : row.quantity = item.quantity

/-- Distributions and items are written together, and items numbered as they come. -/
structure Books (stock : Stock) (tables : Tables) : Prop where
  whole : tables.inventory.map whole = stock.shelves.map whole
  covered : ∀ shelf ∈ tables.inventory, 0 ≤ shelf.quantity
  counted : ∀ shelf ∈ tables.inventory, shelf.distributedTotal = tables.distributed shelf.id
  numbered : tables.backpack.rows.map BackpackItem.id = List.range tables.backpack.rows.length
  named : tables.distributions.rows.map AgencyRewardDistribution.backpackItemId =
    tables.backpack.rows.map BackpackItem.id
  paid : ∀ row ∈ tables.distributions.rows, ∃ item ∈ tables.backpack.rows, Pays row item

theorem Books.distinct (books : tables.Books stock) :
    (tables.backpack.rows.map BackpackItem.id).Nodup :=
  books.numbered ▸ List.nodup_range

theorem Books.shelves_distinct (books : tables.Books stock) :
    (tables.inventory.map AgencyRewardInventory.id).Nodup := by
  have ids : ∀ shelves : List AgencyRewardInventory,
      shelves.map AgencyRewardInventory.id = (shelves.map Tables.whole).map Prod.fst := by
    intro shelves
    rw [List.map_map]
    rfl
  rw [ids, books.whole, ← ids]
  exact stock.distinct

theorem Books.given (books : tables.Books stock) (member : row ∈ tables.distributions.rows) :
    tables.given row = row.quantity := by
  obtain ⟨item, inBackpack, pays⟩ := books.paid row member
  unfold Tables.given
  rw [pays.names, KeyedRows.find_of_mem books.distinct inBackpack, pays.quantity]
  rfl

theorem Books.conserved (books : tables.Books stock) : tables.Conserved stock where
  whole := books.whole
  covered := books.covered
  counted := books.counted
  granted := by
    intro shelf _
    unfold granted distributed KeyedRows.total
    congr 1
    apply List.map_congr_left
    intro row selected
    exact books.given (List.mem_filter.mp selected).1
  once := by
    rw [books.named]
    exact books.distinct
  nothingElse := by
    intro item member
    have isNamed := List.mem_map_of_mem (f := BackpackItem.id) member
    rw [← books.named] at isNamed
    obtain ⟨row, inTable, sameId⟩ := List.mem_map.mp isNamed
    obtain ⟨other, inBackpack, pays⟩ := books.paid row inTable
    have isItem : other = item :=
      List.inj_on_of_nodup_map books.distinct inBackpack member (pays.names.symm.trans sameId)
    exact ⟨row, inTable, sameId, isItem ▸ pays.recipient⟩

theorem books_stock (stock : Stock) (members : List (AgencyId × UserId)) :
    (stock.world members).tables.Books stock where
  whole := rfl
  covered := stock.covered
  counted := stock.unsent
  numbered := rfl
  named := rfl
  paid := List.forall_mem_nil _

/-- What a transaction that commits has written. -/
theorem send_ok (sent : tables.send now agencyId input = (after, .ok row)) :
    ∃ shelf, tables.findShelf input.inventoryId agencyId = some shelf ∧
      input.units ≤ shelf.quantity ∧ row = tables.distribution agencyId input shelf ∧
      after.inventory = KeyedRows.update AgencyRewardInventory.id shelf.id
        (takeStock input.units) tables.inventory ∧
      after.backpack.rows = tables.backpack.rows ++ [tables.grantedItem agencyId input shelf] ∧
      after.distributions.rows = tables.distributions.rows ++ [row] := by
  unfold send at sent
  split at sent
  · cases sent
  · rename_i shelf found
    split at sent
    · cases sent
    · rename_i enough
      split at sent
      · cases sent
      · dsimp only at sent
        split at sent
        · rename_i backpack distributions granted written
          cases sent
          exact ⟨shelf, found, Int.not_lt.mp enough, rfl, rfl,
            (UniqueTable.rows_of_create granted).2, (UniqueTable.rows_of_create written).2⟩
        · cases sent

theorem send_error {failure : DistributeFailure}
    (sent : tables.send now agencyId input = (after, .error failure)) : after = tables := by
  unfold send at sent
  split at sent
  · cases sent
    rfl
  · split at sent
    · cases sent
      rfl
    · split at sent
      · cases sent
        rfl
      · dsimp only at sent
        split at sent
        · cases sent
        · cases sent
          rfl

theorem findShelf_spec {shelf : AgencyRewardInventory}
    (found : tables.findShelf input.inventoryId agencyId = some shelf) :
    shelf ∈ tables.inventory ∧ shelf.id = input.inventoryId := by
  unfold findShelf at found
  have selected := List.find?_some found
  exact ⟨List.mem_of_find?_eq_some found, (of_decide_eq_true selected).1⟩

theorem fits_of_send (sent : tables.send now agencyId input = (after, .ok row)) :
    row ∈ after.distributions.rows ∧ Fits agencyId input row := by
  obtain ⟨shelf, found, _, rfl, _, _, written⟩ := send_ok sent
  refine ⟨written ▸ List.mem_append_right _ (List.mem_singleton_self _), ?_⟩
  exact ⟨rfl, (findShelf_spec found).2, rfl, rfl, rfl⟩

theorem Books.send (books : tables.Books stock)
    (sent : tables.send now agencyId input = (after, .ok row)) : after.Books stock := by
  obtain ⟨shelf, found, enough, rfl, inventory, backpack, distributions⟩ := send_ok sent
  obtain ⟨inInventory, _⟩ := findShelf_spec found
  have isShelf : ∀ before ∈ tables.inventory, before.id = shelf.id → before = shelf :=
    fun before member same =>
      List.inj_on_of_nodup_map books.shelves_distinct member inInventory same
  constructor
  · rw [inventory, KeyedRows.map_update, books.whole]
    intro before
    simp only [Tables.whole, takeStock, Prod.mk.injEq, true_and]
    omega
  · rw [inventory]
    intro written member
    obtain ⟨before, inside, rfl⟩ := KeyedRows.mem_update member
    split
    · rename_i same
      rw [isShelf before inside same]
      exact Int.sub_nonneg_of_le enough
    · exact books.covered before inside
  · rw [inventory]
    intro written member
    obtain ⟨before, inside, rfl⟩ := KeyedRows.mem_update member
    have counted := books.counted before inside
    unfold distributed at counted ⊢
    have ofShelf : ∀ row ∈ [tables.distribution agencyId input shelf],
        row.inventoryId = shelf.id := by simp [distribution]
    rw [distributions, KeyedRows.total_append ofShelf]
    split
    · rename_i same
      rw [if_pos (by exact same)]
      simp [takeStock, distribution, counted]
    · rw [counted, add_zero]
  · rw [backpack, List.map_append, books.numbered, List.length_append, List.length_singleton,
      List.range_succ]
    rfl
  · rw [distributions, backpack, List.map_append, List.map_append, books.named]
    rfl
  · rw [distributions, backpack]
    intro written member
    rcases List.mem_append.mp member with old | new
    · obtain ⟨item, inside, pays⟩ := books.paid written old
      exact ⟨item, List.mem_append_left _ inside, pays⟩
    · rw [List.mem_singleton.mp new]
      exact ⟨_, List.mem_append_right _ (List.mem_singleton_self _), rfl, rfl, rfl⟩

end Tables

/-! ### Calls side by side -/

namespace World

variable {stock : Stock} {world : World} {position : Nat} {call : Call}

/-- What a step leaves of the tables: they stay, or a transaction commits. -/
theorem books_goOn (books : world.tables.Books stock) (position now : Nat) (call : Call) :
    (world.goOn position now call).tables.Books stock := by
  unfold goOn
  split
  · split
    · exact books
    · exact books
  · split
    · exact books
    · exact books
  · cases sent : world.tables.send now call.agencyId call.input with
    | mk after outcome =>
        cases outcome with
        | ok row => exact books.send sent
        | error failure =>
            have unchanged := Tables.send_error sent
            subst unchanged
            exact books
  · exact books

theorem books_step (books : world.tables.Books stock) (event : Happening) :
    (world.step event).tables.Books stock := by
  cases event with
  | distribute agencyId input => exact books
  | goOn position now =>
      rw [step]
      split
      · exact books
      · exact books_goOn books _ _ _
  | fail position =>
      rw [step]
      split
      · exact books
      · split
        · exact books
        · exact books
  | membership agencyId hostId active => exact books

/-- One call goes on, over tables that have lost no distribution. -/
theorem delivered_moveTo (delivered : world.Delivered) {tables : Tables} {point : Point}
    (kept : ∀ row ∈ world.tables.distributions.rows, row ∈ tables.distributions.rows)
    (answered : ∀ row, point = .done (.ok row) →
      row ∈ tables.distributions.rows ∧ Fits call.agencyId call.input row) :
    ({ world with tables := tables }.moveTo position call point).Delivered := by
  intro other member row isDone
  rcases List.mem_or_eq_of_mem_set member with old | isCall
  · obtain ⟨inTable, fits⟩ := delivered other old row isDone
    exact ⟨kept row inTable, fits⟩
  · rw [isCall] at isDone ⊢
    exact answered row isDone

/-- The call that has gone on stands where it was moved to. -/
theorem answered_of_delivered (found : world.calls[position]? = some call) {point : Point}
    (delivered : (world.moveTo position call point).Delivered) {row : AgencyRewardDistribution}
    (isDone : point = .done (.ok row)) : Fits call.agencyId call.input row := by
  have inside := (List.getElem?_eq_some_iff.mp found).1
  exact (delivered _ (List.mem_set inside _) row isDone).2

theorem delivered_goOn_iff (delivered : world.Delivered)
    (found : world.calls[position]? = some call) (now : Nat) :
    (world.goOn position now call).Delivered ↔ world.Matches (.goOn position now) := by
  have matches_iff : world.Matches (.goOn position now) ↔ (call.point = .looking →
      ∀ row ∈ world.tables.distributions.find? call.input.idempotencyKey,
        Fits call.agencyId call.input row) := by
    rw [Matches, found]
    exact ⟨fun all => all call rfl, fun one other isOther => Option.some_inj.mp isOther ▸ one⟩
  have unanswered : ∀ {point : Point}, (∀ row, point ≠ .done (.ok row)) →
      (world.moveTo position call point).Delivered := fun isNot =>
    delivered_moveTo delivered (fun row (isRow : row ∈ world.tables.distributions.rows) => isRow)
      fun row isDone => absurd isDone (isNot row)
  rw [matches_iff]
  unfold goOn
  cases point : call.point with
  | looking =>
      dsimp only
      split
      · rename_i existing isExisting
        constructor
        · intro after _ row isRow
          rw [← Option.some_inj.mp (isExisting.symm.trans isRow)]
          exact answered_of_delivered found after rfl
        · intro fits
          apply delivered_moveTo delivered
            fun row (isRow : row ∈ world.tables.distributions.rows) => isRow
          rintro row isDone
          cases isDone
          exact ⟨List.mem_of_find?_eq_some isExisting, fits rfl existing isExisting⟩
      · rename_i missing
        refine iff_of_true (unanswered fun _ => nofun) fun _ row isRow => ?_
        rw [missing] at isRow
        cases isRow
  | checkingMembership =>
      refine iff_of_true ?_ nofun
      dsimp only
      split
      · exact unanswered fun _ => nofun
      · exact unanswered fun _ => nofun
  | sending =>
      refine iff_of_true ?_ nofun
      dsimp only
      cases sent : world.tables.send now call.agencyId call.input with
      | mk after outcome =>
          apply delivered_moveTo delivered
          · intro row member
            cases outcome with
            | ok added =>
                obtain ⟨_, _, _, _, _, _, written⟩ := Tables.send_ok sent
                exact written ▸ List.mem_append_left _ member
            | error failure => exact (Tables.send_error sent).symm ▸ member
          · intro row isDone
            cases isDone
            exact Tables.fits_of_send sent
  | done outcome => exact iff_of_true delivered nofun

theorem delivered_step_iff (delivered : world.Delivered) (event : Happening) :
    (world.step event).Delivered ↔ world.Matches event := by
  cases event with
  | distribute agencyId input =>
      refine iff_of_true ?_ trivial
      intro call member row isDone
      rcases List.mem_append.mp member with old | new
      · exact delivered call old row isDone
      · rw [List.mem_singleton.mp new] at isDone
        unfold begin at isDone
        dsimp only at isDone
        split at isDone <;> cases isDone
  | goOn position now =>
      rw [step]
      split
      · rename_i missing
        refine iff_of_true delivered ?_
        intro call isCall
        rw [missing] at isCall
        cases isCall
      · rename_i call found
        exact delivered_goOn_iff delivered found now
  | fail position =>
      refine iff_of_true ?_ trivial
      rw [step]
      split
      · exact delivered
      · split
        · exact delivered
        · exact delivered_moveTo delivered
            (fun row (isRow : row ∈ world.tables.distributions.rows) => isRow) fun _ => nofun
  | membership agencyId hostId active => exact iff_of_true delivered trivial

/-- However the calls of any agencies interleave, the shelves, the distributions and the
backpacks agree, and every success stands for a delivery exactly when no call finds its key
under a distribution of something else. -/
theorem sound_iff_matches (stock : Stock) (members : List (AgencyId × UserId))
    (events : List Happening) :
    Runs.Always step (Sound stock) (stock.world members) events ↔
      Runs.Each step Matches (stock.world members) events := by
  have books := Tables.books_stock stock members
  refine Runs.always_iff_each (fun world => world.tables.Books stock) ?_ ?_
    (stock.world members) books ⟨books.conserved, List.forall_mem_nil _⟩ events
  · exact fun world event books _ _ => books_step books event
  · intro world event books sound
    rw [← delivered_step_iff sound.delivered event]
    exact ⟨fun after => after.delivered, fun delivered =>
      ⟨(books_step books event).conserved, delivered⟩⟩

end World

/-! ### A key that another agency has used -/

namespace SharedKey

def stock : Stock where
  shelves :=
    [{ id := "shelf-1", agencyId := "agency-1", itemType := "FRAME", refId := none
       name := "Gold frame", quantity := 5 },
      { id := "shelf-2", agencyId := "agency-2", itemType := "FRAME", refId := none
        name := "Gold frame", quantity := 5 }]
  distinct := by decide
  covered := by decide
  unsent := by decide

def hosts : List (AgencyId × UserId) := [("agency-1", "alice"), ("agency-2", "bob")]

/-- The first agency sends alice a frame; the second sends bob one under the same key. -/
def events : List Happening :=
  [.distribute "agency-1"
      { inventoryId := "shelf-1", recipientId := "alice", quantity := 1, idempotencyKey := "k" },
    .goOn 0 0, .goOn 0 0, .goOn 0 0,
    .distribute "agency-2"
      { inventoryId := "shelf-2", recipientId := "bob", quantity := 1, idempotencyKey := "k" },
    .goOn 1 0]

end SharedKey

namespace World

def answeredElsewhere (call : Call) : Bool :=
  match call.point with
  | .done (.ok row) => call.agencyId ≠ row.agencyId
  | _ => false

open SharedKey in
theorem not_sound_sharedKey : ¬Runs.Always step (Sound stock) (stock.world hosts) events := by
  intro always
  have sound := Runs.Always.final always
  have answered : (Runs.run step (stock.world hosts) events).calls.any answeredElsewhere = true := by
    decide +kernel
  obtain ⟨call, member, elsewhere⟩ := List.any_eq_true.mp answered
  unfold answeredElsewhere at elsewhere
  split at elsewhere
  · rename_i row isDone
    exact of_decide_eq_true elsewhere (sound.delivered call member row isDone).2.agency.symm
  · cases elsewhere

end World

end Soulzaa.Agencies
