/-
What the statements on a room's seats leave in the table, seen through the snapshot.

An update of a row and the same change of a seat of the snapshot come to the same.
-/

import Mathlib.Algebra.Order.Ring.Int
import Soulzaa.VideoRooms.SeatStage

namespace Soulzaa.VideoRooms.Stages

open OrderedRows (Ordered)

/-- An update, on a seat of the snapshot. -/
def SeatUpdate.applyEntry (data : SeatUpdate) (seat : SeatEntrySnapshot) : SeatEntrySnapshot :=
  { seat with
    seatType := data.seatType.getD seat.seatType
    status := data.seatStatus.getD seat.status
    occupantUserId := data.occupantUserId.getD seat.occupantUserId
    reservedForUserId := data.reservedForUserId.getD seat.reservedForUserId
    isLocked := data.isLocked.getD seat.isLocked
    reason := (data.metadata.map SeatMetadata.reason).getD seat.reason
    premium := (data.metadata.map SeatMetadata.premium).getD seat.premium }

theorem SeatUpdate.seatRowToEntry_apply (data : SeatUpdate) (row : VideoRoomSeat) :
    seatRowToEntry (data.apply row) = data.applyEntry (seatRowToEntry row) := by
  unfold seatRowToEntry SeatUpdate.apply SeatUpdate.applyEntry
  cases data.metadata with
  | none => rfl
  | some metadata => rfl

theorem SeatUpdate.applyEntry_applyEntry (data : SeatUpdate) (seat : SeatEntrySnapshot) :
    data.applyEntry (data.applyEntry seat) = data.applyEntry seat := by
  obtain ⟨seatType, seatStatus, occupant, holder, isLocked, metadata⟩ := data
  unfold SeatUpdate.applyEntry
  cases seatType <;> cases seatStatus <;> cases occupant <;> cases holder <;> cases isLocked <;>
    cases metadata <;> rfl

namespace SeatTable

def entries (table : SeatTable) : List SeatEntrySnapshot := table.seats.map seatRowToEntry

variable {table after : SeatTable} {seatIndex : Nat} {data : SeatUpdate}

def find (table : SeatTable) (seatIndex : Nat) : Option VideoRoomSeat :=
  KeyedRows.find VideoRoomSeat.seatIndex seatIndex table.seats

theorem find_entries : KeyedRows.find SeatEntrySnapshot.seatIndex seatIndex table.entries =
    (table.find seatIndex).map seatRowToEntry :=
  KeyedRows.find_map fun _ => rfl

theorem ordered_entries (ordered : Ordered VideoRoomSeat.seatIndex table.seats) :
    Ordered SeatEntrySnapshot.seatIndex table.entries := by
  unfold Ordered entries
  rw [List.pairwise_map]
  exact ordered

theorem mem_entries_of_find {seat : SeatEntrySnapshot}
    (found : KeyedRows.find SeatEntrySnapshot.seatIndex seatIndex table.entries = some seat) :
    ∃ row, table.find seatIndex = some row := by
  rw [find_entries] at found
  obtain ⟨row, isRow, -⟩ := Option.map_eq_some_iff.mp found
  exact ⟨row, isRow⟩

/-! ### Updates -/

theorem seatedElsewhere_iff : table.SeatedElsewhere seatIndex data ↔
    ∃ seat ∈ table.entries, seat.seatIndex ≠ seatIndex ∧ seat.occupantUserId.isSome ∧
      data.occupantUserId = some seat.occupantUserId := by
  unfold SeatedElsewhere entries
  constructor
  · rintro ⟨row, member, elsewhere⟩
    exact ⟨seatRowToEntry row, List.mem_map_of_mem member, elsewhere⟩
  · rintro ⟨seat, member, elsewhere⟩
    obtain ⟨row, inside, rfl⟩ := List.mem_map.mp member
    exact ⟨row, inside, elsewhere⟩

/-- An update that moves nobody in is refused only where the row is missing. -/
theorem not_seatedElsewhere_of_nobody (nobody : ∀ userId, data.occupantUserId ≠ some (some userId)) :
    ¬table.SeatedElsewhere seatIndex data := by
  rintro ⟨row, -, -, seated, same⟩
  obtain ⟨userId, isUser⟩ := Option.isSome_iff_exists.mp seated
  rw [isUser] at same
  exact nobody userId same

theorem writeAll_refused {first : SeatWrite} {rest : List SeatWrite}
    (refused : table.write first = none) : table.writeAll (first :: rest) = (table, false) := by
  rw [writeAll, refused]

def updated (table : SeatTable) (seatIndex : Nat) (data : SeatUpdate) : SeatTable :=
  { table with seats := KeyedRows.update VideoRoomSeat.seatIndex seatIndex data.apply table.seats }

theorem updateSeat_eq {row : VideoRoomSeat} (found : table.find seatIndex = some row)
    (free : ¬table.SeatedElsewhere seatIndex data) :
    table.updateSeat seatIndex data = some (table.updated seatIndex data) := by
  unfold find at found
  unfold updateSeat
  rw [found]
  exact if_neg free

theorem keeps_apply (data : SeatUpdate) :
    KeyedRows.KeepsKey VideoRoomSeat.seatIndex data.apply := fun _ => rfl

theorem keeps_applyEntry (data : SeatUpdate) :
    KeyedRows.KeepsKey SeatEntrySnapshot.seatIndex data.applyEntry := fun _ => rfl

theorem entries_updated : (table.updated seatIndex data).entries =
    KeyedRows.update SeatEntrySnapshot.seatIndex seatIndex data.applyEntry table.entries := by
  unfold entries updated KeyedRows.update
  rw [List.map_map, List.map_map]
  apply List.map_congr_left
  intro row _
  rw [Function.comp_apply, Function.comp_apply]
  by_cases same : row.seatIndex = seatIndex
  · rw [if_pos same, SeatUpdate.seatRowToEntry_apply]
    exact (if_pos same).symm
  · rw [if_neg same]
    exact (if_neg same).symm

theorem find_updated {other : Nat} : (table.updated seatIndex data).find other =
    if other = seatIndex then (table.find other).map data.apply else table.find other :=
  KeyedRows.find_update_eq_ite (keeps_apply data)

theorem ordered_updated (ordered : Ordered VideoRoomSeat.seatIndex table.seats) :
    Ordered VideoRoomSeat.seatIndex (table.updated seatIndex data).seats :=
  OrderedRows.ordered_update (keeps_apply data) ordered

/-- What updates that move nobody in leave behind. -/
theorem writeAll_updates {indexes : List Nat} {data : Nat → SeatUpdate}
    (there : ∀ seatIndex ∈ indexes, ∃ row, table.find seatIndex = some row)
    (nobody : ∀ seatIndex userId, (data seatIndex).occupantUserId ≠ some (some userId))
    (rest : List SeatWrite) :
    table.writeAll ((indexes.map fun seatIndex => .updateSeat seatIndex (data seatIndex)) ++ rest) =
      (indexes.foldl (fun table seatIndex => table.updated seatIndex (data seatIndex)) table).writeAll
        rest := by
  induction indexes generalizing table with
  | nil => rfl
  | cons first others ih =>
      obtain ⟨row, found⟩ := there first List.mem_cons_self
      rw [List.map_cons, List.cons_append, writeAll, write,
        updateSeat_eq found (not_seatedElsewhere_of_nobody (nobody first))]
      refine ih ?_
      intro other member
      obtain ⟨otherRow, otherFound⟩ := there other (List.mem_cons_of_mem first member)
      rw [find_updated, otherFound]
      split
      · exact ⟨_, rfl⟩
      · exact ⟨_, rfl⟩

theorem entries_foldl_updated (indexes : List Nat) (data : Nat → SeatUpdate) :
    (indexes.foldl (fun table seatIndex => table.updated seatIndex (data seatIndex)) table).entries =
      table.entries.map fun seat =>
        if seat.seatIndex ∈ indexes then (data seat.seatIndex).applyEntry seat else seat := by
  rw [← KeyedRows.foldl_update (fun seatIndex => keeps_applyEntry (data seatIndex))
    fun seatIndex => SeatUpdate.applyEntry_applyEntry (data seatIndex)]
  induction indexes generalizing table with
  | nil => rfl
  | cons first rest ih =>
      rw [List.foldl_cons, List.foldl_cons, ih, entries_updated]

theorem foldl_updated (indexes : List Nat) (data : Nat → SeatUpdate)
    (ordered : Ordered VideoRoomSeat.seatIndex table.seats) :
    Ordered VideoRoomSeat.seatIndex (indexes.foldl
      (fun table seatIndex => table.updated seatIndex (data seatIndex)) table).seats ∧
      (indexes.foldl (fun table seatIndex => table.updated seatIndex (data seatIndex))
        table).settings = table.settings := by
  induction indexes generalizing table with
  | nil => exact ⟨ordered, rfl⟩
  | cons first rest ih =>
      rw [List.foldl_cons]
      exact ih (ordered_updated ordered)

/-! ### The layout -/

theorem find_buildSeatLayout {layout : SeatLayout} :
    KeyedRows.find SeatLayoutEntry.seatIndex seatIndex (buildSeatLayout layout) =
      if seatIndex < layout.total.toNat then
        some { seatIndex := seatIndex, seatType := layout.typeAt seatIndex }
      else none := by
  unfold buildSeatLayout
  generalize layout.total.toNat = total
  induction total with
  | zero => rfl
  | succ total ih =>
      rw [List.range_succ, List.map_append, List.map_singleton, KeyedRows.find_concat, ih]
      show (if seatIndex < total then _ else none).or (if total = seatIndex then _ else none) = _
      by_cases below : seatIndex < total
      · rw [if_pos below, if_pos (Nat.lt_succ_of_lt below)]
        rfl
      · rw [if_neg below]
        by_cases last : total = seatIndex
        · rw [if_pos last, last, if_pos (Nat.lt_succ_self seatIndex)]
          rfl
        · rw [if_neg last, if_neg (by omega)]
          rfl

def freshSeat (entry : SeatLayoutEntry) : VideoRoomSeat where
  seatIndex := entry.seatIndex
  seatType := entry.seatType

theorem createLayout_spec (layout : List SeatLayoutEntry)
    (ordered : Ordered VideoRoomSeat.seatIndex table.seats) :
    Ordered VideoRoomSeat.seatIndex (table.createLayout layout).seats ∧
      ∀ seatIndex, (table.createLayout layout).find seatIndex =
        (table.find seatIndex).or
          ((KeyedRows.find SeatLayoutEntry.seatIndex seatIndex layout).map freshSeat) := by
  induction layout generalizing table with
  | nil => exact ⟨ordered, fun _ => (Option.or_none).symm⟩
  | cons first rest ih =>
      have inserted : Ordered VideoRoomSeat.seatIndex
          (OrderedRows.insertNew VideoRoomSeat.seatIndex (freshSeat first) table.seats) :=
        OrderedRows.ordered_insertNew ordered
      obtain ⟨stays, finds⟩ : Ordered VideoRoomSeat.seatIndex
          (table.createLayout (first :: rest)).seats ∧ ∀ seatIndex,
            (table.createLayout (first :: rest)).find seatIndex =
              (KeyedRows.find VideoRoomSeat.seatIndex seatIndex
                (OrderedRows.insertNew VideoRoomSeat.seatIndex (freshSeat first) table.seats)).or
                ((KeyedRows.find SeatLayoutEntry.seatIndex seatIndex rest).map freshSeat) :=
        @ih { table with
          seats := OrderedRows.insertNew VideoRoomSeat.seatIndex (freshSeat first) table.seats }
          inserted
      refine ⟨stays, ?_⟩
      intro seatIndex
      rw [finds, OrderedRows.find_insertNew ordered, Option.or_assoc, OrderedRows.find_cons]
      congr 1
      show (if first.seatIndex = seatIndex then some (freshSeat first) else none).or _ = _
      split
      · rfl
      · rfl

end SeatTable

end Soulzaa.VideoRooms.Stages
