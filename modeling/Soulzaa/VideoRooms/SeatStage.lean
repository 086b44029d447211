/-
The seats of a video room, as the table keeps them and as the live snapshot shows them.

An operation works on the snapshot, which is written to the cache before the rows of the table
that it changes.  The rows go by their index, and are read in its order.
-/

import Mathlib.Order.Nat
import Soulzaa.Lib.OrderedRows
import Soulzaa.VideoRooms.PkStatus

namespace Soulzaa.VideoRooms.Stages

inductive VideoRoomSeatType where
  | owner
  | host
  | guest
  deriving DecidableEq, Repr

inductive VideoRoomSeatStatus where
  | empty
  | occupied
  | locked
  | reserved
  deriving DecidableEq, Repr

/-- What is read of a row's free-form metadata. -/
structure SeatMetadata where
  reason : Option String := none
  premium : Bool := false
  deriving DecidableEq, Repr

structure VideoRoomSeat where
  seatIndex : Nat
  seatType : VideoRoomSeatType
  seatStatus : VideoRoomSeatStatus := .empty
  occupantUserId : Option UserId := none
  reservedForUserId : Option UserId := none
  isLocked : Bool := false
  isMuted : Bool := false
  isVideoOn : Bool := false
  metadata : SeatMetadata := {}
  deriving DecidableEq, Repr

structure SeatEntrySnapshot where
  seatIndex : Nat
  seatType : VideoRoomSeatType
  status : VideoRoomSeatStatus
  occupantUserId : Option UserId
  reservedForUserId : Option UserId
  isLocked : Bool
  isMuted : Bool
  isVideoOn : Bool
  reason : Option String
  premium : Bool
  deriving DecidableEq, Repr

def seatRowToEntry (row : VideoRoomSeat) : SeatEntrySnapshot where
  seatIndex := row.seatIndex
  seatType := row.seatType
  status := row.seatStatus
  occupantUserId := row.occupantUserId
  reservedForUserId := row.reservedForUserId
  isLocked := row.isLocked
  isMuted := row.isMuted
  isVideoOn := row.isVideoOn
  reason := row.metadata.reason
  premium := row.metadata.premium

structure SeatLayout where
  hostSeatCount : Int := 9
  guestSeatCount : Int := 0
  deriving DecidableEq, Repr

structure SeatStageSnapshot where
  version : Nat
  layout : SeatLayout
  seats : List SeatEntrySnapshot
  deriving DecidableEq, Repr

/-! ### The layout -/

def isOwnerSeat (seatIndex : Nat) : Bool := seatIndex = 0

structure SeatLayoutEntry where
  seatIndex : Nat
  seatType : VideoRoomSeatType
  deriving DecidableEq, Repr

def SeatLayout.total (layout : SeatLayout) : Int :=
  1 + layout.hostSeatCount + layout.guestSeatCount

def SeatLayout.typeAt (layout : SeatLayout) (seatIndex : Nat) : VideoRoomSeatType :=
  if seatIndex = 0 then .owner
  else if (seatIndex : Int) ≤ layout.hostSeatCount then .host
  else .guest

def buildSeatLayout (layout : SeatLayout) : List SeatLayoutEntry :=
  (List.range layout.total.toNat).map fun seatIndex =>
    { seatIndex := seatIndex, seatType := layout.typeAt seatIndex }

/-! ### The table -/

/-- The room's seats, in the order of their index, and the layout of its settings. -/
structure SeatTable where
  settings : Option SeatLayout
  seats : List VideoRoomSeat
  deriving DecidableEq, Repr

/-- The columns that an update sets. -/
structure SeatUpdate where
  seatType : Option VideoRoomSeatType := none
  seatStatus : Option VideoRoomSeatStatus := none
  occupantUserId : Option (Option UserId) := none
  reservedForUserId : Option (Option UserId) := none
  isLocked : Option Bool := none
  metadata : Option SeatMetadata := none
  deriving DecidableEq, Repr

def SeatUpdate.apply (data : SeatUpdate) (row : VideoRoomSeat) : VideoRoomSeat :=
  { row with
    seatType := data.seatType.getD row.seatType
    seatStatus := data.seatStatus.getD row.seatStatus
    occupantUserId := data.occupantUserId.getD row.occupantUserId
    reservedForUserId := data.reservedForUserId.getD row.reservedForUserId
    isLocked := data.isLocked.getD row.isLocked
    metadata := data.metadata.getD row.metadata }

inductive SeatWrite where
  | setSeatLayout (layout : SeatLayout)
  | createLayout (layout : List SeatLayoutEntry)
  | updateSeat (seatIndex : Nat) (data : SeatUpdate)
  | deleteSeatsFrom (minIndex : Nat)
  deriving DecidableEq, Repr

namespace SeatTable

/-- The platform's defaults where the room has no settings. -/
def getSeatLayout (table : SeatTable) : SeatLayout := table.settings.getD {}

/-- Rows that are there are skipped. -/
def createLayout (table : SeatTable) (layout : List SeatLayoutEntry) : SeatTable :=
  { table with
    seats := layout.foldl (fun seats entry =>
      OrderedRows.insertNew VideoRoomSeat.seatIndex
        { seatIndex := entry.seatIndex, seatType := entry.seatType } seats) table.seats }

/-- The user sits on another seat of the room, which the table's key forbids. -/
def SeatedElsewhere (table : SeatTable) (seatIndex : Nat) (data : SeatUpdate) : Prop :=
  ∃ row ∈ table.seats, row.seatIndex ≠ seatIndex ∧ row.occupantUserId.isSome ∧
    data.occupantUserId = some row.occupantUserId

instance (table : SeatTable) (seatIndex : Nat) (data : SeatUpdate) :
    Decidable (table.SeatedElsewhere seatIndex data) :=
  inferInstanceAs (Decidable (∃ row ∈ table.seats, _))

/-- None where the row is missing, or the table's key refuses it. -/
def updateSeat (table : SeatTable) (seatIndex : Nat) (data : SeatUpdate) : Option SeatTable :=
  match KeyedRows.find VideoRoomSeat.seatIndex seatIndex table.seats with
  | none => none
  | some _ =>
      if table.SeatedElsewhere seatIndex data then none
      else
        some { table with
               seats := KeyedRows.update VideoRoomSeat.seatIndex seatIndex data.apply table.seats }

/-- One statement; none where it is refused. -/
def write (table : SeatTable) : SeatWrite → Option SeatTable
  | .setSeatLayout layout =>
      match table.settings with
      | none => none
      | some _ => some { table with settings := some layout }
  | .createLayout layout => some (table.createLayout layout)
  | .updateSeat seatIndex data => table.updateSeat seatIndex data
  | .deleteSeatsFrom minIndex =>
      some { table with seats := table.seats.filter fun row => row.seatIndex < minIndex }

/-- Statements one after another, until one is refused, and whether none was. -/
def writeAll (table : SeatTable) : List SeatWrite → SeatTable × Bool
  | [] => (table, true)
  | first :: rest =>
      match table.write first with
      | none => (table, false)
      | some written => written.writeAll rest

/-! ### Rebuilding -/

/-- The room declares seats, and has none. -/
def NeedsLayout (table : SeatTable) : Prop :=
  table.seats = [] ∧ table.settings.isSome ∧
    0 < table.getSeatLayout.hostSeatCount + table.getSeatLayout.guestSeatCount

instance (table : SeatTable) : Decidable table.NeedsLayout :=
  inferInstanceAs (Decidable (_ ∧ _ ∧ _))

def materialise (table : SeatTable) : SeatTable :=
  if table.NeedsLayout then table.createLayout (buildSeatLayout table.getSeatLayout) else table

def rebuild (table : SeatTable) : SeatStageSnapshot where
  version := 1
  layout := table.getSeatLayout
  seats := table.materialise.seats.map seatRowToEntry

end SeatTable

/-! ### The operations -/

inductive SeatError where
  | notFound
  | alreadyOnSeat
  | notOnSeat
  | locked
  | taken
  | reserved
  | typeForbidden
  | switchInvalid
  | transferInvalid
  | layoutInvalid
  | invalidState
  deriving DecidableEq, Repr

/-- What an operation writes: first to the table, then the snapshot, then the table. -/
structure SeatPlan where
  before : List SeatWrite := []
  layout : SeatLayout
  seats : List SeatEntrySnapshot
  after : List SeatWrite := []

/-- None where the snapshot is left as it is. -/
abbrev Planned := Except SeatError (Option SeatPlan)

namespace SeatStageSnapshot

def commit (base : SeatStageSnapshot) (plan : SeatPlan) : SeatStageSnapshot where
  version := base.version + 1
  layout := plan.layout
  seats := plan.seats

def requireSeat (base : SeatStageSnapshot) (seatIndex : Nat) : Except SeatError SeatEntrySnapshot :=
  match KeyedRows.find SeatEntrySnapshot.seatIndex seatIndex base.seats with
  | none => .error .notFound
  | some seat => .ok seat

def seatOf (base : SeatStageSnapshot) (userId : UserId) : Option SeatEntrySnapshot :=
  base.seats.find? fun seat => seat.occupantUserId = some userId

def assertClaimable (seat : SeatEntrySnapshot) (userId ownerId : UserId) : Except SeatError Unit :=
  if seat.isLocked ∨ seat.status = .locked then .error .locked
  else if seat.status = .occupied then .error .taken
  else if seat.status = .reserved ∧ seat.reservedForUserId ≠ some userId then .error .reserved
  else if isOwnerSeat seat.seatIndex ∧ userId ≠ ownerId then .error .typeForbidden
  else .ok ()

/-- The seat changes in the snapshot, and then in the table. -/
def applyTo (base : SeatStageSnapshot) (seatIndex : Nat)
    (change : SeatEntrySnapshot → SeatEntrySnapshot) (data : SeatUpdate) : Planned :=
  .ok (some
    { layout := base.layout
      seats := base.seats.map fun seat => if seat.seatIndex = seatIndex then change seat else seat
      after := [.updateSeat seatIndex data] })

def applyOccupy (base : SeatStageSnapshot) (seatIndex : Nat) (userId : UserId) : Planned :=
  base.applyTo seatIndex
    (fun seat =>
      { seat with status := .occupied, occupantUserId := some userId, reservedForUserId := none })
    { seatStatus := some .occupied
      occupantUserId := some (some userId)
      reservedForUserId := some none }

def applyVacate (base : SeatStageSnapshot) (seatIndex : Nat) : Planned :=
  base.applyTo seatIndex (fun seat => { seat with status := .empty, occupantUserId := none })
    { seatStatus := some .empty, occupantUserId := some none }

def seatUser (base : SeatStageSnapshot) (ownerId userId : UserId) (seatIndex : Nat) : Planned :=
  if base.seats.any fun seat => seat.occupantUserId = some userId then .error .alreadyOnSeat
  else
    match base.requireSeat seatIndex with
    | .error error => .error error
    | .ok seat =>
        match assertClaimable seat userId ownerId with
        | .error error => .error error
        | .ok () => base.applyOccupy seat.seatIndex userId

def takeSeat (base : SeatStageSnapshot) (ownerId userId : UserId) (seatIndex : Nat) : Planned :=
  base.seatUser ownerId userId seatIndex

def removeFromSeat (base : SeatStageSnapshot) (userId : UserId) : Planned :=
  match base.seatOf userId with
  | none => .error .notOnSeat
  | some seat => base.applyVacate seat.seatIndex

def leaveSeat (base : SeatStageSnapshot) (userId : UserId) : Planned := base.removeFromSeat userId

def vacateUser (base : SeatStageSnapshot) (userId : UserId) : Planned :=
  match base.seatOf userId with
  | none => .ok none
  | some seat => base.applyVacate seat.seatIndex

/-- Only a reason that says something is stored. -/
def metadataFor (seat : SeatEntrySnapshot) : SeatMetadata where
  reason := seat.reason.filter fun reason => reason ≠ ""
  premium := seat.premium

/-- A bulk change of seats, and what it writes of each. -/
def applyEach (base : SeatStageSnapshot) (seatIndexes : List Nat)
    (change : SeatEntrySnapshot → SeatEntrySnapshot) (data : SeatEntrySnapshot → SeatUpdate) :
    Planned :=
  let seats := base.seats.map fun seat =>
    if seat.seatIndex ∈ seatIndexes then change seat else seat
  .ok (some
    { layout := base.layout
      seats := seats
      after := seatIndexes.map fun seatIndex =>
        .updateSeat seatIndex
          ((KeyedRows.find SeatEntrySnapshot.seatIndex seatIndex seats).elim {} data) })

/-- The first index that is refused. -/
def refusal (base : SeatStageSnapshot) (refuses : Nat → Option SeatError) :
    List Nat → Option SeatError
  | [] => none
  | first :: rest =>
      match refuses first with
      | some error => some error
      | none =>
          match base.requireSeat first with
          | .error error => some error
          | .ok _ => base.refusal refuses rest

def lockSeats (base : SeatStageSnapshot) (seatIndexes : List Nat) (reason : Option String) :
    Planned :=
  match base.refusal (fun seatIndex => if isOwnerSeat seatIndex then some .typeForbidden else none)
    seatIndexes with
  | some error => .error error
  | none =>
      base.applyEach seatIndexes
        (fun seat =>
          { seat with
            status := .locked
            isLocked := true
            occupantUserId := none
            reservedForUserId := none
            reason := reason })
        (fun seat =>
          { seatStatus := some .locked
            isLocked := some true
            occupantUserId := some none
            reservedForUserId := some none
            metadata := some (metadataFor seat) })

def unlockSeats (base : SeatStageSnapshot) (seatIndexes : List Nat) : Planned :=
  match base.refusal (fun _ => none) seatIndexes with
  | some error => .error error
  | none =>
      base.applyEach seatIndexes
        (fun seat =>
          { seat with
            status := if seat.status = .locked then .empty else seat.status
            isLocked := false
            reason := none })
        (fun seat =>
          { seatStatus := some seat.status
            isLocked := some false
            metadata := some (metadataFor seat) })

def emptyEntry (seatIndex : Nat) (seatType : VideoRoomSeatType) : SeatEntrySnapshot where
  seatIndex := seatIndex
  seatType := seatType
  status := .empty
  occupantUserId := none
  reservedForUserId := none
  isLocked := false
  isMuted := false
  isVideoOn := false
  reason := none
  premium := false

/-- The table is written before the snapshot here; only seats of another type are updated. -/
def configureLayout (base : SeatStageSnapshot) (layout : SeatLayout) : Planned :=
  let entries := buildSeatLayout layout
  let desired := entries.map fun entry =>
    match KeyedRows.find SeatEntrySnapshot.seatIndex entry.seatIndex base.seats with
    | none => emptyEntry entry.seatIndex entry.seatType
    | some existing => { existing with seatType := entry.seatType }
  let retyped := entries.filter fun entry =>
    (KeyedRows.find SeatEntrySnapshot.seatIndex entry.seatIndex base.seats).any fun existing =>
      existing.seatType ≠ entry.seatType
  .ok (some
    { before := .setSeatLayout layout :: .createLayout entries ::
        (retyped.map fun entry => .updateSeat entry.seatIndex { seatType := some entry.seatType }) ++
          [.deleteSeatsFrom layout.total.toNat]
      layout := layout
      seats := desired })

/-- The user goes from one seat to another, in the snapshot. -/
def moved (base : SeatStageSnapshot) (userId : UserId) (source target : Nat) :
    List SeatEntrySnapshot :=
  base.seats.map fun seat =>
    if seat.seatIndex = source then { seat with status := .empty, occupantUserId := none }
    else if seat.seatIndex = target then
      { seat with status := .occupied, occupantUserId := some userId, reservedForUserId := none }
    else seat

def applyMove (base : SeatStageSnapshot) (userId : UserId) (source target : Nat) : Planned :=
  .ok (some
    { layout := base.layout
      seats := base.moved userId source target
      after :=
        [.updateSeat source { seatStatus := some .empty, occupantUserId := some none },
          .updateSeat target
            { seatStatus := some .occupied
              occupantUserId := some (some userId)
              reservedForUserId := some none }] })

def switchSeat (base : SeatStageSnapshot) (ownerId userId : UserId) (toSeatIndex : Nat) :
    Planned :=
  match base.seatOf userId with
  | none => .error .notOnSeat
  | some source =>
      if source.seatIndex = toSeatIndex then .error .switchInvalid
      else
        match base.requireSeat toSeatIndex with
        | .error error => .error error
        | .ok target =>
            match assertClaimable target userId ownerId with
            | .error error => .error error
            | .ok () => base.applyMove userId source.seatIndex toSeatIndex

def transferSeat (base : SeatStageSnapshot) (userId : UserId) (toSeatIndex : Nat)
    (fromSeatIndex : Option Nat) (force : Bool) : Planned :=
  match base.seatOf userId with
  | none => .error .transferInvalid
  | some source =>
      if fromSeatIndex.isSome ∧ fromSeatIndex ≠ some source.seatIndex then .error .transferInvalid
      else
        match base.requireSeat toSeatIndex with
        | .error error => .error error
        | .ok target =>
            if target.isLocked ∨ target.status = .locked then .error .locked
            else if target.status = .occupied ∧ !force then .error .taken
            else if target.status = .reserved ∧ target.reservedForUserId ≠ some userId ∧ !force then
              .error .reserved
            else base.applyMove userId source.seatIndex toSeatIndex

def reserve (base : SeatStageSnapshot) (seatIndex : Nat) (forUserId : UserId) : Planned :=
  match base.requireSeat seatIndex with
  | .error error => .error error
  | .ok seat =>
      if seat.isLocked ∨ seat.status = .locked then .error .locked
      else if seat.status = .occupied then .error .taken
      else if seat.status = .reserved then .error .reserved
      else
        base.applyTo seatIndex
          (fun seat => { seat with status := .reserved, reservedForUserId := some forUserId })
          { seatStatus := some .reserved, reservedForUserId := some (some forUserId) }

def release (base : SeatStageSnapshot) (seatIndex : Nat) : Planned :=
  base.applyTo seatIndex (fun seat => { seat with status := .empty, reservedForUserId := none })
    { seatStatus := some .empty, reservedForUserId := some none }

def cancelReservation (base : SeatStageSnapshot) (seatIndex : Nat) : Planned :=
  match base.requireSeat seatIndex with
  | .error error => .error error
  | .ok seat => if seat.status ≠ .reserved then .error .invalidState else base.release seatIndex

def releaseExpired (base : SeatStageSnapshot) (seatIndex : Nat) : Planned :=
  match KeyedRows.find SeatEntrySnapshot.seatIndex seatIndex base.seats with
  | none => .ok none
  | some seat =>
      if seat.status ≠ .reserved ∨ seat.reservedForUserId = none then .ok none
      else base.release seatIndex

end SeatStageSnapshot

inductive SeatOperation where
  | takeSeat (userId : UserId) (seatIndex : Nat)
  | leaveSeat (userId : UserId)
  | lockSeats (seatIndexes : List Nat) (reason : Option String)
  | unlockSeats (seatIndexes : List Nat)
  | configureLayout (layout : SeatLayout)
  | switchSeat (userId : UserId) (toSeatIndex : Nat)
  | transferSeat (userId : UserId) (toSeatIndex : Nat) (fromSeatIndex : Option Nat) (force : Bool)
  | removeFromSeat (userId : UserId)
  | seatUser (userId : UserId) (seatIndex : Nat)
  | vacateUser (userId : UserId)
  | reserve (seatIndex : Nat) (forUserId : UserId)
  | cancelReservation (seatIndex : Nat)
  | releaseExpired (seatIndex : Nat)
  deriving DecidableEq, Repr

namespace SeatOperation

def maxSeats : Int := 20

/-- What is refused before the room's lock is taken. -/
def refused : SeatOperation → Option SeatError
  | .configureLayout layout =>
      if layout.hostSeatCount < 0 ∨ layout.guestSeatCount < 0 ∨ maxSeats < layout.total then
        some .layoutInvalid
      else none
  | .transferSeat _ toSeatIndex _ _ =>
      if isOwnerSeat toSeatIndex then some .typeForbidden else none
  | .reserve seatIndex _ => if isOwnerSeat seatIndex then some .typeForbidden else none
  | _ => none

def plan (ownerId : UserId) (base : SeatStageSnapshot) : SeatOperation → Planned
  | .takeSeat userId seatIndex => base.takeSeat ownerId userId seatIndex
  | .leaveSeat userId => base.leaveSeat userId
  | .lockSeats seatIndexes reason => base.lockSeats seatIndexes reason
  | .unlockSeats seatIndexes => base.unlockSeats seatIndexes
  | .configureLayout layout => base.configureLayout layout
  | .switchSeat userId toSeatIndex => base.switchSeat ownerId userId toSeatIndex
  | .transferSeat userId toSeatIndex fromSeatIndex force =>
      base.transferSeat userId toSeatIndex fromSeatIndex force
  | .removeFromSeat userId => base.removeFromSeat userId
  | .seatUser userId seatIndex => base.seatUser ownerId userId seatIndex
  | .vacateUser userId => base.vacateUser userId
  | .reserve seatIndex forUserId => base.reserve seatIndex forUserId
  | .cancelReservation seatIndex => base.cancelReservation seatIndex
  | .releaseExpired seatIndex => base.releaseExpired seatIndex

end SeatOperation

/-! ### One operation at a time -/

structure Room where
  ownerId : UserId
  table : SeatTable
  cache : Option SeatStageSnapshot := none
  deriving DecidableEq, Repr

inductive Event where
  | operate (operation : SeatOperation)
  | getStage
  /-- The snapshot runs out, or is cleared. -/
  | clear
  deriving DecidableEq, Repr

namespace Room

/-- What a read of the stage leaves behind. -/
def loaded (room : Room) : Room :=
  match room.cache with
  | some _ => room
  | none => { room with table := room.table.materialise, cache := some room.table.rebuild }

def stage (room : Room) : SeatStageSnapshot := room.cache.getD room.table.rebuild

/-- The writes of a plan, as far as they go. -/
def perform (room : Room) (plan : SeatPlan) : Room :=
  let first := room.table.writeAll plan.before
  if first.2 then
    { room with
      table := (first.1.writeAll plan.after).1
      cache := some (room.stage.commit plan) }
  else { room with table := first.1 }

def mutateStage (room : Room) (operation : SeatOperation) : Room :=
  match operation.plan room.ownerId room.stage with
  | .ok (some plan) => room.loaded.perform plan
  | _ => room.loaded

def step (room : Room) : Event → Room
  | .operate operation =>
      if operation.refused.isSome then room else room.mutateStage operation
  | .getStage => room.loaded
  | .clear => { room with cache := none }

end Room

end Soulzaa.VideoRooms.Stages
