/-
The snapshot of a video room's seats beside the table, one operation after another.

What a cold cache is filled with is what it held before, as long as each operation is faithful.
-/

import Soulzaa.Lib.Runs
import Soulzaa.VideoRooms.SeatOperations

namespace Soulzaa.VideoRooms.Stages

open Runs
open OrderedRows (Ordered)

/-! ### What is promised -/

structure Room.Projected (room : Room) : Prop where
  agrees : ∀ stage, room.cache = some stage → room.table.rebuild = { stage with version := 1 }
  cached : ∀ stage, room.cache = some stage → Tidy room.ownerId stage.seats
  rebuilt : Tidy room.ownerId room.table.rebuild.seats

def Room.Permits (room : Room) : Event → Prop
  | .operate operation => operation.Faithful room.stage
  | _ => True

instance (room : Room) (event : Event) : Decidable (room.Permits event) :=
  match event with
  | .operate operation => inferInstanceAs (Decidable (operation.Faithful room.stage))
  | .getStage | .clear => inferInstanceAs (Decidable True)

/-- A room as it is created, or one from before its seats were. -/
structure Room.Created (room : Room) : Prop where
  cold : room.cache = none
  seats : room.table.seats = [] ∨
    room.table.seats = (buildSeatLayout room.table.getSeatLayout).map SeatTable.freshSeat

/-! ### Runs -/

/-- No seat is taken, locked or held. -/
theorem tidy_fresh {ownerId : UserId} {table : SeatTable}
    (fresh : ∀ row ∈ table.seats, ∃ entry, row = SeatTable.freshSeat entry) :
    Tidy ownerId table.entries := by
  have each : ∀ seat ∈ table.entries, ∃ entry, seat = seatRowToEntry (SeatTable.freshSeat entry) := by
    intro seat member
    obtain ⟨row, inside, rfl⟩ := List.mem_map.mp member
    obtain ⟨entry, rfl⟩ := fresh row inside
    exact ⟨entry, rfl⟩
  constructor
  · intro seat member other _ user isUser _
    obtain ⟨entry, rfl⟩ := each seat member
    cases isUser
  · intro seat member
    obtain ⟨entry, rfl⟩ := each seat member
    exact ⟨iff_of_false nofun nofun, iff_of_false nofun nofun, iff_of_false nofun nofun⟩
  · intro seat member _ user isUser
    obtain ⟨entry, rfl⟩ := each seat member
    cases isUser

namespace Room

structure Synced (room : Room) : Prop where
  ordered : Ordered VideoRoomSeat.seatIndex room.table.seats
  tidy : Tidy room.ownerId room.table.entries
  shows : ∀ stage, room.cache = some stage → Settled room.ownerId room.table stage

variable {room : Room}

theorem settled_materialise {ownerId : UserId} {table : SeatTable}
    (ordered : Ordered VideoRoomSeat.seatIndex table.seats) (tidy : Tidy ownerId table.entries) :
    Settled ownerId table.materialise table.rebuild := by
  have layout : table.rebuild.layout = table.materialise.getSeatLayout := by
    unfold SeatTable.materialise
    split
    · rfl
    · rfl
  by_cases needs : table.NeedsLayout
  · obtain ⟨orderedCreated, finds⟩ :=
      SeatTable.createLayout_spec (buildSeatLayout table.getSeatLayout) ordered
    have materialised : table.materialise =
        table.createLayout (buildSeatLayout table.getSeatLayout) := if_pos needs
    have absent : ∀ seatIndex, table.find seatIndex = none := by
      intro seatIndex
      unfold SeatTable.find
      rw [needs.1]
      rfl
    refine ⟨materialised ▸ orderedCreated, ?_, layout, rfl, ?_⟩
    · rintro ⟨none_there, -, -⟩
      have first := finds 0
      have positive := needs.2.2
      rw [absent, SeatTable.find_buildSeatLayout, if_pos, ← materialised] at first
      · unfold SeatTable.find at first
        rw [none_there] at first
        cases first
      · unfold SeatLayout.total
        omega
    · show Tidy ownerId table.materialise.entries
      refine tidy_fresh fun row member => ?_
      rw [materialised] at member
      have found : (table.createLayout (buildSeatLayout table.getSeatLayout)).find row.seatIndex =
          some row := KeyedRows.find_of_mem orderedCreated.distinct member
      rw [finds, absent] at found
      obtain ⟨entry, -, isRow⟩ := Option.map_eq_some_iff.mp found
      exact ⟨entry, isRow.symm⟩
  · have same : table.materialise = table := if_neg needs
    refine ⟨by rw [same]; exact ordered, by rw [same]; exact needs, layout, rfl, ?_⟩
    show Tidy ownerId table.materialise.entries
    rw [same]
    exact tidy

theorem rebuild_of_settled {ownerId : UserId} {table : SeatTable} {stage : SeatStageSnapshot}
    (settled : Settled ownerId table stage) : table.rebuild = { stage with version := 1 } := by
  have same : table.materialise = table := if_neg settled.present
  unfold SeatTable.rebuild
  rw [same, settled.layout, settled.seats]
  rfl

theorem Synced.projected (synced : room.Synced) : room.Projected where
  agrees := fun _ cached => rebuild_of_settled (synced.shows _ cached)
  cached := fun stage cached => (synced.shows stage cached).tidy
  rebuilt := (settled_materialise synced.ordered synced.tidy).tidy

/-- After a read the cache shows the table. -/
theorem Synced.loaded (synced : room.Synced) : room.loaded.cache = some room.stage ∧
    Settled room.ownerId room.loaded.table room.stage := by
  unfold Room.loaded Room.stage
  cases cached : room.cache with
  | none => exact ⟨rfl, settled_materialise synced.ordered synced.tidy⟩
  | some stage => exact ⟨cached, synced.shows stage cached⟩

theorem synced_of_settled {table : SeatTable} {stage : SeatStageSnapshot}
    (settled : Settled room.ownerId table stage) :
    Synced { room with table := table, cache := some stage } where
  ordered := settled.ordered
  tidy := settled.seats ▸ settled.tidy
  shows := by
    rintro _ ⟨⟩
    exact settled

theorem Synced.synced_loaded (synced : room.Synced) : room.loaded.Synced := by
  obtain ⟨cached, settled⟩ := synced.loaded
  have same : room.loaded =
      { room with table := room.loaded.table, cache := some room.stage } := by
    rw [← cached]
    unfold Room.loaded
    split
    · rfl
    · rfl
  rw [same]
  exact synced_of_settled settled

theorem loaded_ownerId : room.loaded.ownerId = room.ownerId := by
  unfold Room.loaded
  split
  · rfl
  · rfl

/-- What an operation leaves whose plan is written whole. -/
theorem mutateStage_written {operation : SeatOperation} {plan : SeatPlan} {after : SeatTable}
    (synced : room.Synced) (isPlan : operation.plan room.ownerId room.stage = .ok (some plan))
    (written : Written room.loaded.table plan after) :
    room.mutateStage operation =
      { room with table := after, cache := some (room.stage.commit plan) } := by
  obtain ⟨middle, first, second⟩ := written
  have loadedStage : room.loaded.stage = room.stage := by
    have cached := synced.loaded.1
    unfold Room.stage at cached ⊢
    rw [cached]
    rfl
  have owner : room.loaded.ownerId = room.ownerId := loaded_ownerId
  unfold mutateStage perform
  rw [isPlan]
  dsimp only
  rw [first]
  dsimp only
  rw [if_pos rfl, second, loadedStage, owner]

theorem synced_step (synced : room.Synced) {event : Event} (permitted : room.Permits event) :
    (room.step event).Synced := by
  cases event with
  | operate operation =>
      rw [step]
      cases refused : operation.refused with
      | some error => exact synced
      | none =>
          show (room.mutateStage operation).Synced
          obtain ⟨cached, settled⟩ := synced.loaded
          cases isPlan : operation.plan room.ownerId room.stage with
          | error error =>
              unfold mutateStage
              rw [isPlan]
              exact synced.synced_loaded
          | ok outcome =>
              cases outcome with
              | none =>
                  unfold mutateStage
                  rw [isPlan]
                  exact synced.synced_loaded
              | some plan =>
                  rcases settles_or_refused settled refused permitted isPlan with
                    ⟨after, written, settles⟩ | ⟨first, rest, isBefore, refuses⟩
                  · rw [mutateStage_written synced isPlan written]
                    exact synced_of_settled settles
                  · have unchanged : room.mutateStage operation = room.loaded := by
                      unfold mutateStage perform
                      rw [isPlan]
                      dsimp only
                      rw [isBefore, SeatTable.writeAll_refused refuses]
                      rfl
                    rw [unchanged]
                    exact synced.synced_loaded
  | getStage => exact synced.synced_loaded
  | clear => exact ⟨synced.ordered, synced.tidy, nofun⟩

/-- A snapshot that a plan has made differ from the table. -/
theorem not_projected_of_differs {plan : SeatPlan} {after : SeatTable}
    (present : ¬after.NeedsLayout) (differs : after.entries ≠ plan.seats) :
    ¬Projected { room with table := after, cache := some (room.stage.commit plan) } := by
  intro projected
  have agrees := projected.agrees _ rfl
  have same : after.materialise = after := if_neg present
  have seats := congrArg SeatStageSnapshot.seats agrees
  unfold SeatTable.rebuild at seats
  rw [same] at seats
  exact differs seats

/-- An operation that is not faithful leaves the table behind its snapshot. -/
theorem not_projected_step (synced : room.Synced) {operation : SeatOperation}
    (unfaithful : ¬operation.Faithful room.stage) :
    ¬(room.step (.operate operation)).Projected := by
  obtain ⟨-, settled⟩ := synced.loaded
  have differs : operation.refused = none ∧ ∃ plan after,
      operation.plan room.ownerId room.stage = .ok (some plan) ∧
        Written room.loaded.table plan after ∧ ¬after.NeedsLayout ∧ after.entries ≠ plan.seats := by
    cases operation with
    | lockSeats indexes reason =>
        obtain rfl : reason = some "" := by
          by_contra other
          exact unfaithful fun isEmpty => absurd isEmpty other
        obtain ⟨plan, after, isPlan, written, differs⟩ := differs_lockSeats settled unfaithful
        exact ⟨rfl, plan, after, isPlan, written, differs.1, differs.2⟩
    | transferSeat userId target fromSeatIndex force =>
        obtain ⟨notOwner, plan, after, isPlan, written, differs⟩ :=
          differs_transferSeat settled unfaithful
        refine ⟨?_, plan, after, isPlan, written, differs.1, differs.2⟩
        rw [SeatOperation.refused, notOwner]
        rfl
    | _ => exact absurd trivial unfaithful
  obtain ⟨accepted, plan, after, isPlan, written, present, differs⟩ := differs
  rw [step, accepted]
  show ¬(room.mutateStage operation).Projected
  rw [mutateStage_written synced isPlan written]
  exact not_projected_of_differs present differs

theorem Created.synced (created : room.Created) : room.Synced := by
  have fresh : ∀ row ∈ room.table.seats, ∃ entry, row = SeatTable.freshSeat entry := by
    intro row member
    rcases created.seats with none_there | isLayout
    · rw [none_there] at member
      cases member
    · rw [isLayout] at member
      obtain ⟨entry, -, rfl⟩ := List.mem_map.mp member
      exact ⟨entry, rfl⟩
  refine ⟨?_, tidy_fresh fresh, ?_⟩
  · rcases created.seats with none_there | isLayout
    · rw [none_there]
      exact List.Pairwise.nil
    · rw [isLayout]
      unfold Ordered
      rw [List.pairwise_map]
      exact ordered_buildSeatLayout _
  · rw [created.cold]
    exact nofun

/-- The snapshot is a projection of the table throughout a run exactly when no operation of it is
a lock for the empty reason or a transfer of a user to his own seat. -/
theorem projected_iff_permits (room : Room) (created : room.Created) (events : List Event) :
    Always Room.step Room.Projected room events ↔ Each Room.step Room.Permits room events := by
  refine always_iff_each Synced ?_ ?_ room created.synced created.synced.projected events
  · exact fun _ _ synced _ permitted => synced_step synced permitted
  · intro room event synced _
    constructor
    · intro projected
      cases event with
      | operate operation =>
          by_contra unfaithful
          exact not_projected_step synced unfaithful projected
      | getStage => exact trivial
      | clear => exact trivial
    · intro permitted
      exact (synced_step synced permitted).projected

end Room

/-- A room of an owner's seat and two more. -/
def smallRoom : Room where
  ownerId := "anna"
  table :=
    { settings := some { hostSeatCount := 2 }
      seats := [⟨0, .owner, .empty, none, none, false, false, false, {}⟩,
        ⟨1, .host, .empty, none, none, false, false, false, {}⟩,
        ⟨2, .host, .empty, none, none, false, false, false, {}⟩] }

theorem created_smallRoom : smallRoom.Created where
  cold := rfl
  seats := .inr (by decide)

def busyEvening : List Event :=
  [.operate (.takeSeat "anna" 0), .operate (.reserve 1 "bert"), .operate (.takeSeat "bert" 1), .clear,
    .operate (.lockSeats [2, 2] (some "maintenance")), .getStage,
    .operate (.configureLayout ⟨0, 4⟩), .operate (.unlockSeats [2]),
    .operate (.transferSeat "bert" 4 none true), .operate (.switchSeat "bert" 2),
    .operate (.vacateUser "bert"), .operate (.reserve 3 "carl"), .operate (.releaseExpired 3)]

theorem projected_busyEvening :
    Always Room.step Room.Projected smallRoom busyEvening ∧
      (run Room.step smallRoom busyEvening).cache.map SeatStageSnapshot.version = some 9 :=
  ⟨(Room.projected_iff_permits smallRoom created_smallRoom busyEvening).mpr (by decide +kernel),
    by decide +kernel⟩

def toOwnSeat : List Event :=
  [.operate (.takeSeat "bert" 1), .operate (.transferSeat "bert" 1 none true)]

def emptyReason : List Event := [.operate (.lockSeats [1] (some ""))]

/-- Bert is on seat 1 in the table and nowhere in the snapshot; a lock's reason is lost. -/
theorem not_projected_toOwnSeat :
    ¬(run Room.step smallRoom toOwnSeat).Projected ∧
      ¬(run Room.step smallRoom emptyReason).Projected := by
  constructor
  · intro projected
    have agrees := projected.agrees _ (Option.some_get (by decide +kernel)).symm
    revert agrees
    decide +kernel
  · intro projected
    have agrees := projected.agrees _ (Option.some_get (by decide +kernel)).symm
    revert agrees
    decide +kernel

end Soulzaa.VideoRooms.Stages
