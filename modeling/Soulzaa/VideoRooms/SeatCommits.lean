/-
Operations on a video room's seats beside reads that rebuild the stage.

An operation holds the room's lock, writes the snapshot and then the rows.  A read takes no lock,
and what it rebuilds it writes to the cache.  Each statement is a step, and a call may stop at any.
-/

import Soulzaa.VideoRooms.SeatProjection

namespace Soulzaa.VideoRooms.Stages

open Runs
open OrderedRows (Ordered)

/-- Who has the stage rebuilt. -/
inductive Reader where
  | getStage
  | operation (operation : SeatOperation)
  deriving DecidableEq, Repr

inductive Call where
  /-- Waiting for the room's lock. -/
  | awaiting (operation : SeatOperation)
  | loading (operation : SeatOperation)
  | viewing
  | asking (reader : Reader)
  | knowsLayout (reader : Reader) (layout : SeatLayout) (declared : Bool)
  | knowsSeats (reader : Reader) (seats : List VideoRoomSeat)
  | creating (reader : Reader) (layout : SeatLayout)
  | relisting (reader : Reader) (layout : SeatLayout)
  | caching (reader : Reader) (stage : SeatStageSnapshot)
  | writing (base : SeatStageSnapshot) (plan : SeatPlan) (begun : Bool) (rest : List SeatWrite)
  | finishing (first : SeatWrite) (rest : List SeatWrite)
  | ended

structure World where
  ownerId : UserId
  table : SeatTable
  cache : Option SeatStageSnapshot := none
  calls : List Call := []
  /-- The versions that clients have been shown, the latest first. -/
  seen : List Nat := []

inductive Happening where
  | operate (operation : SeatOperation)
  | getStage
  /-- A call goes on; a rebuild's two reads may be answered in either order. -/
  | goOn (position : Nat) (layoutFirst : Bool)
  /-- Something is thrown, or the process stops. -/
  | stop (position : Nat)
  | clear

/-! ### One step of a call -/

def Reader.holds : Reader → Bool
  | .getStage => false
  | .operation _ => true

namespace Call

/-- The call holds the room's lock. -/
def holds : Call → Bool
  | .loading _ => true
  | .asking reader | .knowsLayout reader _ _ | .knowsSeats reader _ | .creating reader _
  | .relisting reader _ | .caching reader _ => reader.holds
  | .writing _ _ _ _ => true
  | .finishing _ _ => true
  | .awaiting _ | .viewing | .ended => false

/-- The call has written something, and has more to write. -/
def midway : Call → Bool
  | .writing _ _ begun _ => begun
  | .finishing _ _ => true
  | _ => false

structure Turn where
  table : SeatTable
  cache : Option SeatStageSnapshot
  call : Call
  seen : Option Nat := none

def planned (ownerId : UserId) (base : SeatStageSnapshot) (operation : SeatOperation) : Call :=
  match operation.plan ownerId base with
  | .ok (some plan) => .writing base plan false plan.before
  | _ => .ended

def rebuilding (reader : Reader) (layout : SeatLayout) (declared : Bool)
    (seats : List VideoRoomSeat) : Call :=
  if seats = [] ∧ declared ∧ 0 < layout.hostSeatCount + layout.guestSeatCount then
    .creating reader layout
  else .caching reader { version := 1, layout := layout, seats := seats.map seatRowToEntry }

def finish : List SeatWrite → Call
  | [] => .ended
  | first :: rest => .finishing first rest

def goOn (ownerId : UserId) (table : SeatTable) (cache : Option SeatStageSnapshot) (free : Bool)
    (layoutFirst : Bool) : Call → Turn
  | .awaiting operation =>
      { table := table
        cache := cache
        call := if free then .loading operation else .awaiting operation }
  | .loading operation =>
      match cache with
      | none => { table := table, cache := cache, call := .asking (.operation operation) }
      | some stage => { table := table, cache := cache, call := planned ownerId stage operation }
  | .viewing =>
      match cache with
      | none => { table := table, cache := cache, call := .asking .getStage }
      | some stage => { table := table, cache := cache, call := .ended, seen := some stage.version }
  | .asking reader =>
      if layoutFirst then
        { table := table
          cache := cache
          call := .knowsLayout reader table.getSeatLayout table.settings.isSome }
      else { table := table, cache := cache, call := .knowsSeats reader table.seats }
  | .knowsLayout reader layout declared =>
      { table := table, cache := cache, call := rebuilding reader layout declared table.seats }
  | .knowsSeats reader seats =>
      { table := table
        cache := cache
        call := rebuilding reader table.getSeatLayout table.settings.isSome seats }
  | .creating reader layout =>
      { table := table.createLayout (buildSeatLayout layout)
        cache := cache
        call := .relisting reader layout }
  | .relisting reader layout =>
      { table := table
        cache := cache
        call := .caching reader { version := 1, layout := layout, seats := table.entries } }
  | .caching .getStage stage =>
      { table := table, cache := some stage, call := .ended, seen := some stage.version }
  | .caching (.operation operation) stage =>
      { table := table, cache := some stage, call := planned ownerId stage operation }
  | .writing base plan _ [] =>
      { table := table
        cache := some (base.commit plan)
        call := finish plan.after
        seen := some (base.commit plan).version }
  | .writing base plan _ (first :: rest) =>
      match table.write first with
      | none => { table := table, cache := cache, call := .ended }
      | some written => { table := written, cache := cache, call := .writing base plan true rest }
  | .finishing first rest =>
      match table.write first with
      | none => { table := table, cache := cache, call := .ended }
      | some written => { table := written, cache := cache, call := finish rest }
  | .ended => { table := table, cache := cache, call := .ended }

end Call

namespace World

def free (world : World) : Bool := world.calls.all fun call => !call.holds

def spawn (world : World) (call : Call) : World := { world with calls := world.calls ++ [call] }

def take (world : World) (position : Nat) (turn : Call.Turn) : World :=
  { world with
    table := turn.table
    cache := turn.cache
    calls := world.calls.set position turn.call
    seen := turn.seen.toList ++ world.seen }

def step (world : World) : Happening → World
  | .operate operation =>
      if operation.refused.isSome then world else world.spawn (.awaiting operation)
  | .getStage => world.spawn .viewing
  | .goOn position layoutFirst =>
      match world.calls[position]? with
      | none => world
      | some call =>
          world.take position
            (call.goOn world.ownerId world.table world.cache world.free layoutFirst)
  | .stop position => { world with calls := world.calls.set position .ended }
  | .clear => { world with cache := none }

/-! ### What is promised -/

structure Coherent (world : World) : Prop where
  agrees : (∀ call ∈ world.calls, call.holds = false) → ∀ stage, world.cache = some stage →
    world.table.rebuild = { stage with version := 1 }
  monotone : world.seen.Pairwise (· ≥ ·)

def Still (world : World) : Prop := ∀ call ∈ world.calls, call.midway = false

instance (world : World) : Decidable world.Still :=
  inferInstanceAs (Decidable (∀ call ∈ world.calls, call.midway = false))

/-- Rows that a rebuild creates are those that the room's layout still lacks, and the stage that it
caches is the table's, with no operation midway and no later version shown. -/
def PermitsCall (world : World) : Call → Prop
  | .creating _ layout =>
      world.Still ∧ world.table.createLayout (buildSeatLayout layout) = world.table.materialise
  | .caching reader stage =>
      world.Still ∧ ¬world.table.NeedsLayout ∧ world.table.rebuild = stage ∧
        (∀ version ∈ world.seen, version ≤ 1) ∧
          match reader with
          | .getStage => True
          | .operation operation => operation.Faithful stage
  | .loading operation => ∀ stage ∈ world.cache, operation.Faithful stage
  | _ => True

def Permits (world : World) : Happening → Prop
  | .goOn position _ => ∀ call ∈ world.calls[position]?, world.PermitsCall call
  | .stop position => ∀ call ∈ world.calls[position]?, call.midway = false
  | _ => True

instance (world : World) (call : Call) : Decidable (world.PermitsCall call) :=
  match call with
  | .creating _ _ => inferInstanceAs (Decidable (_ ∧ _ = _))
  | .caching .getStage _ => inferInstanceAs (Decidable (_ ∧ _ ∧ _ ∧ _ ∧ True))
  | .caching (.operation operation) stage =>
      inferInstanceAs (Decidable (_ ∧ _ ∧ _ ∧ _ ∧ operation.Faithful stage))
  | .loading operation => inferInstanceAs (Decidable (∀ stage ∈ world.cache, operation.Faithful stage))
  | .awaiting _ | .viewing | .asking _ | .knowsLayout _ _ _ | .knowsSeats _ _ | .relisting _ _
  | .writing _ _ _ _ | .finishing _ _ | .ended => inferInstanceAs (Decidable True)

instance (world : World) (happening : Happening) : Decidable (world.Permits happening) :=
  match happening with
  | .goOn _ _ => inferInstanceAs (Decidable (∀ call ∈ _, world.PermitsCall call))
  | .stop _ => inferInstanceAs (Decidable (∀ call ∈ _, Call.midway call = false))
  | .operate _ | .getStage | .clear => inferInstanceAs (Decidable True)

/-- A room as it is created, and nobody at work on it. -/
structure Created (world : World) : Prop where
  cold : world.cache = none
  seats : world.table.seats = [] ∨
    world.table.seats = (buildSeatLayout world.table.getSeatLayout).map SeatTable.freshSeat
  idle : world.calls = [] ∧ world.seen = []

end World

/-! ### Calls side by side -/

/-- What is owed to a call that has begun to write, and what one relies on that has not. -/
def Call.Asserts (ownerId : UserId) (table : SeatTable) (cache : Option SeatStageSnapshot)
    (seen : List Nat) : Call → Prop
  | .writing base plan begun rest =>
      (if begun then
        ∃ middle after, table.writeAll rest = (middle, true) ∧
          middle.writeAll plan.after = (after, true) ∧ Settled ownerId after (base.commit plan)
      else
        rest = plan.before ∧ Settled ownerId table base ∧ (Settles ownerId table base plan ∨
          ∃ first more, plan.before = first :: more ∧ table.write first = none)) ∧
        1 ≤ base.version ∧ (∀ version ∈ seen, version ≤ base.version) ∧
          ∀ stage, cache = some stage → stage.version ≤ base.version
  | .finishing first rest =>
      ∃ after stage, table.writeAll (first :: rest) = (after, true) ∧
        Settled ownerId after stage ∧ ∀ cached, cache = some cached → cached = stage
  | _ => True

/-- An operation that is under way was not refused before its lock. -/
def Reader.Accepted : Reader → Prop
  | .getStage => True
  | .operation accepted => accepted.refused = none

def Call.Accepted : Call → Prop
  | .awaiting operation | .loading operation => operation.refused = none
  | .asking reader | .knowsLayout reader _ _ | .knowsSeats reader _ | .creating reader _
  | .relisting reader _ | .caching reader _ => reader.Accepted
  | _ => True

/-- A table that the cache shows. -/
structure Steady (ownerId : UserId) (table : SeatTable) (cache : Option SeatStageSnapshot) : Prop
    where
  ordered : Ordered VideoRoomSeat.seatIndex table.seats
  tidy : Tidy ownerId table.entries
  shows : ∀ stage, cache = some stage → Settled ownerId table stage

section Calls

variable {ownerId : UserId} {table : SeatTable} {cache : Option SeatStageSnapshot}
  {seen : List Nat} {call : Call}

theorem Settled.steady {stage : SeatStageSnapshot} (settled : Settled ownerId table stage)
    (shows : ∀ cached, cache = some cached → cached = stage) : Steady ownerId table cache where
  ordered := settled.ordered
  tidy := settled.seats ▸ settled.tidy
  shows := fun cached isCached => shows cached isCached ▸ settled

theorem Call.holds_of_midway (midway : call.midway = true) : call.holds = true := by
  cases call with
  | writing base plan begun rest => rfl
  | finishing first rest => rfl
  | _ => cases midway

theorem Call.asserts_of_idle (idle : call.holds = false) :
    call.Asserts ownerId table cache seen := by
  cases call with
  | writing base plan begun rest => cases idle
  | finishing first rest => cases idle
  | _ => exact trivial

/-- An operation begins with what it has found in the cache. -/
theorem asserts_planned {base : SeatStageSnapshot} {operation : SeatOperation}
    (settled : Settled ownerId table base) (accepted : operation.refused = none)
    (faithful : operation.Faithful base) (positive : 1 ≤ base.version)
    (shown : ∀ version ∈ seen, version ≤ base.version)
    (cached : ∀ stage, cache = some stage → stage.version ≤ base.version) :
    (Call.planned ownerId base operation).Asserts ownerId table cache seen ∧
      (Call.planned ownerId base operation).midway = false ∧
        (Call.planned ownerId base operation).Accepted := by
  unfold Call.planned
  split
  · rename_i plan isPlan
    refine ⟨⟨?_, positive, shown, cached⟩, rfl, trivial⟩
    rw [if_neg nofun]
    exact ⟨rfl, settled, settles_or_refused settled accepted faithful isPlan⟩
  · exact ⟨trivial, rfl, trivial⟩

theorem asserts_finish {after : SeatTable} {stage : SeatStageSnapshot} {rest : List SeatWrite}
    (writes : table.writeAll rest = (after, true)) (settled : Settled ownerId after stage)
    (shows : ∀ cached, cache = some cached → cached = stage) :
    (Call.finish rest).Asserts ownerId table cache seen ∧ (Call.finish rest).Accepted ∧
      ((Call.finish rest).midway = false → Steady ownerId table cache) := by
  cases rest with
  | nil =>
      obtain rfl : table = after := (Prod.mk.inj writes).1
      exact ⟨trivial, trivial, fun _ => settled.steady shows⟩
  | cons first others => exact ⟨⟨after, stage, writes, settled, shows⟩, trivial, nofun⟩

theorem rebuilding_spec (reader : Reader) (layout : SeatLayout) (declared : Bool)
    (seats : List VideoRoomSeat) :
    (Call.rebuilding reader layout declared seats).holds = reader.holds ∧
      (Call.rebuilding reader layout declared seats).Asserts ownerId table cache seen ∧
        (reader.Accepted → (Call.rebuilding reader layout declared seats).Accepted) := by
  unfold Call.rebuilding
  split
  · exact ⟨rfl, trivial, id⟩
  · exact ⟨rfl, trivial, id⟩

theorem write_of_writeAll {first : SeatWrite} {rest : List SeatWrite} {after : SeatTable}
    (writes : table.writeAll (first :: rest) = (after, true)) :
    ∃ written, table.write first = some written ∧ written.writeAll rest = (after, true) := by
  rw [SeatTable.writeAll] at writes
  split at writes
  · cases (Prod.mk.inj writes).2
  · rename_i written isWritten
    exact ⟨written, isWritten, writes⟩

end Calls

namespace World

structure Orderly (world : World) : Prop where
  apart : ∀ (first second : Nat) (one two : Call), world.calls[first]? = some one →
    world.calls[second]? = some two → first ≠ second → one.holds = true → two.holds = false
  steady : world.Still → Steady world.ownerId world.table world.cache
  asserts : ∀ call ∈ world.calls,
    call.Asserts world.ownerId world.table world.cache world.seen
  accepted : ∀ call ∈ world.calls, call.Accepted
  shown : ∀ stage, world.cache = some stage →
    1 ≤ stage.version ∧ ∀ version ∈ world.seen, version ≤ stage.version
  monotone : world.seen.Pairwise (· ≥ ·)

variable {world : World}

theorem Orderly.coherent (orderly : world.Orderly) : world.Coherent where
  agrees := by
    intro idle stage cached
    refine Room.rebuild_of_settled ((orderly.steady ?_).shows stage cached)
    intro call member
    refine Bool.eq_false_of_not_eq_true fun midway => ?_
    exact nomatch (Call.holds_of_midway midway).symm.trans (idle call member)
  monotone := orderly.monotone

theorem Orderly.spawn (orderly : world.Orderly) {call : Call} (idle : call.holds = false)
    (accepted : call.Accepted) : (world.spawn call).Orderly where
  apart := by
    intro first second one two foundOne foundTwo different holds
    have inside : ∀ (place : Nat) (other : Call), (world.spawn call).calls[place]? = some other →
        other.holds = true → world.calls[place]? = some other := by
      intro place other found isHeld
      replace found : (world.calls ++ [call])[place]? = some other := found
      rw [List.getElem?_append] at found
      split at found
      · exact found
      · rw [List.mem_singleton.mp (List.mem_of_getElem? found), idle] at isHeld
        cases isHeld
    refine Bool.eq_false_of_not_eq_true fun alsoHolds => ?_
    have apart := orderly.apart first second one two (inside first one foundOne holds)
      (inside second two foundTwo alsoHolds) different holds
    rw [alsoHolds] at apart
    cases apart
  steady := fun still => orderly.steady fun other member =>
    still other (List.mem_append_left [call] member)
  asserts := by
    intro other member
    rcases List.mem_append.mp member with older | isNew
    · exact orderly.asserts other older
    · rw [List.mem_singleton.mp isNew]
      exact Call.asserts_of_idle idle
  accepted := by
    intro other member
    rcases List.mem_append.mp member with older | isNew
    · exact orderly.accepted other older
    · rw [List.mem_singleton.mp isNew]
      exact accepted
  shown := orderly.shown
  monotone := orderly.monotone

/-- One call goes on. -/
theorem Orderly.take (orderly : world.Orderly) {position : Nat} {call : Call} {turn : Call.Turn}
    (found : world.calls[position]? = some call)
    (locks : turn.call.holds = true → call.holds = true ∨ world.free = true)
    (steady : turn.call.midway = false → (call.midway = false → world.Still) →
      Steady world.ownerId turn.table turn.cache)
    (own : turn.call.Asserts world.ownerId turn.table turn.cache
      (turn.seen.toList ++ world.seen))
    (accepted : turn.call.Accepted)
    (others : call.holds = false → ∀ other ∈ world.calls,
      other.Asserts world.ownerId world.table world.cache world.seen →
        other.Asserts world.ownerId turn.table turn.cache (turn.seen.toList ++ world.seen))
    (shown : ∀ stage, turn.cache = some stage → 1 ≤ stage.version ∧
      ∀ version ∈ turn.seen.toList ++ world.seen, version ≤ stage.version)
    (monotone : (turn.seen.toList ++ world.seen).Pairwise (· ≥ ·)) :
    (world.take position turn).Orderly := by
  have written : ∀ (place : Nat) (other : Call),
      (world.calls.set position turn.call)[place]? = some other →
        (place = position ∧ other = turn.call) ∨
          (place ≠ position ∧ world.calls[place]? = some other) := by
    intro place other foundOther
    rw [List.getElem?_set] at foundOther
    split at foundOther
    · rename_i same
      split at foundOther
      · exact .inl ⟨same.symm, (Option.some.inj foundOther).symm⟩
      · cases foundOther
    · rename_i different
      exact .inr ⟨fun same => different same.symm, foundOther⟩
  have idle : turn.call.holds = true → ∀ (place : Nat) (other : Call), place ≠ position →
      world.calls[place]? = some other → other.holds = false := by
    intro holds place other elsewhere foundOther
    rcases locks holds with held | free
    · exact orderly.apart position place call other found foundOther elsewhere.symm held
    · have notHeld := List.all_eq_true.mp free other (List.mem_of_getElem? foundOther)
      exact (Bool.not_eq_true' _).mp notHeld
  refine ⟨?_, ?_, ?_, ?_, shown, monotone⟩
  · intro first second one two foundOne foundTwo different holds
    rcases written first one foundOne with ⟨atFirst, rfl⟩ | ⟨elsewhere, wasOne⟩
    · rcases written second two foundTwo with ⟨atSecond, -⟩ | ⟨away, wasTwo⟩
      · exact absurd (atFirst.trans atSecond.symm) different
      · exact idle holds second two away wasTwo
    · rcases written second two foundTwo with ⟨-, rfl⟩ | ⟨away, wasTwo⟩
      · refine Bool.eq_false_of_not_eq_true fun alsoHolds => ?_
        have notHeld := idle alsoHolds first one elsewhere wasOne
        rw [holds] at notHeld
        cases notHeld
      · exact orderly.apart first second one two wasOne wasTwo different holds
  · intro still
    have inside : position < world.calls.length := (List.getElem?_eq_some_iff.mp found).1
    refine steady (still turn.call (List.mem_set inside turn.call)) fun ownStill => ?_
    intro other member
    obtain ⟨place, foundOther⟩ := List.getElem?_of_mem member
    by_cases same : place = position
    · rw [same, found] at foundOther
      rw [← Option.some.inj foundOther]
      exact ownStill
    · refine still other (List.mem_of_getElem? (i := place) ?_)
      show (world.calls.set position turn.call)[place]? = some other
      rw [List.getElem?_set_ne (Ne.symm same)]
      exact foundOther
  · intro other member
    obtain ⟨place, foundOther⟩ := List.getElem?_of_mem member
    rcases written place other foundOther with ⟨-, rfl⟩ | ⟨elsewhere, was⟩
    · exact own
    · cases holds : call.holds with
      | true =>
          exact Call.asserts_of_idle
            (orderly.apart position place call other found was elsewhere.symm holds)
      | false =>
          exact others holds other (List.mem_of_getElem? was)
            (orderly.asserts other (List.mem_of_getElem? was))
  · intro other member
    rcases List.mem_or_eq_of_mem_set member with older | rfl
    · exact orderly.accepted other older
    · exact accepted

/-- A call that leaves the rows and the cache alone. -/
theorem Orderly.quiet (orderly : world.Orderly) {position : Nat} {call next : Call}
    (found : world.calls[position]? = some call) (still : call.midway = false)
    (locks : next.holds = true → call.holds = true ∨ world.free = true)
    (own : next.Asserts world.ownerId world.table world.cache world.seen)
    (accepted : next.Accepted) :
    (world.take position { table := world.table, cache := world.cache, call := next }).Orderly :=
  orderly.take found locks (fun _ isStill => orderly.steady (isStill still)) own accepted
    (fun _ _ _ => id) orderly.shown orderly.monotone

/-- Who holds the lock and has written nothing is not beside one that has. -/
theorem Orderly.still_of_holds (orderly : world.Orderly) {position : Nat} {call : Call}
    (found : world.calls[position]? = some call) (holds : call.holds = true)
    (still : call.midway = false) : world.Still := by
  intro other member
  obtain ⟨place, foundOther⟩ := List.getElem?_of_mem member
  by_cases same : place = position
  · rw [same, found] at foundOther
    rw [← Option.some.inj foundOther]
    exact still
  · refine Bool.eq_false_of_not_eq_true fun midway => ?_
    have notHeld := orderly.apart position place call other found foundOther (Ne.symm same) holds
    exact nomatch (Call.holds_of_midway midway).symm.trans notHeld

/-- An operation goes on with what it has found. -/
theorem Orderly.loading (orderly : world.Orderly) {position : Nat} {operation : SeatOperation}
    (found : world.calls[position]? = some (.loading operation)) {stage : SeatStageSnapshot}
    (cached : world.cache = some stage) (faithful : operation.Faithful stage) :
    (world.take position
      { table := world.table
        cache := world.cache
        call := Call.planned world.ownerId stage operation }).Orderly := by
  have settled := (orderly.steady (orderly.still_of_holds found rfl rfl)).shows stage cached
  obtain ⟨positive, shown⟩ := orderly.shown stage cached
  have bounded : ∀ other, world.cache = some other → other.version ≤ stage.version := by
    intro other isOther
    rw [cached] at isOther
    rw [Option.some.inj isOther]
  obtain ⟨own, -, accepted⟩ := asserts_planned settled
    (orderly.accepted _ (List.mem_of_getElem? found)) faithful positive shown bounded
  exact orderly.quiet found rfl (fun _ => .inl rfl) own accepted

/-- A client sees the cached stage. -/
theorem Orderly.viewing (orderly : world.Orderly) {position : Nat}
    (found : world.calls[position]? = some .viewing) {stage : SeatStageSnapshot}
    (cached : world.cache = some stage) :
    (world.take position
      { table := world.table
        cache := world.cache
        call := .ended
        seen := some stage.version }).Orderly := by
  obtain ⟨positive, shown⟩ := orderly.shown stage cached
  refine orderly.take found nofun (fun _ isStill => orderly.steady (isStill rfl)) trivial trivial ?_
    ?_ (List.pairwise_cons.mpr ⟨shown, orderly.monotone⟩)
  · intro _ other _ asserts
    cases other with
    | writing base plan begun rest =>
        obtain ⟨owed, basePositive, seen, bounded⟩ := asserts
        exact ⟨owed, basePositive, List.forall_mem_cons.mpr ⟨bounded stage cached, seen⟩, bounded⟩
    | finishing first rest => exact asserts
    | _ => exact trivial
  · intro other isOther
    replace isOther : world.cache = some other := isOther
    rw [cached] at isOther
    rw [← Option.some.inj isOther]
    exact ⟨positive, List.forall_mem_cons.mpr ⟨le_refl _, shown⟩⟩

/-- A rebuild creates the rows that the layout still lacks. -/
theorem Orderly.creating (orderly : world.Orderly) {position : Nat} {reader : Reader}
    {layout : SeatLayout} (found : world.calls[position]? = some (.creating reader layout))
    (still : world.Still) :
    (world.take position
      { table := world.table.materialise
        cache := world.cache
        call := .relisting reader layout }).Orderly := by
  have steady := orderly.steady still
  have created := Room.settled_materialise steady.ordered steady.tidy
  have unchanged : ∀ stage, Settled world.ownerId world.table stage →
      world.table.materialise = world.table := fun stage settled => if_neg settled.present
  have accepted := orderly.accepted _ (List.mem_of_getElem? found)
  refine orderly.take found (fun holds => .inl holds) ?_ trivial accepted ?_ orderly.shown
    orderly.monotone
  · intro _ _
    refine ⟨created.ordered, created.seats ▸ created.tidy, ?_⟩
    intro stage cached
    have settled := steady.shows stage cached
    show Settled world.ownerId world.table.materialise stage
    rw [unchanged stage settled]
    exact settled
  · intro _ other member asserts
    cases other with
    | writing base plan begun rest =>
        obtain rfl : begun = false := still _ member
        obtain ⟨-, settled, -⟩ := asserts.1
        show Call.Asserts world.ownerId world.table.materialise _ _ _
        rw [unchanged base settled]
        exact asserts
    | finishing first rest => exact nomatch still _ member
    | _ => exact trivial

/-- A rebuild writes the table's stage to the cache. -/
theorem Orderly.caching (orderly : world.Orderly) {position : Nat} {reader : Reader}
    {stage : SeatStageSnapshot}
    (found : world.calls[position]? = some (.caching reader stage)) (still : world.Still)
    (settled : Settled world.ownerId world.table stage) (first : stage.version = 1)
    (shown : ∀ version ∈ world.seen, version ≤ 1) {next : Call} (seen : Option Nat)
    (isSeen : ∀ version ∈ seen, version = 1) (locks : next.holds = true → reader.holds = true)
    (own : next.Asserts world.ownerId world.table (some stage) (seen.toList ++ world.seen))
    (accepted : next.Accepted) :
    (world.take position
      { table := world.table, cache := some stage, call := next, seen := seen }).Orderly := by
  have all : ∀ version ∈ seen.toList ++ world.seen, version ≤ 1 := by
    intro version member
    rcases List.mem_append.mp member with isNew | older
    · exact (isSeen version (Option.mem_toList.mp isNew)).le
    · exact shown version older
  refine orderly.take found (fun holds => .inl (locks holds)) ?_ own accepted ?_ ?_ ?_
  · exact fun _ _ => settled.steady fun _ isCached => (Option.some.inj isCached).symm
  · intro _ other member asserts
    cases other with
    | writing base plan begun rest =>
        obtain rfl : begun = false := still _ member
        obtain ⟨owed, positive, -, -⟩ := asserts
        refine ⟨owed, positive, fun version isVersion => (all version isVersion).trans positive, ?_⟩
        intro cached isCached
        rw [← Option.some.inj isCached, first]
        exact positive
    | finishing first rest => exact nomatch still _ member
    | _ => exact trivial
  · intro cached isCached
    rw [← Option.some.inj isCached, first]
    exact ⟨le_refl 1, all⟩
  · refine List.pairwise_append.mpr ⟨?_, orderly.monotone, ?_⟩
    · cases seen with
      | none => exact List.Pairwise.nil
      | some version => exact List.pairwise_singleton _ version
    · intro version isNew older member
      rw [isSeen version (Option.mem_toList.mp isNew)]
      exact shown older member

/-- The operation's snapshot goes to the cache. -/
theorem Orderly.committing (orderly : world.Orderly) {position : Nat} {base : SeatStageSnapshot}
    {plan : SeatPlan} {begun : Bool}
    (found : world.calls[position]? = some (.writing base plan begun [])) :
    (world.take position
      { table := world.table
        cache := some (base.commit plan)
        call := Call.finish plan.after
        seen := some (base.commit plan).version }).Orderly := by
  obtain ⟨owed, -, seen, -⟩ := orderly.asserts _ (List.mem_of_getElem? found)
  obtain ⟨after, writes, settled⟩ : ∃ after, world.table.writeAll plan.after = (after, true) ∧
      Settled world.ownerId after (base.commit plan) := by
    cases begun with
    | true =>
        obtain ⟨middle, after, first, writes, settled⟩ := owed
        obtain rfl : world.table = middle := (Prod.mk.inj first).1
        exact ⟨after, writes, settled⟩
    | false =>
        obtain ⟨isBefore, -, ⟨after, ⟨middle, first, writes⟩, settled⟩ | ⟨one, more, notEmpty, -⟩⟩ :=
          owed
        · rw [← isBefore] at first
          obtain rfl : world.table = middle := (Prod.mk.inj first).1
          exact ⟨after, writes, settled⟩
        · exact nomatch isBefore.trans notEmpty
  obtain ⟨own, accepted, steady⟩ := asserts_finish writes settled
    fun cached (isCached : some (base.commit plan) = some cached) => (Option.some.inj isCached).symm
  have older : ∀ version ∈ world.seen, version ≤ base.version + 1 :=
    fun version member => Nat.le_succ_of_le (seen version member)
  refine orderly.take found (fun _ => .inl rfl) (fun isStill _ => steady isStill) own accepted
    nofun ?_ (List.pairwise_cons.mpr ⟨older, orderly.monotone⟩)
  intro stage isCached
  rw [← Option.some.inj isCached]
  exact ⟨Nat.succ_pos base.version, List.forall_mem_cons.mpr ⟨le_refl _, older⟩⟩

/-- The operation's next statement before its snapshot. -/
theorem Orderly.writing (orderly : world.Orderly) {position : Nat} {base : SeatStageSnapshot}
    {plan : SeatPlan} {begun : Bool} {first : SeatWrite} {rest : List SeatWrite}
    (found : world.calls[position]? = some (.writing base plan begun (first :: rest)))
    (layoutFirst : Bool) :
    (world.take position ((Call.writing base plan begun (first :: rest)).goOn world.ownerId
      world.table world.cache world.free layoutFirst)).Orderly := by
  obtain ⟨owed, positive, seen, bounded⟩ := orderly.asserts _ (List.mem_of_getElem? found)
  have goes : (begun = false ∧ world.table.write first = none) ∨
      ∃ written middle after, world.table.write first = some written ∧
        written.writeAll rest = (middle, true) ∧ middle.writeAll plan.after = (after, true) ∧
          Settled world.ownerId after (base.commit plan) := by
    cases begun with
    | true =>
        obtain ⟨middle, after, writes, finishes, settled⟩ := owed
        obtain ⟨written, isWritten, others⟩ := write_of_writeAll writes
        exact .inr ⟨written, middle, after, isWritten, others, finishes, settled⟩
    | false =>
        obtain ⟨isBefore, -, ⟨after, ⟨middle, writes, finishes⟩, settled⟩ |
          ⟨one, more, isFirst, refuses⟩⟩ := owed
        · rw [← isBefore] at writes
          obtain ⟨written, isWritten, others⟩ := write_of_writeAll writes
          exact .inr ⟨written, middle, after, isWritten, others, finishes, settled⟩
        · obtain ⟨rfl, -⟩ := List.cons.inj (isBefore.trans isFirst)
          exact .inl ⟨rfl, refuses⟩
  rw [Call.goOn]
  rcases goes with ⟨rfl, refuses⟩ | ⟨written, middle, after, isWritten, others, finishes, settled⟩
  · rw [refuses]
    exact orderly.quiet found rfl nofun trivial trivial
  · rw [isWritten]
    exact orderly.take found (fun _ => .inl rfl) nofun
      ⟨⟨middle, after, others, finishes, settled⟩, positive, seen, bounded⟩ trivial nofun
      orderly.shown orderly.monotone

/-- The operation's next statement after its snapshot. -/
theorem Orderly.finishing (orderly : world.Orderly) {position : Nat} {first : SeatWrite}
    {rest : List SeatWrite} (found : world.calls[position]? = some (.finishing first rest))
    (layoutFirst : Bool) :
    (world.take position ((Call.finishing first rest).goOn world.ownerId world.table world.cache
      world.free layoutFirst)).Orderly := by
  obtain ⟨after, stage, writes, settled, shows⟩ :=
    orderly.asserts _ (List.mem_of_getElem? found)
  obtain ⟨written, isWritten, others⟩ := write_of_writeAll writes
  obtain ⟨own, accepted, steady⟩ := asserts_finish others settled shows
  rw [Call.goOn, isWritten]
  exact orderly.take found (fun _ => .inl rfl) (fun isStill _ => steady isStill) own accepted nofun
    orderly.shown orderly.monotone

theorem Orderly.goOn (orderly : world.Orderly) {position : Nat} {call : Call}
    (found : world.calls[position]? = some call) (permitted : world.PermitsCall call)
    (layoutFirst : Bool) :
    (world.take position
      (call.goOn world.ownerId world.table world.cache world.free layoutFirst)).Orderly := by
  have accepted := orderly.accepted call (List.mem_of_getElem? found)
  cases call with
  | awaiting operation =>
      rw [Call.goOn]
      split
      · rename_i free
        exact orderly.quiet found rfl (fun _ => .inr free) trivial accepted
      · exact orderly.quiet found rfl nofun trivial accepted
  | loading operation =>
      rw [Call.goOn.eq_def]
      dsimp only
      split
      · exact orderly.quiet found rfl (fun _ => .inl rfl) trivial accepted
      · rename_i stage cached
        exact orderly.loading found cached (permitted stage cached)
  | viewing =>
      rw [Call.goOn.eq_def]
      dsimp only
      split
      · exact orderly.quiet found rfl nofun trivial trivial
      · rename_i stage cached
        exact orderly.viewing found cached
  | asking reader =>
      rw [Call.goOn]
      split
      · exact orderly.quiet found rfl (fun holds => .inl holds) trivial accepted
      · exact orderly.quiet found rfl (fun holds => .inl holds) trivial accepted
  | knowsLayout reader layout declared =>
      obtain ⟨holds, own, stays⟩ := rebuilding_spec reader layout declared world.table.seats
      exact orderly.quiet found rfl (fun held => .inl (holds.symm.trans held)) own (stays accepted)
  | knowsSeats reader seats =>
      obtain ⟨holds, own, stays⟩ := rebuilding_spec reader world.table.getSeatLayout
        world.table.settings.isSome seats
      exact orderly.quiet found rfl (fun held => .inl (holds.symm.trans held)) own (stays accepted)
  | creating reader layout =>
      obtain ⟨still, lacking⟩ := permitted
      rw [Call.goOn, lacking]
      exact orderly.creating found still
  | relisting reader layout =>
      exact orderly.quiet found rfl (fun holds => .inl holds) trivial accepted
  | caching reader stage =>
      obtain ⟨still, present, rebuilt, shown, faithful⟩ := permitted
      have steady := orderly.steady still
      have settled := Room.settled_materialise steady.ordered steady.tidy
      have same : world.table.materialise = world.table := if_neg present
      have first : stage.version = 1 := by
        rw [← rebuilt]
        rfl
      rw [same, rebuilt] at settled
      cases reader with
      | getStage =>
          exact orderly.caching found still settled first shown (some stage.version)
            (fun _ isVersion => (Option.some.inj isVersion).symm.trans first) nofun trivial trivial
      | operation operation =>
          have older : ∀ version ∈ world.seen, version ≤ stage.version := first.symm ▸ shown
          obtain ⟨own, -, stays⟩ := asserts_planned settled accepted faithful first.ge older
            fun other (isOther : some stage = some other) =>
              (congrArg SeatStageSnapshot.version (Option.some.inj isOther)).symm.le
          exact orderly.caching found still settled first shown none nofun (fun _ => rfl) own stays
  | writing base plan begun rest =>
      cases rest with
      | nil => exact orderly.committing found
      | cons first others => exact orderly.writing found layoutFirst
  | finishing first rest => exact orderly.finishing found layoutFirst
  | ended => exact orderly.quiet found rfl nofun trivial trivial

theorem Orderly.clear (orderly : world.Orderly) :
    Orderly { world with cache := none } where
  apart := orderly.apart
  steady := fun still => ⟨(orderly.steady still).ordered, (orderly.steady still).tidy, nofun⟩
  asserts := by
    intro call member
    have asserts := orderly.asserts call member
    cases call with
    | writing base plan begun rest =>
        obtain ⟨owed, positive, seen, -⟩ := asserts
        exact ⟨owed, positive, seen, nofun⟩
    | finishing first rest =>
        obtain ⟨after, stage, writes, settled, -⟩ := asserts
        exact ⟨after, stage, writes, settled, nofun⟩
    | _ => exact trivial
  accepted := orderly.accepted
  shown := nofun
  monotone := orderly.monotone

theorem orderly_step (happening : Happening) (orderly : world.Orderly)
    (permitted : world.Permits happening) : (world.step happening).Orderly := by
  cases happening with
  | operate operation =>
      rw [step]
      cases refused : operation.refused with
      | some error => exact orderly
      | none => exact orderly.spawn rfl refused
  | getStage => exact orderly.spawn rfl trivial
  | goOn position layoutFirst =>
      rw [step]
      split
      · exact orderly
      · rename_i call found
        exact orderly.goOn found (permitted call found) layoutFirst
  | stop position =>
      rw [step]
      rcases Option.eq_none_or_eq_some world.calls[position]? with missing | ⟨call, found⟩
      · rw [List.set_eq_of_length_le (List.getElem?_eq_none_iff.mp missing)]
        exact orderly
      · exact orderly.quiet found (permitted call found) nofun trivial trivial
  | clear => exact orderly.clear

theorem Created.orderly (created : world.Created) : world.Orderly := by
  have synced : Room.Synced ⟨world.ownerId, world.table, world.cache⟩ :=
    Room.Created.synced ⟨created.cold, created.seats⟩
  obtain ⟨noCalls, noneSeen⟩ := created.idle
  refine ⟨?_, fun _ => ⟨synced.ordered, synced.tidy, synced.shows⟩, ?_, ?_, ?_, ?_⟩
  · intro first second one two found
    rw [noCalls, List.getElem?_nil] at found
    cases found
  · rw [noCalls]
    exact List.forall_mem_nil _
  · rw [noCalls]
    exact List.forall_mem_nil _
  · rw [created.cold]
    exact nofun
  · rw [noneSeen]
    exact List.Pairwise.nil

/-- A cached stage and the table agree whenever no operation is under way, and the versions shown
never fall, throughout a run in which each operation is faithful and none stops midway, and each
rebuild writes what the table still is. -/
theorem coherent_always (world : World) (created : world.Created) (events : List Happening)
    (permitted : Each step Permits world events) : Always step Coherent world events := by
  have kept : ∀ (state : World) (happening : Happening), state.Orderly →
      state.Permits happening → (state.step happening).Orderly :=
    fun _ happening orderly permits => orderly_step happening orderly permits
  exact (always_of_each kept world created.orderly events permitted).imp
    fun _ orderly => orderly.coherent

end World

def openRoom : World where
  ownerId := smallRoom.ownerId
  table := smallRoom.table

theorem created_openRoom : openRoom.Created where
  cold := rfl
  seats := created_smallRoom.seats
  idle := ⟨rfl, rfl⟩

/-- Someone looks on while Anna sits down, and then the room gets another layout. -/
def lookingOn : List Happening :=
  [.getStage, .operate (.takeSeat "anna" 0), .goOn 1 true, .goOn 0 true, .goOn 0 false,
    .goOn 0 false, .goOn 1 true, .goOn 0 true, .goOn 1 true, .goOn 1 true, .goOn 1 true,
    .goOn 1 true, .goOn 1 true, .goOn 1 true, .operate (.configureLayout ⟨1, 1⟩), .goOn 2 true,
    .goOn 2 true, .goOn 2 true, .getStage, .goOn 2 true, .goOn 3 true, .goOn 2 true, .goOn 2 true,
    .goOn 2 true, .stop 2]

theorem coherent_lookingOn :
    Always World.step World.Coherent openRoom lookingOn ∧
      (run World.step openRoom lookingOn).seen = [3, 2, 2, 1] :=
  ⟨World.coherent_always openRoom created_openRoom lookingOn (by decide +kernel),
    by decide +kernel⟩

/-- Bert sits down, and the process stops after the snapshot and before the row. -/
def stoppedMidway : List Happening :=
  .operate (.takeSeat "bert" 1) :: List.replicate 6 (.goOn 0 true) ++ [.stop 0]

/-- A read that began before Bert sat down writes to the cache what it has found. -/
def readBefore : List Happening :=
  .getStage :: List.replicate 3 (.goOn 0 true) ++ .operate (.takeSeat "bert" 1) ::
    List.replicate 7 (.goOn 1 true) ++ [.goOn 0 true]

/-- The snapshot runs out, and a rebuild counts its versions from one again. -/
def countsAgain : List Happening :=
  .operate (.takeSeat "bert" 1) :: List.replicate 7 (.goOn 0 true) ++
    .clear :: .getStage :: List.replicate 4 (.goOn 1 true)

theorem not_coherent_stoppedMidway :
    ¬(run World.step openRoom stoppedMidway).Coherent ∧
      ¬(run World.step openRoom readBefore).Coherent ∧
        ¬(run World.step openRoom countsAgain).Coherent := by
  refine ⟨?_, ?_, ?_⟩
  · intro coherent
    have agrees := coherent.agrees (by decide +kernel) _ (Option.some_get (by decide +kernel)).symm
    revert agrees
    decide +kernel
  · intro coherent
    have agrees := coherent.agrees (by decide +kernel) _ (Option.some_get (by decide +kernel)).symm
    revert agrees
    decide +kernel
  · intro coherent
    have monotone := coherent.monotone
    revert monotone
    decide +kernel

end Soulzaa.VideoRooms.Stages
