/-
Calls that promote the front of a room's seat queue onto a freed seat, side by side.

A seating, which has its own lock, is a step, and so is whatever else is awaited.  A call passes
once over the first entries of the queue while it holds the queue's lock, so it leaves the room as
one pass without interruption does.
-/

import Mathlib.Data.String.Basic
import Soulzaa.Lib.SortedSets
import Soulzaa.VideoRooms.SeatProjection
import Soulzaa.VideoRooms.SeatQueueScores

namespace Soulzaa.VideoRooms.SeatQueue

open Stages (SeatEntrySnapshot SeatPlan)

inductive VideoRoomSeatRequestStatus where
  | pending
  | accepted
  | rejected
  | cancelled
  | expired
  | promoted
  | failed
  deriving DecidableEq, Repr

structure VideoRoomSeatRequest where
  id : Nat
  userId : UserId
  status : VideoRoomSeatRequestStatus := .pending
  createdAt : Date
  attemptCount : Nat := 0

/-- The user's request is resolved if it is pending. -/
def VideoRoomSeatRequest.resolved (userId : UserId) (status : VideoRoomSeatRequestStatus)
    (request : VideoRoomSeatRequest) : VideoRoomSeatRequest :=
  if request.userId = userId ∧ request.status = .pending then { request with status := status }
  else request

theorem VideoRoomSeatRequest.ids_resolved {userId : UserId} {status : VideoRoomSeatRequestStatus}
    (requests : List VideoRoomSeatRequest) :
    (requests.map (resolved userId status)).map id = requests.map id := by
  rw [List.map_map]
  refine List.map_congr_left fun request _ => ?_
  rw [Function.comp_apply]
  unfold resolved
  split <;> rfl

/-- The seats, whose snapshot shows the table. -/
structure Seats where
  room : Stages.Room
  synced : room.Synced

structure Room where
  live : Bool := true
  /-- Who is an active member. -/
  members : List UserId
  seats : Seats
  /-- Zero where the level is not known. -/
  level : UserId → Nat := fun _ => 0
  queue : SortedSets Unit UserId
  skips : UserId → Int := fun _ => 0
  requests : List VideoRoomSeatRequest
  numbered : (requests.map VideoRoomSeatRequest.id).Nodup

def previewLimit : Nat := 20

/-! ### Seating -/

namespace Seats

/-- Whether the user may take the seat. -/
def claimable (seats : Seats) (userId : UserId) (seatIndex : Nat) : Bool :=
  match seats.room.stage.seatUser seats.room.ownerId userId seatIndex with
  | .ok _ => true
  | .error _ => false

def mutateStage (seats : Seats) (userId : UserId) (seatIndex : Nat) : Seats where
  room := seats.room.mutateStage (.seatUser userId seatIndex)
  synced := @Stages.Room.synced_step _ seats.synced (.operate (.seatUser userId seatIndex)) trivial

end Seats

namespace Room

def scoreFor (room : Room) (userId : UserId) (createdAt : Date) : Int :=
  computeQueueScore
    { vipLevel := some (room.level userId : Int)
      createdAt := some createdAt
      skipCount := room.skips userId }

def reScore (room : Room) (userId : UserId) (createdAt : Date) : Room :=
  { room with queue := room.queue.setScore () userId (room.scoreFor userId createdAt) }

def pendingRequests (room : Room) : List VideoRoomSeatRequest :=
  room.requests.filter fun request => request.status = .pending

def rebuild (room : Room) : Room :=
  room.pendingRequests.foldl (fun room request => room.reScore request.userId request.createdAt) room

/-- A sorted set without members is not there. -/
def ensureProjection (room : Room) : Room :=
  if room.queue.members () = [] then room.rebuild else room

def findPendingRequest (room : Room) (userId : UserId) : Option VideoRoomSeatRequest :=
  room.requests.find? fun request => request.userId = userId ∧ request.status = .pending

def sortedRemove (room : Room) (userId : UserId) : Room :=
  { room with queue := room.queue.remove () [userId] }

def forgetSkips (room : Room) (userId : UserId) : Room :=
  { room with skips := Function.update room.skips userId 0 }

def dequeue (room : Room) (userId : UserId) : Room :=
  (room.ensureProjection.sortedRemove userId).forgetSkips userId

def resolveAllPendingRequestsForUser (room : Room) (userId : UserId)
    (status : VideoRoomSeatRequestStatus) : Room :=
  { room with
    requests := room.requests.map (VideoRoomSeatRequest.resolved userId status)
    numbered := by
      rw [VideoRoomSeatRequest.ids_resolved]
      exact room.numbered }

/-- The listener to a seat that is taken. -/
def onSeatTaken (room : Room) (userId : UserId) : Room :=
  (room.dequeue userId).resolveAllPendingRequestsForUser userId .promoted

def Joined (room : Room) (userId : UserId) : Prop := room.live = true ∧ userId ∈ room.members

instance (room : Room) (userId : UserId) : Decidable (room.Joined userId) :=
  inferInstanceAs (Decidable (_ ∧ _))

def mutateStage (room : Room) (userId : UserId) (seatIndex : Nat) : Room :=
  { room with seats := room.seats.mutateStage userId seatIndex }

/-- The room afterwards, and whether the user was seated. -/
def seatUser (room : Room) (userId : UserId) (seatIndex : Nat) : Room × Bool :=
  if room.Joined userId then
    if room.seats.claimable userId seatIndex then
      ((room.mutateStage userId seatIndex).onSeatTaken userId, true)
    else (room.mutateStage userId seatIndex, false)
  else (room, false)

def addSkip (room : Room) (userId : UserId) : Room :=
  { room with skips := Function.update room.skips userId (room.skips userId + 1) }

def setRequestStatus (room : Room) (id : Nat) (status : VideoRoomSeatRequestStatus) : Room :=
  { room with
    requests := KeyedRows.update VideoRoomSeatRequest.id id
      (fun request => { request with status := status, attemptCount := request.attemptCount + 1 })
      room.requests
    numbered := by
      refine Eq.mpr (congrArg List.Nodup (KeyedRows.keys_update ?_)) room.numbered
      exact fun _ => rfl }

/-! ### One pass -/

/-- What follows on a seating. -/
def promote (room : Room) (userId : UserId) (request : VideoRoomSeatRequest) : Room :=
  ((room.setRequestStatus request.id .promoted).sortedRemove userId).forgetSkips userId

/-- What follows on a candidate who cannot be seated. -/
def passOver (room : Room) (userId : UserId) (request : VideoRoomSeatRequest) : Room :=
  (room.addSkip userId).reScore userId request.createdAt

/-- The pass over the candidates, and who was seated. -/
def scan (seatIndex : Nat) : Room → List UserId → Room × Option UserId
  | room, [] => (room, none)
  | room, userId :: rest =>
      match room.findPendingRequest userId with
      | none => scan seatIndex (room.sortedRemove userId) rest
      | some request =>
          let seated := room.seatUser userId seatIndex
          if seated.2 then (seated.1.promote userId request, some userId)
          else scan seatIndex (seated.1.passOver userId request) rest

def preview (room : Room) : List UserId := room.queue.lowest () previewLimit

def advance (room : Room) (seatIndex : Nat) : Room × Option UserId :=
  scan seatIndex room.ensureProjection room.ensureProjection.preview

end Room

/-! ### Calls -/

inductive Call where
  | waiting (seatIndex : Nat)
  | ensuring (seatIndex : Nat)
  | previewing (seatIndex : Nat)
  | scanning (seatIndex : Nat) (candidates : List UserId)
  | dropping (seatIndex : Nat) (userId : UserId) (rest : List UserId)
  | seating (seatIndex : Nat) (userId : UserId) (request : VideoRoomSeatRequest)
      (rest : List UserId)
  | skipping (seatIndex : Nat) (userId : UserId) (request : VideoRoomSeatRequest)
      (rest : List UserId)
  | rescoring (seatIndex : Nat) (userId : UserId) (request : VideoRoomSeatRequest)
      (rest : List UserId)
  | resolving (userId : UserId) (request : VideoRoomSeatRequest)
  | removing (userId : UserId)
  | forgetting (userId : UserId)
  | releasing (seated : Option UserId)
  /-- The call has ended, or was not given the lock. -/
  | ended

namespace Call

/-- The call holds the lock, or has held it. -/
def working : Call → Bool
  | .waiting _ | .ended => false
  | _ => true

def goOn (room : Room) : Call → Room × Call
  | .ensuring seatIndex => (room.ensureProjection, .previewing seatIndex)
  | .previewing seatIndex => (room, .scanning seatIndex room.preview)
  | .scanning _ [] => (room, .releasing none)
  | .scanning seatIndex (userId :: rest) =>
      match room.findPendingRequest userId with
      | none => (room, .dropping seatIndex userId rest)
      | some request => (room, .seating seatIndex userId request rest)
  | .dropping seatIndex userId rest => (room.sortedRemove userId, .scanning seatIndex rest)
  | .seating seatIndex userId request rest =>
      let seated := room.seatUser userId seatIndex
      if seated.2 then (seated.1, .resolving userId request)
      else (seated.1, .skipping seatIndex userId request rest)
  | .skipping seatIndex userId request rest =>
      (room.addSkip userId, .rescoring seatIndex userId request rest)
  | .rescoring seatIndex userId request rest =>
      (room.reScore userId request.createdAt, .scanning seatIndex rest)
  | .resolving userId request => (room.setRequestStatus request.id .promoted, .removing userId)
  | .removing userId => (room.sortedRemove userId, .forgetting userId)
  | .forgetting userId => (room.forgetSkips userId, .releasing (some userId))
  | call => (room, call)

end Call

/-- A call that has come to the end of its pass. -/
structure Report where
  seatIndex : Nat
  /-- When the lock was taken. -/
  before : Room
  after : Room
  seated : Option UserId

structure World where
  room : Room
  calls : List Call := []
  /-- Which call has the queue's lock. -/
  holder : Option Nat := none
  /-- The room when the lock was taken, and the seat that it was taken for. -/
  began : Room × Nat
  reports : List Report := []

inductive Event where
  | advance (seatIndex : Nat)
  | acquire (position : Nat)
  /-- The lock was not free for too long. -/
  | giveUp (position : Nat)
  | goOn (position : Nat)
  /-- The lock runs out. -/
  | lapse
  deriving DecidableEq

namespace World

def put (world : World) (position : Nat) (call : Call) : World :=
  { world with calls := world.calls.set position call }

def release (world : World) (position : Nat) (seated : Option UserId) : World :=
  { world.put position .ended with
    holder := if world.holder = some position then none else world.holder
    reports :=
      { seatIndex := world.began.2
        before := world.began.1
        after := world.room
        seated := seated } :: world.reports }

def step (world : World) : Event → World
  | .advance seatIndex => { world with calls := world.calls ++ [.waiting seatIndex] }
  | .acquire position =>
      match world.calls[position]?, world.holder with
      | some (.waiting seatIndex), none =>
          { world.put position (.ensuring seatIndex) with
            holder := some position
            began := (world.room, seatIndex) }
      | _, _ => world
  | .giveUp position =>
      match world.calls[position]? with
      | some (.waiting _) => world.put position .ended
      | _ => world
  | .goOn position =>
      match world.calls[position]? with
      | some (.releasing seated) => world.release position seated
      | some call =>
          if call.working then
            { world.put position (call.goOn world.room).2 with room := (call.goOn world.room).1 }
          else world
      | none => world
  | .lapse => { world with holder := none }

end World

def Room.opened (room : Room) : World where
  room := room
  began := (room, 0)

/-! ### The property -/

def Room.Seatable (room : Room) (userId : UserId) (seatIndex : Nat) : Prop :=
  (room.findPendingRequest userId).isSome ∧ room.Joined userId ∧
    room.seats.claimable userId seatIndex = true

instance (room : Room) (userId : UserId) (seatIndex : Nat) :
    Decidable (room.Seatable userId seatIndex) :=
  inferInstanceAs (Decidable (_ ∧ _ ∧ _))

/-- Who sits where. -/
def Seats.occupants (seats : Seats) : List (Nat × Option UserId) :=
  seats.room.stage.seats.map fun seat => (seat.seatIndex, seat.occupantUserId)

def Room.occupants (room : Room) : List (Nat × Option UserId) := room.seats.occupants

def Room.marks (room : Room) : List (Nat × UserId × VideoRoomSeatRequestStatus) :=
  room.requests.map fun request => (request.id, request.userId, request.status)

def Room.Sits (room : Room) (userId : UserId) : Prop :=
  ∃ seatIndex, (seatIndex, some userId) ∈ room.occupants

/-- The first of the candidates who can be seated is, and nobody else. -/
structure Report.Promotes (candidates : Room → List UserId) (report : Report) : Prop where
  first : report.seated = (candidates report.before.ensureProjection).find? fun userId =>
    report.before.ensureProjection.Seatable userId report.seatIndex
  seat : ∀ userId, report.seated = some userId → report.after.occupants =
    report.before.occupants.map fun seat =>
      if seat.1 = report.seatIndex then (seat.1, some userId) else seat
  there : ∀ userId, report.seated = some userId → (report.seatIndex, some userId) ∈
    report.after.occupants
  gone : ∀ userId, report.seated = some userId → userId ∉ report.after.queue.members ()
  marked : ∀ userId, report.seated = some userId →
    report.after.marks = report.before.requests.map fun request =>
      (request.id, request.userId,
        if request.userId = userId ∧ request.status = .pending then .promoted
        else request.status)
  unchanged : report.seated = none → report.after.occupants = report.before.occupants ∧
    report.after.requests = report.before.requests

/-- Nobody sits twice, and who is promoted has a seat. -/
structure World.Seated (start : Room) (world : World) : Prop where
  once : ∀ seat ∈ world.room.occupants, ∀ other ∈ world.room.occupants, ∀ userId,
    seat.2 = some userId → other.2 = some userId → seat.1 = other.1
  promoted : ∀ mark ∈ world.room.marks, mark.2.2 = .promoted →
    mark ∈ start.marks ∨ world.room.Sits mark.2.1

/-! ### Seatings -/

namespace Seats

variable {seats : Seats} {userId : UserId} {seatIndex : Nat}

theorem stage_loaded (room : Stages.Room) : room.loaded.stage = room.stage := by
  obtain ⟨ownerId, table, cache⟩ := room
  cases cache <;> rfl

theorem ownerId_mutateStage : (seats.mutateStage userId seatIndex).room.ownerId =
    seats.room.ownerId := by
  have loaded : seats.room.loaded.ownerId = seats.room.ownerId := Stages.Room.loaded_ownerId
  unfold mutateStage Stages.Room.mutateStage
  dsimp only
  split
  · unfold Stages.Room.perform
    dsimp only
    split
    · exact loaded
    · exact loaded
  · exact loaded

/-- Who may not take the seat leaves the stage as it is. -/
theorem stage_of_unclaimable (unclaimable : ¬seats.claimable userId seatIndex = true) :
    (seats.mutateStage userId seatIndex).room.stage = seats.room.stage := by
  unfold claimable at unclaimable
  unfold mutateStage Stages.Room.mutateStage Stages.SeatOperation.plan
  dsimp only
  split at unclaimable
  · exact absurd rfl unclaimable
  · rename_i error isError
    rw [isError]
    exact stage_loaded _

theorem seatUser_cases (base : Stages.SeatStageSnapshot) (ownerId userId : UserId)
    (seatIndex : Nat) :
    (∃ error, base.seatUser ownerId userId seatIndex = .error error) ∨
      ∃ plan seat, base.seatUser ownerId userId seatIndex = .ok (some plan) ∧
        KeyedRows.find SeatEntrySnapshot.seatIndex seatIndex base.seats = some seat ∧
        seat.status ≠ .occupied ∧ plan.seats = base.seats.map fun seat =>
          if seat.seatIndex = seatIndex then
            { seat with
              status := .occupied
              occupantUserId := some userId
              reservedForUserId := none }
          else seat := by
  unfold Stages.SeatStageSnapshot.seatUser
  split
  · exact Or.inl ⟨_, rfl⟩
  · split
    · exact Or.inl ⟨_, rfl⟩
    · rename_i seat isSeat
      have found := Stages.requireSeat_ok isSeat
      have here : seat.seatIndex = seatIndex := KeyedRows.key_of_find found
      split
      · exact Or.inl ⟨_, rfl⟩
      · rename_i claimable
        rw [here]
        exact Or.inr ⟨_, seat, rfl, found, (Stages.assertClaimable_ok claimable).2.1, rfl⟩

/-- Who may take the seat sits there afterwards, where nobody did. -/
theorem occupants_of_claimable (claimable : seats.claimable userId seatIndex = true) :
    (seats.mutateStage userId seatIndex).occupants =
        seats.occupants.map (fun seat =>
          if seat.1 = seatIndex then (seat.1, some userId) else seat) ∧
      (seatIndex, none) ∈ seats.occupants ∧
      ∀ seat ∈ seats.occupants, seat.1 = seatIndex → seat.2 = none := by
  unfold Seats.claimable at claimable
  rcases seatUser_cases seats.room.stage seats.room.ownerId userId seatIndex with
    ⟨error, isError⟩ | ⟨plan, seat, isPlan, found, free, isSeats⟩
  · rw [isError] at claimable
    cases claimable
  · have settled := seats.synced.loaded.2
    obtain ⟨after, written, -⟩ := Stages.settles_seatUser settled isPlan
    have here : seat.seatIndex = seatIndex := KeyedRows.key_of_find found
    have member := KeyedRows.mem_of_find found
    have nobody : seat.occupantUserId = none := by
      rw [← Option.not_isSome_iff_eq_none]
      exact fun taken => free ((settled.tidy.shown seat member).occupied.mpr taken)
    refine ⟨?_, ?_, ?_⟩
    · unfold occupants mutateStage
      dsimp only
      have operation : (Stages.SeatOperation.seatUser userId seatIndex).plan seats.room.ownerId
          seats.room.stage = .ok (some plan) := isPlan
      rw [Stages.Room.mutateStage_written seats.synced operation written]
      change plan.seats.map _ = _
      rw [isSeats, List.map_map, List.map_map]
      refine List.map_congr_left fun seat _ => ?_
      rw [Function.comp_apply, Function.comp_apply]
      split <;> rfl
    · refine List.mem_map.mpr ⟨seat, member, ?_⟩
      rw [here, nobody]
    · intro entry isEntry same
      obtain ⟨other, isOther, rfl⟩ := List.mem_map.mp isEntry
      obtain rfl := settled.eq_of_index isOther member (same.trans here.symm)
      exact nobody

end Seats

/-! ### The pass -/

/-- The rooms differ in their queues only. -/
structure Alike (one two : Room) : Prop where
  live : two.live = one.live
  members : two.members = one.members
  stage : two.seats.room.stage = one.seats.room.stage
  ownerId : two.seats.room.ownerId = one.seats.room.ownerId
  requests : two.requests = one.requests

namespace Alike

variable {one two room : Room} {userId : UserId} {seatIndex : Nat}

theorem refl (room : Room) : Alike room room := ⟨rfl, rfl, rfl, rfl, rfl⟩

theorem find (alike : Alike one two) (userId : UserId) :
    two.findPendingRequest userId = one.findPendingRequest userId := by
  unfold Room.findPendingRequest
  rw [alike.requests]

theorem joined_iff (alike : Alike one two) : two.Joined userId ↔ one.Joined userId := by
  unfold Room.Joined
  rw [alike.live, alike.members]

theorem claimable (alike : Alike one two) :
    two.seats.claimable userId seatIndex = one.seats.claimable userId seatIndex := by
  unfold Seats.claimable
  rw [alike.stage, alike.ownerId]

theorem occupants (alike : Alike one two) : two.occupants = one.occupants := by
  unfold Room.occupants Seats.occupants
  rw [alike.stage]

theorem sortedRemove (alike : Alike one two) (userId : UserId) :
    Alike one (two.sortedRemove userId) :=
  ⟨alike.live, alike.members, alike.stage, alike.ownerId, alike.requests⟩

/-- Who cannot be seated changes nothing but his place in the queue. -/
theorem passedOver (alike : Alike one two) (unseated : (two.seatUser userId seatIndex).2 = false)
    (request : VideoRoomSeatRequest) :
    Alike one ((two.seatUser userId seatIndex).1.passOver userId request) := by
  unfold Room.seatUser at unseated ⊢
  split at unseated
  · rename_i joined
    rw [if_pos joined]
    split at unseated
    · cases unseated
    · rename_i unclaimable
      rw [if_neg unclaimable]
      exact ⟨alike.live, alike.members,
        (Seats.stage_of_unclaimable unclaimable).trans alike.stage,
        Seats.ownerId_mutateStage.trans alike.ownerId, alike.requests⟩
  · rename_i refused
    rw [if_neg refused]
    exact ⟨alike.live, alike.members, alike.stage, alike.ownerId, alike.requests⟩

end Alike

namespace Room

variable {room start : Room} {userId : UserId} {seatIndex : Nat}

theorem seatUser_iff : (room.seatUser userId seatIndex).2 = true ↔
    room.Joined userId ∧ room.seats.claimable userId seatIndex = true := by
  unfold seatUser
  split
  · rename_i joined
    split
    · rename_i claimable
      exact iff_of_true rfl ⟨joined, claimable⟩
    · rename_i unclaimable
      exact iff_of_false Bool.false_ne_true fun both => unclaimable both.2
  · rename_i refused
    exact iff_of_false Bool.false_ne_true fun both => refused both.1

/-- The pass seats the first who can be seated, in a room that still is as it was. -/
theorem scan_spec (candidates : List UserId) (alike : Alike start room) :
    (∃ userId request middle, candidates.find? (fun userId => start.Seatable userId seatIndex) =
        some userId ∧ Alike start middle ∧ middle.findPendingRequest userId = some request ∧
        (middle.seatUser userId seatIndex).2 = true ∧
        scan seatIndex room candidates =
          ((middle.seatUser userId seatIndex).1.promote userId request, some userId)) ∨
      (candidates.find? (fun userId => start.Seatable userId seatIndex) = none ∧
        (scan seatIndex room candidates).2 = none ∧
        Alike start (scan seatIndex room candidates).1) := by
  induction candidates generalizing room with
  | nil => exact Or.inr ⟨rfl, rfl, alike⟩
  | cons userId rest ih =>
      unfold scan
      cases found : room.findPendingRequest userId with
      | none =>
          have unseatable : ¬start.Seatable userId seatIndex := by
            rintro ⟨pending, -⟩
            rw [← alike.find, found] at pending
            cases pending
          rw [List.find?_cons_of_neg (by rw [decide_eq_true_iff]; exact unseatable)]
          exact ih (alike.sortedRemove userId)
      | some request =>
          dsimp only
          by_cases seated : (room.seatUser userId seatIndex).2 = true
          · have both := seatUser_iff.mp seated
            have seatable : start.Seatable userId seatIndex := by
              refine ⟨?_, alike.joined_iff.mp both.1, alike.claimable ▸ both.2⟩
              rw [← alike.find, found]
              rfl
            rw [List.find?_cons_of_pos (by rw [decide_eq_true_iff]; exact seatable), if_pos seated]
            exact Or.inl ⟨userId, request, room, rfl, alike, found, seated, rfl⟩
          · have unseatable : ¬start.Seatable userId seatIndex := by
              rintro ⟨-, joined, claimable⟩
              exact seated (seatUser_iff.mpr
                ⟨alike.joined_iff.mpr joined, alike.claimable.trans claimable⟩)
            rw [List.find?_cons_of_neg (by rw [decide_eq_true_iff]; exact unseatable),
              if_neg seated]
            exact ih (alike.passedOver (Bool.eq_false_of_not_eq_true seated) request)

theorem alike_ensureProjection (room : Room) : Alike room room.ensureProjection := by
  unfold ensureProjection
  split
  · unfold rebuild
    have each : ∀ (pending : List VideoRoomSeatRequest) (after : Room), Alike room after →
        Alike room (pending.foldl (fun room request =>
          room.reScore request.userId request.createdAt) after) := by
      intro pending
      induction pending with
      | nil => exact fun _ => id
      | cons request rest ih =>
          intro after alike
          exact ih _ ⟨alike.live, alike.members, alike.stage, alike.ownerId, alike.requests⟩
    exact each _ room (Alike.refl room)
  · exact Alike.refl room

/-! ### Promotions -/

theorem pending_of_find {request : VideoRoomSeatRequest}
    (found : room.findPendingRequest userId = some request) :
    request ∈ room.requests ∧ request.userId = userId ∧ request.status = .pending := by
  have isPending := List.find?_some found
  rw [decide_eq_true_iff] at isPending
  exact ⟨List.mem_of_find?_eq_some found, isPending⟩

theorem occupants_onSeatTaken : (room.onSeatTaken userId).occupants = room.occupants :=
  (alike_ensureProjection room).occupants

theorem requests_onSeatTaken : (room.onSeatTaken userId).requests =
    room.requests.map (VideoRoomSeatRequest.resolved userId .promoted) :=
  congrArg (List.map _) (alike_ensureProjection room).requests

/-- The request that was found is among those that the listener has resolved. -/
theorem marks_promote {seated : Room} {request : VideoRoomSeatRequest}
    (isSeated : seated.requests =
      room.requests.map (VideoRoomSeatRequest.resolved userId .promoted))
    (found : room.findPendingRequest userId = some request) :
    (seated.promote userId request).marks = room.requests.map fun request =>
      (request.id, request.userId,
        if request.userId = userId ∧ request.status = .pending then .promoted
        else request.status) := by
  obtain ⟨member, isUser, isPending⟩ := pending_of_find found
  unfold marks
  change (KeyedRows.update _ _ _ seated.requests).map _ = _
  unfold KeyedRows.update
  rw [isSeated, List.map_map, List.map_map]
  refine List.map_congr_left fun other isOther => ?_
  rw [Function.comp_apply, Function.comp_apply]
  unfold VideoRoomSeatRequest.resolved
  by_cases his : other.userId = userId ∧ other.status = .pending
  · rw [if_pos his, if_pos his]
    split <;> rfl
  · have different : other.id ≠ request.id := by
      intro same
      obtain rfl := List.inj_on_of_nodup_map room.numbered isOther member same
      exact his ⟨isUser, isPending⟩
    rw [if_neg his, if_neg his, if_neg different]

theorem seated_spec (seated : (room.seatUser userId seatIndex).2 = true) :
    (room.seatUser userId seatIndex).1.occupants =
        (room.mutateStage userId seatIndex).occupants ∧
      (room.seatUser userId seatIndex).1.requests =
        room.requests.map (VideoRoomSeatRequest.resolved userId .promoted) := by
  obtain ⟨joined, claimable⟩ := seatUser_iff.mp seated
  unfold seatUser
  rw [if_pos joined, if_pos claimable]
  constructor
  · exact occupants_onSeatTaken
  · exact requests_onSeatTaken.trans rfl

/-- What a seating and its promotion leave behind. -/
theorem promoted_spec {request : VideoRoomSeatRequest}
    (found : room.findPendingRequest userId = some request)
    (seated : (room.seatUser userId seatIndex).2 = true) :
    ((room.seatUser userId seatIndex).1.promote userId request).occupants =
        room.occupants.map (fun seat =>
          if seat.1 = seatIndex then (seat.1, some userId) else seat) ∧
      (seatIndex, none) ∈ room.occupants ∧
      ((room.seatUser userId seatIndex).1.promote userId request).marks =
        room.requests.map fun request =>
          (request.id, request.userId,
            if request.userId = userId ∧ request.status = .pending then .promoted
            else request.status) := by
  obtain ⟨joined, claimable⟩ := seatUser_iff.mp seated
  obtain ⟨occupants, there, -⟩ := Seats.occupants_of_claimable claimable
  obtain ⟨isOccupants, isRequests⟩ := seated_spec seated
  generalize (room.seatUser userId seatIndex).1 = after at isOccupants isRequests ⊢
  exact ⟨isOccupants.trans occupants, there, marks_promote isRequests found⟩

theorem advance_promotes (room : Room) (seatIndex : Nat) :
    Report.Promotes preview
      { seatIndex := seatIndex
        before := room
        after := (room.advance seatIndex).1
        seated := (room.advance seatIndex).2 } := by
  have ensured := alike_ensureProjection room
  have spec := @scan_spec _ _ seatIndex room.ensureProjection.preview
    (Alike.refl room.ensureProjection)
  unfold advance
  rcases spec with ⟨userId, request, middle, first, alike, found, seated, isScan⟩ |
    ⟨nobody, unseated, alike⟩
  · rw [isScan]
    obtain ⟨occupants, there, marks⟩ := promoted_spec found seated
    have before : middle.occupants = room.occupants := alike.occupants.trans ensured.occupants
    have requests : middle.requests = room.requests := alike.requests.trans ensured.requests
    rw [before] at occupants there
    rw [requests] at marks
    constructor
    · exact first.symm
    · rintro _ ⟨⟩
      exact occupants
    · rintro _ ⟨⟩
      dsimp only
      rw [occupants]
      refine List.mem_map.mpr ⟨_, there, ?_⟩
      rw [if_pos rfl]
    · rintro _ ⟨⟩ member
      exact (SortedSets.mem_members_remove.mp member).2 ⟨rfl, List.mem_singleton_self _⟩
    · rintro _ ⟨⟩
      exact marks
    · intro isNone
      cases isNone
  · constructor
    · exact unseated.trans nobody.symm
    · intro userId isSeated
      cases unseated.symm.trans isSeated
    · intro userId isSeated
      cases unseated.symm.trans isSeated
    · intro userId isSeated
      cases unseated.symm.trans isSeated
    · intro userId isSeated
      cases unseated.symm.trans isSeated
    · exact fun _ =>
        ⟨alike.occupants.trans ensured.occupants, alike.requests.trans ensured.requests⟩

end Room

/-! ### Calls side by side -/

namespace Room

variable {room one two three : Room} {userId : UserId} {seatIndex : Nat}

def asked (room : Room) : List (Nat × UserId) :=
  room.requests.map fun request => (request.id, request.userId)

/-- Requests stay, who sits stays, and who is promoted sits. -/
structure Grows (one two : Room) : Prop where
  asked : two.asked = one.asked
  sits : ∀ userId, one.Sits userId → two.Sits userId
  promoted : ∀ mark ∈ two.marks, mark.2.2 = .promoted → mark ∈ one.marks ∨ two.Sits mark.2.1

theorem Grows.trans (first : Grows one two) (second : Grows two three) : Grows one three where
  asked := second.asked.trans first.asked
  sits := fun userId sits => second.sits userId (first.sits userId sits)
  promoted := by
    intro mark member isPromoted
    rcases second.promoted mark member isPromoted with before | sits
    · exact (first.promoted mark before isPromoted).imp_right (second.sits _)
    · exact Or.inr sits

theorem Grows.of_alike (alike : Alike one two) : Grows one two where
  asked := congrArg (List.map _) alike.requests
  sits := by
    unfold Sits
    rw [alike.occupants]
    exact fun _ => id
  promoted := by
    unfold marks
    rw [alike.requests]
    exact fun _ member _ => Or.inl member

theorem sits_mutateStage (claimable : room.seats.claimable userId seatIndex = true) :
    (room.mutateStage userId seatIndex).Sits userId ∧
      ∀ other, room.Sits other → (room.mutateStage userId seatIndex).Sits other := by
  obtain ⟨occupants, there, nobody⟩ := Seats.occupants_of_claimable claimable
  change (room.mutateStage userId seatIndex).occupants = _ at occupants
  unfold Sits
  rw [occupants]
  constructor
  · exact ⟨seatIndex, List.mem_map.mpr ⟨_, there, if_pos rfl⟩⟩
  · rintro other ⟨index, sits⟩
    refine ⟨index, List.mem_map.mpr ⟨_, sits, if_neg fun same => ?_⟩⟩
    cases nobody _ sits same

theorem grows_seatUser (seated : (room.seatUser userId seatIndex).2 = true) :
    Grows room (room.seatUser userId seatIndex).1 ∧
      (room.seatUser userId seatIndex).1.Sits userId := by
  obtain ⟨joined, claimable⟩ := seatUser_iff.mp seated
  obtain ⟨his, others⟩ := sits_mutateStage claimable
  obtain ⟨occupants, requests⟩ := seated_spec seated
  generalize (room.seatUser userId seatIndex).1 = after at occupants requests ⊢
  have sits : ∀ other, (room.mutateStage userId seatIndex).Sits other → after.Sits other := by
    unfold Sits
    rw [occupants]
    exact fun _ => id
  refine ⟨⟨?_, fun other before => sits other (others other before), ?_⟩, sits userId his⟩
  · unfold asked
    rw [requests, List.map_map]
    refine List.map_congr_left fun request _ => ?_
    rw [Function.comp_apply]
    unfold VideoRoomSeatRequest.resolved
    split <;> rfl
  · unfold marks
    rw [requests, List.map_map]
    intro mark member isPromoted
    obtain ⟨request, isRequest, rfl⟩ := List.mem_map.mp member
    rw [Function.comp_apply] at isPromoted ⊢
    unfold VideoRoomSeatRequest.resolved at isPromoted ⊢
    split
    · rename_i resolves
      exact Or.inr (resolves.1 ▸ sits userId his)
    · exact Or.inl (List.mem_map_of_mem isRequest)

/-- The request with the id is the user's. -/
def Owns (room : Room) (id : Nat) (userId : UserId) : Prop :=
  ∀ owner ∈ room.asked, owner.1 = id → owner.2 = userId

theorem Owns.grows {requestId : Nat} (owns : one.Owns requestId userId) (grows : Grows one two) :
    two.Owns requestId userId := by
  unfold Owns
  rw [grows.asked]
  exact owns

theorem grows_setRequestStatus {requestId : Nat} (owns : room.Owns requestId userId)
    (sits : room.Sits userId) : Grows room (room.setRequestStatus requestId .promoted) where
  asked := KeyedRows.map_update fun _ => rfl
  sits := fun _ => id
  promoted := by
    intro mark member isPromoted
    obtain ⟨after, isAfter, rfl⟩ := List.mem_map.mp member
    obtain ⟨request, isRequest, rfl⟩ := KeyedRows.mem_update isAfter
    by_cases same : request.id = requestId
    · have his : request.userId = userId := owns _ (List.mem_map_of_mem isRequest) same
      rw [if_pos same]
      exact Or.inr (his.symm ▸ sits)
    · rw [if_neg same]
      exact Or.inl (List.mem_map_of_mem isRequest)

end Room

namespace Call

open Room (Grows)

variable {room after : Room}

/-- What a call relies on. -/
def Sound (room : Room) : Call → Prop
  | .seating _ userId request _ => room.Owns request.id userId
  | .resolving userId request => room.Owns request.id userId ∧ room.Sits userId
  | _ => True

theorem Sound.grows {call : Call} (sound : call.Sound room) (grows : Grows room after) :
    call.Sound after := by
  cases call with
  | seating seatIndex userId request rest => exact Room.Owns.grows sound grows
  | resolving userId request => exact ⟨sound.1.grows grows, grows.sits _ sound.2⟩
  | _ => exact trivial

section Steps

variable {seatIndex : Nat} {userId : UserId} {rest : List UserId} {request : VideoRoomSeatRequest}

theorem goOn_stale (stale : room.findPendingRequest userId = none) :
    (scanning seatIndex (userId :: rest)).goOn room = (room, .dropping seatIndex userId rest) := by
  simp only [goOn, stale]

theorem goOn_found (found : room.findPendingRequest userId = some request) :
    (scanning seatIndex (userId :: rest)).goOn room =
      (room, .seating seatIndex userId request rest) := by
  simp only [goOn, found]

theorem goOn_seated (seated : (room.seatUser userId seatIndex).2 = true) :
    (seating seatIndex userId request rest).goOn room =
      ((room.seatUser userId seatIndex).1, .resolving userId request) := by
  simp only [goOn, seated, if_true]

theorem goOn_unseated (unseated : (room.seatUser userId seatIndex).2 = false) :
    (seating seatIndex userId request rest).goOn room =
      ((room.seatUser userId seatIndex).1, .skipping seatIndex userId request rest) := by
  simp only [goOn, unseated, Bool.false_eq_true, if_false]

end Steps

/-- A step keeps what was, and what the call relies on. -/
theorem grows_goOn (call : Call) (sound : call.Sound room) :
    Grows room (call.goOn room).1 ∧ (call.goOn room).2.Sound (call.goOn room).1 := by
  have same : Grows room room := .of_alike (Alike.refl room)
  cases call with
  | waiting | previewing | releasing | ended => exact ⟨same, trivial⟩
  | ensuring seatIndex => exact ⟨.of_alike (Room.alike_ensureProjection room), trivial⟩
  | scanning seatIndex candidates =>
      cases candidates with
      | nil => exact ⟨same, trivial⟩
      | cons userId rest =>
          cases found : room.findPendingRequest userId with
          | none =>
              rw [goOn_stale found]
              exact ⟨same, trivial⟩
          | some request =>
              obtain ⟨member, isUser, -⟩ := Room.pending_of_find found
              rw [goOn_found found]
              refine ⟨same, fun owner isOwner isId => ?_⟩
              obtain ⟨other, isOther, rfl⟩ := List.mem_map.mp isOwner
              obtain rfl := List.inj_on_of_nodup_map room.numbered isOther member isId
              exact isUser
  | dropping | skipping | rescoring | removing | forgetting =>
      exact ⟨.of_alike ⟨rfl, rfl, rfl, rfl, rfl⟩, trivial⟩
  | seating seatIndex userId request rest =>
      cases seated : (room.seatUser userId seatIndex).2 with
      | true =>
          obtain ⟨grows, sits⟩ := Room.grows_seatUser seated
          rw [goOn_seated seated]
          exact ⟨grows, Room.Owns.grows sound grows, sits⟩
      | false =>
          have passed := (Alike.refl room).passedOver seated request
          rw [goOn_unseated seated]
          exact ⟨.of_alike ⟨passed.live, passed.members, passed.stage, passed.ownerId,
            passed.requests⟩, trivial⟩
  | resolving userId request => exact ⟨Room.grows_setRequestStatus sound.1 sound.2, trivial⟩

/-- How a call ends, from where it is. -/
def complete (room : Room) : Call → Room × Option UserId
  | .ensuring seatIndex => room.advance seatIndex
  | .previewing seatIndex => room.scan seatIndex room.preview
  | .scanning seatIndex candidates => room.scan seatIndex candidates
  | .dropping seatIndex userId rest => (room.sortedRemove userId).scan seatIndex rest
  | .seating seatIndex userId request rest =>
      let seated := room.seatUser userId seatIndex
      if seated.2 then (seated.1.promote userId request, some userId)
      else (seated.1.passOver userId request).scan seatIndex rest
  | .skipping seatIndex userId request rest => (room.passOver userId request).scan seatIndex rest
  | .rescoring seatIndex userId request rest =>
      (room.reScore userId request.createdAt).scan seatIndex rest
  | .resolving userId request => (room.promote userId request, some userId)
  | .removing userId => ((room.sortedRemove userId).forgetSkips userId, some userId)
  | .forgetting userId => (room.forgetSkips userId, some userId)
  | .releasing seated => (room, seated)
  | .waiting _ | .ended => (room, none)

theorem complete_goOn (call : Call) :
    (call.goOn room).2.complete (call.goOn room).1 = call.complete room := by
  cases call with
  | scanning seatIndex candidates =>
      cases candidates with
      | nil => rfl
      | cons userId rest =>
          cases found : room.findPendingRequest userId with
          | none =>
              rw [goOn_stale found]
              simp only [complete, Room.scan, found]
          | some request =>
              rw [goOn_found found]
              simp only [complete, Room.scan, found]
  | seating seatIndex userId request rest =>
      cases seated : (room.seatUser userId seatIndex).2 with
      | true =>
          rw [goOn_seated seated]
          simp only [complete, seated, if_true]
      | false =>
          rw [goOn_unseated seated]
          simp only [complete, seated, Bool.false_eq_true, if_false]
  | _ => rfl

theorem working_goOn (call : Call) : (call.goOn room).2.working = call.working := by
  cases call with
  | scanning seatIndex candidates =>
      cases candidates with
      | nil => rfl
      | cons userId rest =>
          cases found : room.findPendingRequest userId with
          | none => rw [goOn_stale found]; rfl
          | some request => rw [goOn_found found]; rfl
  | seating seatIndex userId request rest =>
      cases seated : (room.seatUser userId seatIndex).2 with
      | true => rw [goOn_seated seated]; rfl
      | false => rw [goOn_unseated seated]; rfl
  | _ => rfl

end Call

namespace Call

variable {room : Room}

/-- How many steps a call still takes at most. -/
def left : Call → Nat
  | .waiting _ | .ended | .releasing _ => 0
  | .forgetting _ => 1
  | .removing _ => 2
  | .resolving _ _ => 3
  | .scanning _ candidates => 4 * candidates.length + 4
  | .dropping _ _ rest | .rescoring _ _ _ rest => 4 * rest.length + 5
  | .skipping _ _ _ rest => 4 * rest.length + 6
  | .seating _ _ _ rest => 4 * rest.length + 7
  | .previewing _ => 4 * previewLimit + 5
  | .ensuring _ => 4 * previewLimit + 6

theorem left_goOn (call : Call) (working : call.working = true)
    (going : ∀ seated, call ≠ .releasing seated) : (call.goOn room).2.left < call.left := by
  cases call with
  | waiting | ended => cases working
  | releasing seated => exact absurd rfl (going seated)
  | scanning seatIndex candidates =>
      cases candidates with
      | nil => exact Nat.lt_add_left_iff_pos.mpr (by decide)
      | cons userId rest =>
          cases found : room.findPendingRequest userId with
          | none =>
              rw [goOn_stale found]
              simp only [left, List.length_cons]
              omega
          | some request =>
              rw [goOn_found found]
              simp only [left, List.length_cons]
              omega
  | seating seatIndex userId request rest =>
      cases seated : (room.seatUser userId seatIndex).2 with
      | true =>
          rw [goOn_seated seated]
          simp only [left]
          omega
      | false =>
          rw [goOn_unseated seated]
          simp only [left]
          omega
  | previewing seatIndex =>
      have short : room.preview.length ≤ previewLimit := List.length_take_le _ _
      simp only [goOn, left]
      omega
  | _ =>
      simp only [goOn, left]
      omega

end Call

namespace World

variable {start : Room} {world : World} {position other : Nat} {call found : Call}

theorem call_put (there : (world.put position call).calls[other]? = some found) :
    (other = position ∧ found = call) ∨
      (other ≠ position ∧ world.calls[other]? = some found) := by
  unfold put at there
  dsimp only at there
  rw [List.getElem?_set] at there
  split at there
  · rename_i same
    split at there
    · exact Or.inl ⟨same.symm, (Option.some.inj there).symm⟩
    · cases there
  · rename_i different
    exact Or.inr ⟨Ne.symm different, there⟩

theorem step_goOn (here : world.calls[position]? = some call) (working : call.working = true)
    (going : ∀ seated, call ≠ .releasing seated) :
    world.step (.goOn position) =
      { world.put position (call.goOn world.room).2 with room := (call.goOn world.room).1 } := by
  cases call with
  | waiting | ended => cases working
  | releasing seated => exact absurd rfl (going seated)
  | _ => simp only [step, here, Call.working, if_true]

theorem step_release {seated : Option UserId}
    (here : world.calls[position]? = some (.releasing seated)) :
    world.step (.goOn position) = world.release position seated := by
  simp only [step, here]

/-- What a step does: a call starts, gets the lock, goes on or ends. -/
theorem step_cases (world : World) (event : Event) :
    world.step event = world ∨
      (∃ seatIndex, world.step event = { world with calls := world.calls ++ [.waiting seatIndex] }) ∨
      (∃ position seatIndex, world.calls[position]? = some (.waiting seatIndex) ∧
        world.holder = none ∧ world.step event =
          { world.put position (.ensuring seatIndex) with
            holder := some position
            began := (world.room, seatIndex) }) ∨
      (∃ position, world.step event = world.put position .ended) ∨
      (∃ position seated, world.calls[position]? = some (.releasing seated) ∧
        world.step event = world.release position seated) ∨
      (∃ position call, world.calls[position]? = some call ∧ call.working = true ∧
        world.step event =
          { world.put position (call.goOn world.room).2 with
            room := (call.goOn world.room).1 }) ∨
      (event = .lapse ∧ world.step event = { world with holder := none }) := by
  cases event with
  | advance seatIndex => exact Or.inr (Or.inl ⟨seatIndex, rfl⟩)
  | acquire position =>
      unfold step
      dsimp only
      split
      · rename_i seatIndex isCall isFree
        exact Or.inr (Or.inr (Or.inl ⟨position, seatIndex, isCall, isFree, rfl⟩))
      · exact Or.inl rfl
  | giveUp position =>
      unfold step
      dsimp only
      split
      · exact Or.inr (Or.inr (Or.inr (Or.inl ⟨position, rfl⟩)))
      · exact Or.inl rfl
  | goOn position =>
      unfold step
      dsimp only
      split
      · rename_i seated isCall
        exact Or.inr (Or.inr (Or.inr (Or.inr (Or.inl ⟨position, seated, isCall, rfl⟩))))
      · rename_i call _ isCall
        split
        · rename_i working
          exact Or.inr (Or.inr (Or.inr (Or.inr (Or.inr (Or.inl
            ⟨position, call, isCall, working, rfl⟩)))))
        · exact Or.inl rfl
      · exact Or.inl rfl
  | lapse => exact Or.inr (Or.inr (Or.inr (Or.inr (Or.inr (Or.inr ⟨rfl, rfl⟩)))))

/-- What holds however the lock fares. -/
structure Kept (start : Room) (world : World) : Prop where
  grows : start.Grows world.room
  sound : ∀ call ∈ world.calls, call.Sound world.room

theorem Kept.step (kept : world.Kept start) (event : Event) : (world.step event).Kept start := by
  have put : ∀ {position} (call : Call), call.Sound world.room →
      ∀ other ∈ (world.put position call).calls, other.Sound world.room := by
    intro position call sound other member
    rcases List.mem_or_eq_of_mem_set member with before | rfl
    · exact kept.sound other before
    · exact sound
  rcases world.step_cases event with same | ⟨seatIndex, starts⟩ |
    ⟨position, seatIndex, -, -, takes⟩ | ⟨position, ends⟩ | ⟨position, seated, -, releases⟩ |
    ⟨position, call, here, -, goesOn⟩ | ⟨-, lapses⟩
  · rw [same]
    exact kept
  · rw [starts]
    refine ⟨kept.grows, fun call member => ?_⟩
    rcases List.mem_append.mp member with before | new
    · exact kept.sound call before
    · rw [List.mem_singleton.mp new]
      exact trivial
  · rw [takes]
    exact ⟨kept.grows, put (.ensuring seatIndex) trivial⟩
  · rw [ends]
    exact ⟨kept.grows, put .ended trivial⟩
  · rw [releases]
    exact ⟨kept.grows, put .ended trivial⟩
  · have sound := kept.sound call (List.mem_of_getElem? here)
    obtain ⟨grows, after⟩ := call.grows_goOn sound
    rw [goesOn]
    refine ⟨kept.grows.trans grows, fun other member => ?_⟩
    rcases List.mem_or_eq_of_mem_set member with before | rfl
    · exact (kept.sound other before).grows grows
    · exact after
  · rw [lapses]
    exact ⟨kept.grows, kept.sound⟩

/-- One call at most is working, and it ends as one uninterrupted pass would have. -/
structure Alone (world : World) : Prop where
  held : ∀ position call, world.calls[position]? = some call → call.working = true →
    world.holder = some position ∧
      call.complete world.room = world.began.1.advance world.began.2
  reports : ∀ report ∈ world.reports, report.Promotes Room.preview

theorem Alone.step (alone : world.Alone) {event : Event} (held : event ≠ .lapse) :
    (world.step event).Alone := by
  rcases world.step_cases event with same | ⟨seatIndex, starts⟩ |
    ⟨position, seatIndex, here, isFree, takes⟩ | ⟨position, ends⟩ |
    ⟨position, seated, here, releases⟩ | ⟨position, call, here, working, goesOn⟩ | ⟨lapses, -⟩
  · rw [same]
    exact alone
  · rw [starts]
    refine ⟨fun other found there isWorking => ?_, alone.reports⟩
    rw [List.getElem?_append] at there
    split at there
    · exact alone.held other found there isWorking
    · rw [List.mem_singleton.mp (List.mem_of_getElem? there)] at isWorking
      cases isWorking
  · rw [takes]
    refine ⟨fun other found there isWorking => ?_, alone.reports⟩
    rcases call_put there with ⟨rfl, rfl⟩ | ⟨-, before⟩
    · exact ⟨rfl, rfl⟩
    · cases isFree.symm.trans (alone.held other found before isWorking).1
  · rw [ends]
    refine ⟨fun other found there isWorking => ?_, alone.reports⟩
    rcases call_put there with ⟨-, rfl⟩ | ⟨-, before⟩
    · cases isWorking
    · exact alone.held other found before isWorking
  · obtain ⟨isHolder, completes⟩ := alone.held position _ here rfl
    rw [releases]
    refine ⟨fun other found there isWorking => ?_, fun report member => ?_⟩
    · rcases call_put there with ⟨-, rfl⟩ | ⟨different, before⟩
      · cases isWorking
      · have isOther := (alone.held other found before isWorking).1
        exact absurd (Option.some.inj (isOther.symm.trans isHolder)) different
    · rcases List.mem_cons.mp member with rfl | before
      · have promotes := Room.advance_promotes world.began.1 world.began.2
        rw [← completes] at promotes
        exact promotes
      · exact alone.reports report before
  · obtain ⟨isHolder, completes⟩ := alone.held position call here working
    rw [goesOn]
    refine ⟨fun other found there isWorking => ?_, alone.reports⟩
    rcases call_put there with ⟨rfl, rfl⟩ | ⟨different, before⟩
    · exact ⟨isHolder, call.complete_goOn.trans completes⟩
    · have isOther := (alone.held other found before isWorking).1
      exact absurd (Option.some.inj (isOther.symm.trans isHolder)) different
  · exact absurd lapses held

/-- A call at work comes to the end of its pass, if it goes on. -/
theorem ends_of_left (bound : Nat) (world : World) (call : Call)
    (here : world.calls[position]? = some call) (working : call.working = true)
    (bounded : call.left < bound) :
    ∃ count report, (Runs.run step world (List.replicate count (.goOn position))).reports =
      report :: world.reports := by
  induction bound generalizing world call with
  | zero => exact absurd bounded (Nat.not_lt_zero _)
  | succ bound ih =>
      by_cases releasing : ∃ seated, call = .releasing seated
      · obtain ⟨seated, rfl⟩ := releasing
        exact ⟨1, _, congrArg reports (step_release here)⟩
      · have going : ∀ seated, call ≠ .releasing seated := fun seated same =>
          releasing ⟨seated, same⟩
        have goesOn := step_goOn here working going
        have inside : position < world.calls.length := (List.getElem?_eq_some_iff.mp here).1
        have next : (world.step (.goOn position)).calls[position]? =
            some (call.goOn world.room).2 := by
          rw [goesOn]
          exact List.getElem?_set_self inside
        obtain ⟨count, report, reports⟩ := ih _ _ next (call.working_goOn.trans working)
          (Nat.lt_of_lt_of_le (call.left_goOn working going) (Nat.le_of_lt_succ bounded))
        refine ⟨count + 1, report, ?_⟩
        rw [goesOn] at reports
        rw [List.replicate_succ]
        change (Runs.run step (world.step (.goOn position)) _).reports = _
        rw [goesOn]
        exact reports

theorem once_of_synced (room : Room) : ∀ seat ∈ room.occupants, ∀ other ∈ room.occupants,
    ∀ userId, seat.2 = some userId → other.2 = some userId → seat.1 = other.1 := by
  intro seat isSeat other isOther userId sits alsoSits
  obtain ⟨entry, isEntry, rfl⟩ := List.mem_map.mp isSeat
  obtain ⟨second, isSecond, rfl⟩ := List.mem_map.mp isOther
  exact room.seats.synced.loaded.2.tidy.once entry isEntry second isSecond userId sits alsoSits

end World

/-- Nobody sits twice or is promoted without a seat; each call that gets the lock comes to an end,
and if no lock runs out it seats the first in the preview who can be seated. -/
theorem Room.advance_promotes_first (room : Room) (events : List Event) :
    (Runs.run World.step room.opened events).Seated room ∧
      (∀ (position : Nat) (call : Call),
        (Runs.run World.step room.opened events).calls[position]? = some call →
        call.working = true →
        ∃ count report, (Runs.run World.step (Runs.run World.step room.opened events)
          (List.replicate count (.goOn position))).reports =
            report :: (Runs.run World.step room.opened events).reports) ∧
      ((∀ event ∈ events, event ≠ .lapse) →
        ∀ report ∈ (Runs.run World.step room.opened events).reports,
          report.Promotes Room.preview) := by
  have initial : room.opened.Kept room := ⟨.of_alike (Alike.refl room), List.forall_mem_nil _⟩
  have always : Runs.Always World.step (World.Kept room) room.opened events :=
    Runs.always_of_step (fun _ event kept => kept.step event) _ initial _
  refine ⟨⟨World.once_of_synced _, always.final.grows.promoted⟩, ?_, fun held => ?_⟩
  · intro position call here working
    exact World.ends_of_left _ _ call here working (Nat.lt_succ_self _)
  · have atStart : room.opened.Alone := by
      refine ⟨fun position call there => ?_, List.forall_mem_nil _⟩
      cases there
    have alone : Runs.Always World.step World.Alone room.opened events :=
      Runs.always_of_each (fun _ _ alone held => alone.step held) _ atStart _
        (Runs.each_of_forall_mem (fun event member _ => held event member) _)
    exact alone.final.reports

/-! ### Small rooms -/

theorem le_opening : -8640000000000000 ≤ (0 : Int) ∧ (0 : Int) ≤ 8640000000000000 := by decide

def letter (number : Nat) : UserId := String.singleton (Char.ofNat (97 + number))

def asking (number : Nat) : VideoRoomSeatRequest where
  id := number
  userId := letter number
  createdAt := ⟨0, le_opening.1, le_opening.2⟩

theorem numbered_asking (count : Nat) :
    (((List.range count).map asking).map VideoRoomSeatRequest.id).Nodup := by
  rw [List.map_map]
  exact (List.map_id _).symm ▸ List.nodup_range

/-- As many ask for a seat, and the last of them is a member. -/
def crowd (count : Nat) : Room where
  members := [letter (count - 1)]
  seats := ⟨Stages.smallRoom, Stages.created_smallRoom.synced⟩
  queue := .empty
  requests := (List.range count).map asking
  numbered := numbered_asking count

/-- One call after the other. -/
def inTurn : List Event :=
  [.advance 1, .advance 2, .acquire 0, .acquire 1] ++ List.replicate 13 (.goOn 0) ++ [.acquire 1] ++
    List.replicate 12 (.goOn 1)

theorem promotes_inTurn : (∀ event ∈ inTurn, event ≠ .lapse) ∧
    (Runs.run World.step (crowd 2).opened inTurn).reports.map Report.seated = [none, some "b"] ∧
    ∀ report ∈ (Runs.run World.step (crowd 2).opened inTurn).reports,
      report.Promotes Room.preview :=
  ⟨by decide, by decide +kernel,
    (Room.advance_promotes_first (crowd 2) inTurn).2.2 (by decide)⟩

/-- Twenty who ask for the seat have left. -/
def longQueue : List Event :=
  [.advance 1, .acquire 0] ++ List.replicate 84 (.goOn 0)

/-- The lock of the first call runs out before it seats its candidate. -/
def lapsing : List Event :=
  [.advance 1, .acquire 0, .goOn 0, .goOn 0, .goOn 0, .lapse, .advance 2, .acquire 1] ++
    List.replicate 3 (.goOn 1) ++ List.replicate 5 (.goOn 0) ++ List.replicate 5 (.goOn 1)

theorem nonempty_longQueue :
    (Runs.run World.step (crowd 21).opened longQueue).reports ≠ [] := by decide +kernel

theorem nonempty_lapsing :
    (Runs.run World.step (crowd 1).opened lapsing).reports ≠ [] := by decide +kernel

/-- The end of a long queue is not reached, and who is already seated is queued again. -/
theorem not_promotes_first :
    ¬(∀ (room : Room) (events : List Event), (∀ event ∈ events, event ≠ .lapse) →
        ∀ report ∈ (Runs.run World.step room.opened events).reports,
          report.Promotes fun room => room.queue.members ()) ∧
      ¬(∀ (room : Room) (events : List Event),
        ∀ report ∈ (Runs.run World.step room.opened events).reports,
          report.Promotes Room.preview) := by
  constructor
  · intro promotes
    have first := (promotes (crowd 21) longQueue (by decide) _
      (List.head_mem nonempty_longQueue)).first
    revert first
    decide +kernel
  · intro promotes
    have first := (promotes (crowd 1) lapsing _ (List.head_mem nonempty_lapsing)).first
    revert first
    decide +kernel

end Soulzaa.VideoRooms.SeatQueue
