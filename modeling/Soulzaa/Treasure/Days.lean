/-
The sessions of one room, as the calls that create and finish them find them.

A call stands wherever its last await has left it.  Starting the day, applying a gift
and sending one hold the lock of the room; the status of the room and its reset hold
none.  What a gift writes in its transaction is seen by others once it is committed,
and until then its rows are locked.
-/

import Soulzaa.Lib.Interleaving
import Soulzaa.Treasure.Boxes

namespace Soulzaa.Treasure.Days

open Interleaving

/-- A session, as far as its day goes. -/
structure SessionRow where
  id : SessionId
  status : TreasureSessionStatus := .active
  /-- Milliseconds. -/
  createdAt : Nat
  deriving DecidableEq, Repr

/-- What a gift put into the boxes of a session; the gift came in on the day. -/
structure Application where
  sessionId : SessionId
  day : Nat
  deriving DecidableEq, Repr

structure Store where
  sessions : List SessionRow := []
  applications : List Application := []
  /-- Milliseconds. -/
  now : Nat
  deriving DecidableEq, Repr

namespace Store

def todayStart (store : Store) : Nat := dayStart store.now

def getActive (store : Store) : Option SessionRow :=
  store.sessions.find? fun row => row.status = .active

def completedSince (store : Store) (date : Nat) : Option SessionRow :=
  store.sessions.find? fun row => row.status = .completed ∧ date ≤ row.createdAt

def findSession (store : Store) (id : SessionId) : Option SessionRow :=
  KeyedRows.find SessionRow.id id store.sessions

def finishSession (store : Store) (id : SessionId) (status : TreasureSessionStatus) : Store :=
  { store with
    sessions :=
      KeyedRows.update SessionRow.id id (fun row => { row with status := status }) store.sessions }

def createSession (store : Store) (status : TreasureSessionStatus) (createdAt : Nat) : Store :=
  { store with
    sessions := store.sessions ++
      [{ id := store.sessions.length
         status := status
         createdAt := createdAt }] }

def apply (store : Store) (sessionId : SessionId) (day : Nat) : Store :=
  { store with
    applications := store.applications ++
      [{ sessionId := sessionId
         day := day }] }

end Store

/-! ### Calls -/

/-- Who asks for the active session. -/
inductive Caller where
  | gift (day : Nat)
  | status
  | reset
  deriving DecidableEq, Repr

/-- Who finishes the active sessions. -/
inductive Sweep where
  | resetRoomTreasure
  | archiveStaleActiveSessions
  deriving DecidableEq, Repr

/-- The session that a gift goes to. -/
inductive Target where
  | existing (sessionId : SessionId)
  /-- Created in the transaction, which finished the stale one. -/
  | opened (stale : Option SessionId) (createdAt : Nat)
  deriving DecidableEq, Repr

/-- What a gift has written in its transaction, once it has a session. -/
structure Work where
  todayStart : Nat
  target : Target
  poured : Bool := false
  advanced : Bool := false
  completed : Bool := false
  deriving DecidableEq, Repr

inductive LockKey where
  | room
  /-- Until the end of the transaction that writes it. -/
  | row (sessionId : SessionId)
  deriving DecidableEq, Repr

/-- What a call awaits. -/
inductive SessionCall where
  -- `autoStartTodaySession`
  | autoStarting
  | rejoining (todayStart : Nat)
  | rollingOver (todayStart : Nat) (stale : SessionId)
  | checkingStarted (todayStart : Nat)
  | readingConfigs
  | startingToday
  -- `applyGiftProgress`, up to the session
  | applyingGift
  | deduplicating
  | checkingEvent (day : Nat)
  -- `getOrCreateActiveSession`
  | finding (caller : Caller) (todayStart : Nat)
  | checkingCompleted (caller : Caller) (todayStart : Nat)
  | creating (caller : Caller)
  -- `applyGiftProgress`, with its session
  | filling (day : Nat) (sessionId : SessionId)
  | leveling (day : Nat) (sessionId : SessionId)
  -- `processTreasureContribution`
  | sendingGift
  | deduplicatingSend
  | looking (todayStart : Nat)
  | retiring (todayStart : Nat) (stale : SessionId)
  | checkingToday (todayStart : Nat) (stale : Option SessionId)
  | readingEnabled (todayStart : Nat) (stale : Option SessionId)
  | opening (todayStart : Nat) (stale : Option SessionId)
  | settling (stale : Option SessionId)
  | contributing (work : Work)
  | advancing (work : Work)
  | committing (work : Work)
  -- `resetRoomTreasure` and the job of midnight
  | collecting (sweep : Sweep)
  | archiving (sweep : Sweep) (sessionId : SessionId) (rest : List SessionId)
  | ended
  deriving DecidableEq, Repr

/-- What the awaited call comes back with, as far as it does not follow from the sessions. -/
structure Reply where
  fails : Bool := false
  /-- A contribution of the gift is there already. -/
  recorded : Bool := false
  /-- All five levels are configured. -/
  configured : Bool := true
  /-- The box is full now. -/
  opens : Bool := false
  /-- It was the last one. -/
  last : Bool := false
  /-- Something is left for the next box. -/
  remains : Bool := false
  deriving DecidableEq, Repr

/-- The room, and the row of the session that was finished. -/
def settlingLocks (stale : Option SessionId) : List LockKey :=
  .room :: stale.toList.map .row

/-- The commit of a gift without a session of today. -/
def Store.settle (store : Store) : Option SessionId → Store
  | some stale => store.finishSession stale .completed
  | none => store

namespace Work

def locks (work : Work) : List LockKey :=
  match work.target with
  | .existing sessionId => if work.advanced then [.room, .row sessionId] else [.room]
  | .opened stale _ => settlingLocks stale

/-- The row that the transaction is to write next. -/
def awaits (work : Work) : Option LockKey :=
  match work.target with
  | .existing sessionId => if work.advanced then none else some (.row sessionId)
  | .opened _ _ => none

/-- The session as the transaction reads it again; its own one is active there. -/
def freshIsActive (work : Work) (store : Store) : Bool :=
  match work.target with
  | .existing sessionId =>
      (store.findSession sessionId).any fun session => session.status = .active
  | .opened _ _ => true

def pour (work : Work) (sessionId : SessionId) (store : Store) : Store :=
  if work.poured then store.apply sessionId work.todayStart else store

/-- The commit, all at once. -/
def commit (work : Work) (store : Store) : Store :=
  match work.target with
  | .existing sessionId =>
      work.pour sessionId
        (if work.completed then store.finishSession sessionId .completed else store)
  | .opened stale createdAt =>
      work.pour store.sessions.length
        ((store.settle stale).createSession (if work.completed then .completed else .active)
          createdAt)

end Work

namespace SessionCall

def locks : SessionCall → List LockKey
  | .rejoining _ => [.room]
  | .rollingOver _ _ => [.room]
  | .checkingStarted _ => [.room]
  | .readingConfigs => [.room]
  | .startingToday => [.room]
  | .deduplicating => [.room]
  | .checkingEvent _ => [.room]
  | .finding (.gift _) _ => [.room]
  | .checkingCompleted (.gift _) _ => [.room]
  | .creating (.gift _) => [.room]
  | .filling _ _ => [.room]
  | .leveling _ _ => [.room]
  | .deduplicatingSend => [.room]
  | .looking _ => [.room]
  | .retiring _ _ => [.room]
  | .checkingToday _ stale => settlingLocks stale
  | .readingEnabled _ stale => settlingLocks stale
  | .opening _ stale => settlingLocks stale
  | .settling stale => settlingLocks stale
  | .contributing work => work.locks
  | .advancing work => work.locks
  | .committing work => work.locks
  | _ => []

/-- The lock that a call waits for. -/
def awaits : SessionCall → Option LockKey
  | .autoStarting => some .room
  | .applyingGift => some .room
  | .sendingGift => some .room
  | .rollingOver _ stale => some (.row stale)
  | .leveling _ sessionId => some (.row sessionId)
  | .retiring _ stale => some (.row stale)
  | .advancing work => work.awaits
  | .archiving _ sessionId _ => some (.row sessionId)
  | _ => none

end SessionCall

/-- The session goes to the one who asked for it. -/
def Caller.takes (sessionId : SessionId) : Caller → SessionCall
  | .gift day => .filling day sessionId
  | .status => .ended
  | .reset => .ended

def Sweep.status : Sweep → TreasureSessionStatus
  | .resetRoomTreasure => .archived
  | .archiveStaleActiveSessions => .completed

def Sweep.collects (store : Store) : Sweep → List SessionId
  | .resetRoomTreasure =>
      (store.sessions.filter fun row => row.status = .active).map SessionRow.id
  | .archiveStaleActiveSessions =>
      (store.sessions.filter fun row =>
        row.status = .active ∧ row.createdAt < store.todayStart).map SessionRow.id

def Sweep.next (store : Store) (sweep : Sweep) : List SessionId → SessionCall
  | [] =>
      match sweep with
      | .resetRoomTreasure => .finding .reset store.todayStart
      | .archiveStaleActiveSessions => .ended
  | sessionId :: rest => .archiving sweep sessionId rest

namespace SessionCall

/-- A call goes on once what it awaits has come back, or once it has its lock. -/
def advance (reply : Reply) (store : Store) : SessionCall → Store × SessionCall
  | .autoStarting => (store, .rejoining store.todayStart)
  | .rejoining todayStart =>
      (store,
        match store.getActive with
        | some session =>
            if todayStart ≤ session.createdAt then .ended else .rollingOver todayStart session.id
        | none => .checkingStarted todayStart)
  | .rollingOver todayStart stale =>
      (store.finishSession stale .completed, .checkingStarted todayStart)
  | .checkingStarted todayStart =>
      (store, if (store.completedSince todayStart).isSome then .ended else .readingConfigs)
  | .readingConfigs => (store, if reply.configured then .startingToday else .ended)
  | .startingToday => (store.createSession .active store.now, .ended)
  | .applyingGift => (store, .deduplicating)
  | .deduplicating =>
      (store, if reply.recorded then .ended else .checkingEvent store.todayStart)
  | .checkingEvent day =>
      (store,
        if (store.completedSince day).isSome then .ended
        else .finding (.gift day) store.todayStart)
  | .finding caller todayStart =>
      (store,
        match store.getActive with
        | some session => caller.takes session.id
        | none => .checkingCompleted caller todayStart)
  | .checkingCompleted caller todayStart =>
      (store, if (store.completedSince todayStart).isSome then .ended else .creating caller)
  | .creating caller =>
      (store.createSession .active store.now, caller.takes store.sessions.length)
  | .filling day sessionId =>
      (store.apply sessionId day, if reply.opens then .leveling day sessionId else .ended)
  | .leveling day sessionId =>
      if reply.last then (store.finishSession sessionId .completed, .ended)
      else (store, if reply.remains then .filling day sessionId else .ended)
  | .sendingGift => (store, .deduplicatingSend)
  | .deduplicatingSend => (store, if reply.recorded then .ended else .looking store.todayStart)
  | .looking todayStart =>
      (store,
        match store.getActive with
        | some session =>
            if session.createdAt < todayStart then .retiring todayStart session.id
            else
              .contributing
                { todayStart := todayStart
                  target := .existing session.id }
        | none => .checkingToday todayStart none)
  | .retiring todayStart stale => (store, .checkingToday todayStart (some stale))
  | .checkingToday todayStart stale =>
      (store,
        if (store.completedSince todayStart).isSome then .settling stale
        else .readingEnabled todayStart stale)
  | .readingEnabled todayStart stale =>
      (store, if reply.configured then .opening todayStart stale else .settling stale)
  | .opening todayStart stale =>
      (store,
        .contributing
          { todayStart := todayStart
            target := .opened stale store.now })
  | .settling stale => (store.settle stale, .ended)
  | .contributing work =>
      (store,
        if work.freshIsActive store then
          if reply.opens then .advancing { work with poured := true }
          else .committing { work with poured := true }
        else .committing work)
  | .advancing work =>
      let work :=
        { work with
          advanced := true
          completed := reply.last }
      (store,
        if reply.last = false ∧ reply.remains = true then .contributing work
        else .committing work)
  | .committing work => (work.commit store, .ended)
  | .collecting sweep => (store, sweep.next store (sweep.collects store))
  | .archiving sweep sessionId rest =>
      (store.finishSession sessionId sweep.status, sweep.next store rest)
  | .ended => (store, .ended)

end SessionCall

/-- The sessions of the room and the calls under way. -/
structure Room where
  store : Store
  calls : List SessionCall := []

inductive RoomEvent where
  | autoStartTodaySession
  | applyGiftProgress
  | processTreasureContribution
  | getRoomStatus
  | resetRoomTreasure
  | archiveStaleActiveSessions
  | resume (position : Nat) (reply : Reply)
  | pass (milliseconds : Nat)
  deriving DecidableEq, Repr

namespace Room

def spawn (room : Room) (call : SessionCall) : Room :=
  { room with calls := room.calls ++ [call] }

/-- The lock that the call waits for is held. -/
def Blocked (room : Room) (call : SessionCall) : Prop :=
  ∃ key ∈ call.awaits, ¬Free SessionCall.locks room.calls key

instance (room : Room) (call : SessionCall) : Decidable (room.Blocked call) :=
  inferInstanceAs (Decidable (∃ key ∈ call.awaits, _))

/-- A call that fails ends, and its transaction with it. -/
def resume (room : Room) (position : Nat) (reply : Reply) (call : SessionCall) : Room :=
  if reply.fails then { room with calls := room.calls.set position .ended }
  else if room.Blocked call then room
  else
    { store := (call.advance reply room.store).1
      calls := room.calls.set position (call.advance reply room.store).2 }

def step (room : Room) : RoomEvent → Room
  | .autoStartTodaySession => room.spawn .autoStarting
  | .applyGiftProgress => room.spawn .applyingGift
  | .processTreasureContribution => room.spawn .sendingGift
  | .getRoomStatus => room.spawn (.finding .status room.store.todayStart)
  | .resetRoomTreasure => room.spawn (.collecting .resetRoomTreasure)
  | .archiveStaleActiveSessions => room.spawn (.collecting .archiveStaleActiveSessions)
  | .resume position reply =>
      match room.calls[position]? with
      | none => room
      | some call => room.resume position reply call
  | .pass milliseconds =>
      { room with store := { room.store with now := room.store.now + milliseconds } }

end Room

end Soulzaa.Treasure.Days
