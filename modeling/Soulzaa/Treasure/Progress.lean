/-
TreasureProgressService.applyGiftProgress.

A gift fills the box of the current level and spills into the next ones.  Of what is
left after the fifth box nothing is applied: it is reported as the refund.
-/

import Soulzaa.Treasure.Boxes

namespace Soulzaa.Treasure

open TreasureConfigurationService Tables

/-! ### TreasureBoxService -/

/-- A box of a new session. -/
def initialBox (sessionId : SessionId) (level : Nat) (threshold : Int) : TreasureBox :=
  { sessionId := sessionId
    level := level
    threshold := threshold
    status := if level = 1 then .active else .pending }

/-- The boxes of a new session; a taken key throws. -/
def createBoxes (tables : Tables) (sessionId : SessionId) :
    List (Nat × Int) → Option Tables
  | [] => some tables
  | (level, threshold) :: rest =>
      match tables.createBox (initialBox sessionId level threshold) with
      | none => none
      | some created => createBoxes created sessionId rest

namespace TreasureBoxService

/-- The session, or `none` where today's is completed. -/
def getOrCreateActiveSession (tables : Tables) (roomId : RoomId) :
    Option (Tables × Option TreasureSession) :=
  match tables.getActiveSession roomId with
  | some session => some (tables, some session)
  | none =>
      match tables.completedSince roomId tables.todayStart with
      | some _ => some (tables, none)
      | none =>
          let session := tables.newSession roomId
          match createBoxes (tables.createSession session) session.id
            (getAllLevelConfigs tables) with
          | none => none
          | some created => some (created, some session)

end TreasureBoxService

/-! ### The loop -/

/-- What a gift asks to apply. -/
structure GiftProgress where
  roomId : RoomId
  userId : UserId
  amount : Int
  giftTxnId : Option GiftTxnId := none
  countsTowardRanking : Bool := true
  deriving DecidableEq, Repr

structure CompletedBox where
  boxId : BoxId
  threshold : Int
  finalProgress : Int
  deriving DecidableEq, Repr

structure ActiveBox where
  boxId : BoxId
  progress : Int
  threshold : Int
  deriving DecidableEq, Repr

structure ProgressResult where
  sessionId : Option SessionId
  roomId : RoomId
  appliedAmount : Int := 0
  refundAmount : Int := 0
  completedBoxes : List CompletedBox := []
  activeBox : Option ActiveBox := none
  sessionCompleted : Bool := false
  deriving DecidableEq, Repr

/-- The variables of the loop. -/
structure Filling where
  tables : Tables
  currentLevel : Nat
  remainingContribution : Int
  completedBoxes : List CompletedBox := []
  sessionCompleted : Bool := false
  refundAmount : Int := 0

/-- The record of a missing box, as both creations write it. -/
def newBox (tables : Tables) (sessionId : SessionId) (level : Nat) : TreasureBox :=
  { sessionId := sessionId
    level := level
    threshold := getLevelThreshold tables level
    status := .active }

/-- The box at a level, created where it is missing. -/
def boxAt (tables : Tables) (sessionId : SessionId) (level : Nat) :
    Option (Tables × TreasureBox) :=
  match tables.findBox (sessionId, level) with
  | some box => some (tables, box)
  | none =>
      let box := newBox tables sessionId level
      (tables.createBox box).map fun created => (created, box)

/-- Ranking only: without it the box still fills. -/
def recordContribution (tables : Tables) (gift : GiftProgress) (boxId : BoxId) (amount : Int) :
    Tables :=
  if gift.countsTowardRanking then
    tables.addContribution
      { boxId := boxId
        userId := gift.userId
        amount := amount
        giftTxnId := gift.giftTxnId }
  else tables

/-- The next box, created or made active. -/
def unlock (tables : Tables) (sessionId : SessionId) (level : Nat) : Option Tables :=
  match tables.findBox (sessionId, level) with
  | some _ => tables.updateBox (sessionId, level) TreasureBox.activated
  | none => tables.createBox (newBox tables sessionId level)

/-- Once a box is full: the session is complete, or the next box is unlocked. -/
def advance (sessionId : SessionId) (filling : Filling) : Option Filling :=
  if treasureBoxCount < filling.currentLevel then
    (filling.tables.updateSession sessionId (TreasureSession.withStatus .completed)).map
      fun completed =>
        { filling with
          tables := completed
          sessionCompleted := true
          refundAmount :=
            if 0 < filling.remainingContribution then filling.remainingContribution
            else filling.refundAmount
          remainingContribution :=
            if 0 < filling.remainingContribution then 0 else filling.remainingContribution }
  else
    match unlock filling.tables sessionId filling.currentLevel with
    | none => none
    | some unlocked =>
        (unlocked.updateSession sessionId (TreasureSession.atLevel filling.currentLevel)).map
          fun leveled => { filling with tables := leveled }

/-- One round of the loop. -/
def fillBox (sessionId : SessionId) (gift : GiftProgress) (filling : Filling) :
    Option Filling :=
  match boxAt filling.tables sessionId filling.currentLevel with
  | none => none
  | some (tables, box) =>
      let needed := box.threshold - box.progress
      if needed ≤ filling.remainingContribution then
        match tables.updateBox box.id (TreasureBox.withProgress box.threshold .opened) with
        | none => none
        | some opened =>
            advance sessionId
              { filling with
                tables :=
                  if 0 < needed then recordContribution opened gift box.id needed else opened
                currentLevel := filling.currentLevel + 1
                remainingContribution := filling.remainingContribution - needed
                completedBoxes := filling.completedBoxes ++
                  [{ boxId := box.id
                     threshold := box.threshold
                     finalProgress := box.threshold }] }
      else
        (tables.updateBox box.id
          (TreasureBox.withProgress (box.progress + filling.remainingContribution) .active)).map
          fun filled =>
            { filling with
              tables := recordContribution filled gift box.id filling.remainingContribution
              remainingContribution := 0 }

def Filling.goesOn (filling : Filling) : Bool :=
  0 < filling.remainingContribution ∧ filling.currentLevel ≤ treasureBoxCount

/-- The loop, given up after `fuel` rounds.  The `break` of a completed session is
the loop's own end, past the last level. -/
def fillBoxes (sessionId : SessionId) (gift : GiftProgress) : Nat → Filling → Option Filling
  | fuel, filling =>
      if filling.goesOn then
        match fuel with
        | 0 => none
        | fuel + 1 =>
            match fillBox sessionId gift filling with
            | none => none
            | some next => fillBoxes sessionId gift fuel next
      else some filling

namespace TreasureProgressService

def noProgress (roomId : RoomId) (sessionId : Option SessionId) : ProgressResult :=
  { sessionId := sessionId
    roomId := roomId }

def activeBox (filling : Filling) (sessionId : SessionId) : Option ActiveBox :=
  if ¬filling.sessionCompleted ∧ filling.currentLevel ≤ treasureBoxCount then
    (filling.tables.findBox (sessionId, filling.currentLevel)).map fun box =>
      { boxId := box.id
        progress := box.progress
        threshold := box.threshold }
  else none

def progressResult (gift : GiftProgress) (sessionId : SessionId) (filling : Filling) :
    ProgressResult :=
  { sessionId := some sessionId
    roomId := gift.roomId
    appliedAmount := gift.amount - filling.refundAmount
    refundAmount := filling.refundAmount
    completedBoxes := filling.completedBoxes
    activeBox := activeBox filling sessionId
    sessionCompleted := filling.sessionCompleted }

/-- Under the lock, with a session. -/
def fillSession (fuel : Nat) (tables : Tables) (session : TreasureSession) (gift : GiftProgress) :
    Option (Tables × ProgressResult) :=
  let start : Filling :=
    { tables := tables
      currentLevel := session.currentLevel
      remainingContribution := gift.amount }
  (fillBoxes session.id gift fuel start).map fun filling =>
    (filling.tables, progressResult gift session.id filling)

/-- A call that throws, or that is given up, has no result. -/
def applyGiftProgress (fuel : Nat) (tables : Tables) (gift : GiftProgress) :
    Option (Tables × ProgressResult) :=
  if gift.amount ≤ 0 then none
  else
    match gift.giftTxnId.bind tables.existingTx with
    | some existingTx => some (tables, noProgress gift.roomId (some existingTx.boxId.1))
    | none =>
        match tables.completedSince gift.roomId tables.todayStart with
        | some completedToday => some (tables, noProgress gift.roomId (some completedToday.id))
        | none =>
            match TreasureBoxService.getOrCreateActiveSession tables gift.roomId with
            | none => none
            | some (tables, none) => some (tables, noProgress gift.roomId none)
            | some (tables, some session) => fillSession fuel tables session gift

end TreasureProgressService

end Soulzaa.Treasure
