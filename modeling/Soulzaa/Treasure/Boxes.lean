/-
Treasure boxes: the rows of a ladder, its configuration and the statements on them.

A session of a room has one box a level.  A statement that the database refuses, a
key that is taken or a row that is not there, throws, and the call throws with it.
-/

import Soulzaa.Lib.KeyedRows
import Soulzaa.Lib.Runs
import Soulzaa.Lib.UniqueTable
import Soulzaa.Wallet.Types

namespace Soulzaa.Treasure

abbrev RoomId := String
abbrev SessionId := Nat
abbrev GiftTxnId := Nat

/-- A box is identified by its session and its level. -/
abbrev BoxId := SessionId × Nat

def treasureBoxCount : Nat := 5

inductive TreasureSessionStatus where
  | active
  | completed
  | cancelled
  | draft
  | paused
  | closed
  | archived
  deriving DecidableEq, Repr

inductive TreasureBoxStatus where
  | pending
  | active
  | opened
  | unlocking
  deriving DecidableEq, Repr

/-- As the request class admits it. -/
structure TreasureBoxConfig where
  level : Nat
  threshold : Int
  enabled : Bool := true
  inRange : 1 ≤ level ∧ level ≤ treasureBoxCount
  positive : 1 ≤ threshold
  deriving DecidableEq

structure TreasureSession where
  id : SessionId
  roomId : RoomId
  status : TreasureSessionStatus := .active
  currentLevel : Nat := 1
  /-- Milliseconds. -/
  createdAt : Nat
  deriving DecidableEq, Repr

structure TreasureBox where
  sessionId : SessionId
  level : Nat
  threshold : Int
  progress : Int := 0
  status : TreasureBoxStatus := .pending
  deriving DecidableEq, Repr

def TreasureBox.id (box : TreasureBox) : BoxId := (box.sessionId, box.level)

/-- The session of the row is the one of its box. -/
structure TreasureContribution where
  boxId : BoxId
  userId : UserId
  amount : Int
  giftTxnId : Option GiftTxnId
  deriving DecidableEq, Repr

structure Tables where
  configs : UniqueTable TreasureBoxConfig.level
  sessions : List TreasureSession := []
  boxes : List TreasureBox := []
  contributions : List TreasureContribution := []
  /-- Milliseconds. -/
  now : Nat

/-! ### The days -/

def millisecondsPerDay : Nat := 24 * 60 * 60 * 1000

/-- `setUTCHours(0, 0, 0, 0)`. -/
def dayStart (time : Nat) : Nat := time / millisecondsPerDay * millisecondsPerDay

theorem dayStart_mono {earlier later : Nat} (ordered : earlier ≤ later) :
    dayStart earlier ≤ dayStart later :=
  Nat.mul_le_mul_right _ (Nat.div_le_div_right ordered)

namespace Tables

def todayStart (tables : Tables) : Nat := dayStart tables.now

/-! ### Sessions -/

def findSession (tables : Tables) (id : SessionId) : Option TreasureSession :=
  KeyedRows.find TreasureSession.id id tables.sessions

def getActiveSession (tables : Tables) (roomId : RoomId) : Option TreasureSession :=
  tables.sessions.find? fun session => session.roomId = roomId ∧ session.status = .active

def completedSince (tables : Tables) (roomId : RoomId) (date : Nat) : Option TreasureSession :=
  tables.sessions.find? fun session =>
    session.roomId = roomId ∧ session.status = .completed ∧ date ≤ session.createdAt

def newSession (tables : Tables) (roomId : RoomId) : TreasureSession :=
  { id := tables.sessions.length
    roomId := roomId
    createdAt := tables.now }

def createSession (tables : Tables) (session : TreasureSession) : Tables :=
  { tables with sessions := tables.sessions ++ [session] }

def changeSession (tables : Tables) (id : SessionId) (change : TreasureSession → TreasureSession) :
    Tables :=
  { tables with sessions := KeyedRows.update TreasureSession.id id change tables.sessions }

def updateSession (tables : Tables) (id : SessionId) (change : TreasureSession → TreasureSession) :
    Option Tables :=
  if (tables.findSession id).isSome then some (tables.changeSession id change) else none

/-! ### Boxes -/

def findBox (tables : Tables) (id : BoxId) : Option TreasureBox :=
  KeyedRows.find TreasureBox.id id tables.boxes

def addBox (tables : Tables) (box : TreasureBox) : Tables :=
  { tables with boxes := tables.boxes ++ [box] }

def createBox (tables : Tables) (box : TreasureBox) : Option Tables :=
  if (tables.findBox box.id).isSome then none else some (tables.addBox box)

def changeBox (tables : Tables) (id : BoxId) (change : TreasureBox → TreasureBox) : Tables :=
  { tables with boxes := KeyedRows.update TreasureBox.id id change tables.boxes }

def updateBox (tables : Tables) (id : BoxId) (change : TreasureBox → TreasureBox) :
    Option Tables :=
  if (tables.findBox id).isSome then some (tables.changeBox id change) else none

/-! ### Contributions -/

def addContribution (tables : Tables) (contribution : TreasureContribution) : Tables :=
  { tables with contributions := tables.contributions ++ [contribution] }

/-- The contribution that records the gift already. -/
def existingTx (tables : Tables) (giftTxnId : GiftTxnId) : Option TreasureContribution :=
  tables.contributions.find? fun contribution => contribution.giftTxnId = some giftTxnId

/-- The progress of all boxes of the session. -/
def progressOf (tables : Tables) (sessionId : SessionId) : Int :=
  (tables.boxes.map fun box => if box.sessionId = sessionId then box.progress else 0).sum

end Tables

def TreasureSession.withStatus (status : TreasureSessionStatus) (session : TreasureSession) :
    TreasureSession :=
  { session with status := status }

def TreasureSession.atLevel (level : Nat) (session : TreasureSession) : TreasureSession :=
  { session with currentLevel := level }

def TreasureBox.activated (box : TreasureBox) : TreasureBox :=
  { box with status := .active }

def TreasureBox.withProgress (progress : Int) (status : TreasureBoxStatus) (box : TreasureBox) :
    TreasureBox :=
  { box with
    progress := progress
    status := status }

/-! ### What a statement leaves -/

namespace Tables

variable {tables : Tables} {id other : BoxId} {box : TreasureBox}
  {change : TreasureBox → TreasureBox}

theorem updateBox_of_found (found : tables.findBox id = some box) :
    tables.updateBox id change = some (tables.changeBox id change) := by
  unfold updateBox
  rw [found, Option.isSome_some, if_pos rfl]

theorem createBox_of_absent (absent : tables.findBox box.id = none) :
    tables.createBox box = some (tables.addBox box) := by
  unfold createBox
  rw [absent, Option.isSome_none, if_neg Bool.false_ne_true]

theorem updateSession_of_found {id : SessionId} {session : TreasureSession}
    {change : TreasureSession → TreasureSession} (found : tables.findSession id = some session) :
    tables.updateSession id change = some (tables.changeSession id change) := by
  unfold updateSession
  rw [found, Option.isSome_some, if_pos rfl]

theorem getActiveSession_eq_some {roomId : RoomId} {session : TreasureSession}
    (found : tables.getActiveSession roomId = some session) :
    session ∈ tables.sessions ∧ session.roomId = roomId ∧ session.status = .active := by
  unfold getActiveSession at found
  have matched := List.find?_some found
  exact ⟨List.mem_of_find?_eq_some found, of_decide_eq_true matched⟩

theorem key_of_findBox (found : tables.findBox id = some box) : box.id = id :=
  KeyedRows.key_of_find found

@[simp] theorem findBox_addContribution (contribution : TreasureContribution) :
    (tables.addContribution contribution).findBox id = tables.findBox id := rfl

@[simp] theorem findSession_changeBox (sessionId : SessionId) :
    (tables.changeBox id change).findSession sessionId = tables.findSession sessionId := rfl

@[simp] theorem findSession_addContribution (contribution : TreasureContribution)
    (sessionId : SessionId) :
    (tables.addContribution contribution).findSession sessionId =
      tables.findSession sessionId := rfl

theorem findBox_changeBox (keeps : KeyedRows.KeepsKey TreasureBox.id change) :
    (tables.changeBox id change).findBox other =
      if other = id then (tables.findBox other).map change else tables.findBox other :=
  KeyedRows.find_update_eq_ite keeps

theorem findBox_addBox (absent : tables.findBox box.id = none) :
    (tables.addBox box).findBox other =
      if other = box.id then some box else tables.findBox other := by
  unfold findBox addBox at *
  rw [KeyedRows.find_concat]
  by_cases same : other = box.id
  · rw [if_pos same, if_pos same.symm, same, absent, Option.none_or]
  · rw [if_neg same, if_neg (Ne.symm same), Option.or_none]

theorem findSession_changeSession {sessionId other : SessionId}
    {change : TreasureSession → TreasureSession}
    (keeps : KeyedRows.KeepsKey TreasureSession.id change) :
    (tables.changeSession sessionId change).findSession other =
      if other = sessionId then (tables.findSession other).map change
      else tables.findSession other :=
  KeyedRows.find_update_eq_ite keeps

theorem changeBox_congr {second : TreasureBox → TreasureBox}
    (distinct : (tables.boxes.map TreasureBox.id).Nodup) (found : tables.findBox id = some box)
    (agree : change box = second box) : tables.changeBox id change = tables.changeBox id second := by
  unfold changeBox
  rw [KeyedRows.update_congr distinct found agree]

theorem changeBox_changeBox {second : TreasureBox → TreasureBox}
    (keeps : KeyedRows.KeepsKey TreasureBox.id change) :
    (tables.changeBox id change).changeBox id second = tables.changeBox id (second ∘ change) := by
  unfold changeBox
  rw [KeyedRows.update_update keeps]

theorem isSome_findBox_changeBox (keeps : KeyedRows.KeepsKey TreasureBox.id change) :
    ((tables.changeBox id change).findBox other).isSome = (tables.findBox other).isSome := by
  rw [findBox_changeBox keeps]
  split
  · rw [Option.isSome_map]
  · rfl

theorem progressOf_addBox (tables : Tables) (empty : box.progress = 0) (sessionId : SessionId) :
    (tables.addBox box).progressOf sessionId = tables.progressOf sessionId := by
  unfold progressOf addBox
  rw [List.map_append, List.sum_append, List.map_singleton, List.sum_singleton, empty, ite_self,
    add_zero]

theorem progressOf_changeBox (distinct : (tables.boxes.map TreasureBox.id).Nodup)
    (keeps : KeyedRows.KeepsKey TreasureBox.id change) (found : tables.findBox id = some box) :
    (tables.changeBox id change).progressOf id.1 =
      tables.progressOf id.1 + ((change box).progress - box.progress) := by
  have isFor := key_of_findBox found
  have own : box.sessionId = id.1 := congrArg Prod.fst isFor
  have ownAfter : (change box).sessionId = id.1 :=
    (congrArg Prod.fst (keeps box)).trans own
  unfold progressOf changeBox
  apply KeyedRows.sum_update _ _ distinct found
  rw [if_pos own, if_pos ownAfter]
  omega

end Tables

/-! ### Configuration -/

namespace TreasureConfigurationService

def prdBoxThresholds : Nat → Option Int
  | 1 => some 15000
  | 2 => some 60000
  | 3 => some 120000
  | 4 => some 300000
  | 5 => some 500000
  | _ => none

def getLevelThreshold (tables : Tables) (level : Nat) : Int :=
  match tables.configs.find? level with
  | some config => if config.threshold ≠ 0 then config.threshold else
      (prdBoxThresholds level).getD 15000
  | none => (prdBoxThresholds level).getD 15000

/-- The enabled rows, by level. -/
def listEnabledConfigs (tables : Tables) : List TreasureBoxConfig :=
  (tables.configs.rows.filter TreasureBoxConfig.enabled).mergeSort
    fun first second => first.level ≤ second.level

/-- The level and the threshold of each box of a new ladder. -/
def getAllLevelConfigs (tables : Tables) : List (Nat × Int) :=
  let configs := listEnabledConfigs tables
  if 0 < configs.length then configs.map fun config => (config.level, config.threshold)
  else
    [1, 2, 3, 4, 5].filterMap fun level =>
      (prdBoxThresholds level).map fun threshold => (level, threshold)

end TreasureConfigurationService

end Soulzaa.Treasure
