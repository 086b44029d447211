/-
TreasureService.processTreasureContribution and TreasureService.handleContribution.

The first runs inside the transaction of a gift and refunds what the ladder does not
take; the second fills the ladder under the session's lock and drops the rest.
-/

import Soulzaa.Treasure.Progress
import Soulzaa.Wallet.Movement

namespace Soulzaa.Treasure

open TreasureConfigurationService Tables

def TreasureBox.incremented (amount : Int) (box : TreasureBox) : TreasureBox :=
  { box with progress := box.progress + amount }

def TreasureBox.withStatus (status : TreasureBoxStatus) (box : TreasureBox) : TreasureBox :=
  { box with status := status }

def GiftProgress.contribution (gift : GiftProgress) (boxId : BoxId) (amount : Int) :
    TreasureContribution :=
  { boxId := boxId
    userId := gift.userId
    amount := amount
    giftTxnId := gift.giftTxnId }

namespace TreasureService

/-- The levels of a new ladder; a level without configuration throws. -/
def fullLadder (configs : List TreasureBoxConfig) : Option (List (Nat × Int)) :=
  ((List.range treasureBoxCount).map Nat.succ).mapM fun level =>
    (configs.find? fun config => config.level = level).map fun config => (level, config.threshold)

/-- The session the transaction works on; one of an earlier day is finished first. -/
def sessionOfToday (tables : Tables) (roomId : RoomId) :
    Option (Tables × Option TreasureSession) :=
  match tables.getActiveSession roomId with
  | some session =>
      if session.createdAt < tables.todayStart then
        (tables.updateSession session.id (TreasureSession.withStatus .completed)).map
          fun finished => (finished, none)
      else some (tables, some session)
  | none => some (tables, none)

/-- The session started for the first gift of the day. -/
def autoStart (tables : Tables) (roomId : RoomId) : Option (Tables × Option TreasureSession) :=
  match tables.completedSince roomId tables.todayStart with
  | some _ => some (tables, none)
  | none =>
      let configs := listEnabledConfigs tables
      if treasureBoxCount ≤ configs.length then
        let session := tables.newSession roomId
        match fullLadder configs with
        | none => none
        | some levels =>
            (createBoxes (tables.createSession session) session.id levels).map
              fun created => (created, some session)
      else some (tables, none)

/-- The variables of the loop. -/
structure Contributing where
  tables : Tables
  remainingAmount : Int
  acceptedAmount : Int := 0
  refundAmount : Int := 0

/-- What the ladder does not take. -/
def refundRest (state : Contributing) : Contributing :=
  { state with
    refundAmount := state.refundAmount + state.remainingAmount
    remainingAmount := 0 }

/-- The box has opened: the session is complete, or the next box is active. -/
def afterOpening (sessionId : SessionId) (level : Nat) (state : Contributing) :
    Option Contributing :=
  if treasureBoxCount ≤ level then
    (state.tables.updateSession sessionId (TreasureSession.withStatus .completed)).map
      fun completed =>
        let state := { state with tables := completed }
        if 0 < state.remainingAmount then refundRest state else state
  else
    match state.tables.updateSession sessionId (TreasureSession.atLevel (level + 1)) with
    | none => none
    | some leveled =>
        (leveled.updateBox (sessionId, level + 1) TreasureBox.activated).map
          fun activated => { state with tables := activated }

/-- A box that is full already: nothing is added. -/
def pastFullBox (session : TreasureSession) (box : TreasureBox) (state : Contributing) :
    Option Contributing :=
  if treasureBoxCount ≤ box.level then some (refundRest state)
  else
    match state.tables.updateSession session.id
      (TreasureSession.atLevel (session.currentLevel + 1)) with
    | none => none
    | some leveled =>
        (leveled.updateBox (session.id, session.currentLevel + 1) TreasureBox.activated).map
          fun activated => { state with tables := activated }

/-- The amount goes into the box, with the row that records it. -/
def addToBox (session : TreasureSession) (box : TreasureBox) (gift : GiftProgress) (added : Int)
    (state : Contributing) : Option Contributing :=
  let recorded := state.tables.addContribution (gift.contribution box.id added)
  match recorded.updateBox box.id (TreasureBox.incremented added) with
  | none => none
  | some updated =>
      let state :=
        { state with
          tables := updated
          acceptedAmount := state.acceptedAmount + added
          remainingAmount := state.remainingAmount - added }
      match updated.findBox box.id with
      | none => none
      | some updatedBox =>
          if updatedBox.threshold ≤ updatedBox.progress then
            match updated.updateBox box.id (TreasureBox.withStatus .opened) with
            | none => none
            | some opened => afterOpening session.id box.level { state with tables := opened }
          else some state

/-- One round of the loop.  The breaks leave nothing remaining. -/
def contribute (sessionId : SessionId) (gift : GiftProgress) (state : Contributing) :
    Option Contributing :=
  match state.tables.findSession sessionId with
  | none => some (refundRest state)
  | some freshSession =>
      if freshSession.status ≠ .active then some (refundRest state)
      else
        match state.tables.findBox (freshSession.id, freshSession.currentLevel) with
        | none => some (refundRest state)
        | some currentBox =>
            if currentBox.status ≠ .active then some (refundRest state)
            else
              let needed := currentBox.threshold - currentBox.progress
              if needed ≤ 0 then pastFullBox freshSession currentBox state
              else
                let added := if needed ≤ state.remainingAmount then needed else state.remainingAmount
                addToBox freshSession currentBox gift added state

def contributeAll (sessionId : SessionId) (gift : GiftProgress) :
    Nat → Contributing → Option Contributing
  | fuel, state =>
      if 0 < state.remainingAmount then
        match fuel with
        | 0 => none
        | fuel + 1 =>
            match contribute sessionId gift state with
            | none => none
            | some next => contributeAll sessionId gift fuel next
      else some state

/-- The amounts are reported as numbers. -/
structure ContributionResult where
  acceptedAmount : Int
  refundAmount : Int
  deriving DecidableEq, Repr

/-- The gift counts for its sender's rank whoever receives it. -/
def processTreasureContribution (fuel : Nat) (tables : Tables) (roomId : RoomId)
    (senderId : UserId) (amount : Int) (giftTxnId : GiftTxnId) :
    Option (Tables × ContributionResult) :=
  let gift : GiftProgress :=
    { roomId := roomId
      userId := senderId
      amount := amount
      giftTxnId := some giftTxnId }
  match tables.existingTx giftTxnId with
  | some _ =>
      some (tables,
        { acceptedAmount := 0
          refundAmount := 0 })
  | none =>
      match sessionOfToday tables roomId with
      | none => none
      | some (tables, active) =>
          match (match active with
            | some session => some (tables, some session)
            | none => autoStart tables roomId) with
          | none => none
          | some (tables, none) =>
              some (tables,
                { acceptedAmount := amount
                  refundAmount := 0 })
          | some (tables, some session) =>
              let start : Contributing :=
                { tables := tables
                  remainingAmount := amount }
              (contributeAll session.id gift fuel start).map fun state =>
                (state.tables,
                  { acceptedAmount := toNumber state.acceptedAmount
                    refundAmount := toNumber state.refundAmount })

/-! ### handleContribution -/

/-- `openAndAdvance`, as far as the ladder goes. -/
def openAndAdvance (session : TreasureSession) (box : TreasureBox) (tables : Tables) :
    Option Tables :=
  match tables.updateBox box.id (TreasureBox.withStatus .opened) with
  | none => none
  | some opened =>
      let nextLevel := box.level + 1
      if treasureBoxCount < nextLevel then
        opened.updateSession session.id (TreasureSession.withStatus .completed)
      else
        match opened.updateSession session.id (TreasureSession.atLevel nextLevel) with
        | none => none
        | some leveled =>
            match leveled.findBox (session.id, nextLevel) with
            | none => some leveled
            | some nextBox => leveled.updateBox nextBox.id TreasureBox.activated

/-- One round of the loop: the tables and the amount that remains, none after a break. -/
def handleRound (sessionId : SessionId) (gift : GiftProgress) (tables : Tables)
    (remainingAmount : Int) : Option (Tables × Int) :=
  match tables.findSession sessionId with
  | none => some (tables, 0)
  | some fresh =>
      if fresh.status ≠ .active then some (tables, 0)
      else
        match tables.findBox (fresh.id, fresh.currentLevel) with
        | none => some (tables, 0)
        | some box =>
            if box.status ≠ .active then some (tables, 0)
            else
              let needed := box.threshold - box.progress
              if needed ≤ 0 then
                (openAndAdvance fresh box tables).map fun advanced => (advanced, remainingAmount)
              else
                let added := if needed ≤ remainingAmount then needed else remainingAmount
                let recorded := tables.addContribution (gift.contribution box.id added)
                match recorded.updateBox box.id (TreasureBox.incremented added) with
                | none => none
                | some updated =>
                    match updated.findBox box.id with
                    | none => none
                    | some updatedBox =>
                        if updatedBox.threshold ≤ updatedBox.progress then
                          (openAndAdvance fresh updatedBox updated).map fun advanced =>
                            (advanced, remainingAmount - added)
                        else some (updated, remainingAmount - added)

def handleAll (sessionId : SessionId) (gift : GiftProgress) :
    Nat → Tables → Int → Option Tables
  | fuel, tables, remainingAmount =>
      if 0 < remainingAmount then
        match fuel with
        | 0 => none
        | fuel + 1 =>
            match handleRound sessionId gift tables remainingAmount with
            | none => none
            | some (next, remaining) => handleAll sessionId gift fuel next remaining
      else some tables

/-- Neither the day of the session nor an earlier record of the gift is looked at. -/
def handleContribution (fuel : Nat) (tables : Tables) (gift : GiftProgress) : Option Tables :=
  match tables.getActiveSession gift.roomId with
  | none => some tables
  | some session => handleAll session.id gift fuel tables gift.amount

end TreasureService

end Soulzaa.Treasure
