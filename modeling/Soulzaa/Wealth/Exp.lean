/-
WealthExpLedgerService and WealthMonthlyResetService, on the rows they write.

A user has one live progress row, which carries the month it is for.  The ledger keeps
every award and reversal, the history one row a user and closed month.
-/

import Soulzaa.Lib.KeyedRows
import Soulzaa.Lib.Runs
import Soulzaa.Lib.UniqueTable
import Soulzaa.Wallet.Movement

namespace Soulzaa.Wealth

/-- The months in order; the source writes them as "YYYY-MM". -/
abbrev PeriodKey := Nat

def previousPeriodKey (periodKey : PeriodKey) : PeriodKey := periodKey - 1

inductive WealthExpDirection where
  | award
  | reversal
  deriving DecidableEq, Repr

structure WealthExpLedger where
  userId : UserId
  direction : WealthExpDirection
  amount : Int
  sourceRef : String
  idempotencyKey : String
  periodKey : PeriodKey
  deriving DecidableEq, Repr

structure WealthUserProgress where
  userId : UserId
  currentExp : Int
  currentLevel : Int
  periodKey : PeriodKey
  deriving DecidableEq, Repr

structure WealthMonthlyHistory where
  userId : UserId
  periodKey : PeriodKey
  startingLevel : Int
  finalExp : Int
  finalLevel : Int
  downgradedToLevel : Int
  deriving DecidableEq, Repr

def WealthMonthlyHistory.key (history : WealthMonthlyHistory) : UserId × PeriodKey :=
  (history.userId, history.periodKey)

inductive WealthResetRunStatus where
  | running
  | completed
  | failed
  deriving DecidableEq, Repr

structure WealthMonthlyResetRun where
  periodKey : PeriodKey
  status : WealthResetRunStatus := .running
  usersProcessed : Nat := 0
  deriving DecidableEq, Repr

structure WealthLevel where
  level : Int
  expThreshold : Int
  deriving DecidableEq, Repr

structure WealthDowngradeConfig where
  enabled : Bool := true
  maxDowngradeLevels : Int := 1
  minLevel : Int := 0
  deriving DecidableEq, Repr

structure Tables where
  levels : List WealthLevel := []
  downgradeConfig : WealthDowngradeConfig := {}
  progress : List WealthUserProgress := []
  ledger : UniqueTable WealthExpLedger.idempotencyKey := UniqueTable.empty
  history : UniqueTable WealthMonthlyHistory.key := UniqueTable.empty
  resetRuns : List WealthMonthlyResetRun := []
  /-- The month of the clock. -/
  currentPeriodKey : PeriodKey

namespace Tables

/-! ### WealthRepository -/

def getProgress (tables : Tables) (userId : UserId) : Option WealthUserProgress :=
  KeyedRows.find WealthUserProgress.userId userId tables.progress

def changeProgress (tables : Tables) (userId : UserId)
    (change : WealthUserProgress → WealthUserProgress) : Tables :=
  { tables with
    progress := KeyedRows.update WealthUserProgress.userId userId change tables.progress }

def addProgress (tables : Tables) (progress : WealthUserProgress) : Tables :=
  { tables with progress := tables.progress ++ [progress] }

def addLedger (tables : Tables) (row : WealthExpLedger) : Option Tables :=
  (tables.ledger.create row).map fun ledger => { tables with ledger := ledger }

/-- What is still outstanding of a purchase, whoever it was credited to. -/
def netAwardedForSourceRef (tables : Tables) (sourceRef : String) : Int :=
  ((tables.ledger.rows.filter fun row => row.sourceRef = sourceRef).map fun row =>
    match row.direction with
    | .award => row.amount
    | .reversal => -row.amount).sum

end Tables

/-! ### WealthLevelService -/

def levelForExp (levels : List WealthLevel) (totalExp : Int) : Int :=
  levels.foldl (fun level row =>
    if row.expThreshold ≤ totalExp ∧ level < row.level then row.level else level) 0

/-! ### WealthExpLedgerService -/

structure WealthAwardInput where
  userId : UserId
  amount : Int
  sourceRef : String
  idempotencyKey : String
  deriving DecidableEq, Repr

structure WealthAwardResult where
  currentExp : Int
  currentLevel : Int
  leveledUp : Bool
  deriving DecidableEq, Repr

structure WealthReverseInput where
  userId : UserId
  sourceRef : String
  amount : Int
  idempotencyKey : String
  deriving DecidableEq, Repr

inductive WealthFailure where
  | invalidAmount (message : String)
  | uniqueViolation
  deriving DecidableEq, Repr

namespace WealthRepository

def awardRow (input : WealthAwardInput) (periodKey : PeriodKey) : WealthExpLedger :=
  { userId := input.userId
    direction := .award
    amount := input.amount
    sourceRef := input.sourceRef
    idempotencyKey := input.idempotencyKey
    periodKey := periodKey }

/-- The row's EXP is incremented, whatever month the row is for. -/
def awarded (amount newLevel : Int) (periodKey : PeriodKey) (progress : WealthUserProgress) :
    WealthUserProgress :=
  { progress with
    currentExp := progress.currentExp + amount
    currentLevel := newLevel
    periodKey := periodKey }

def upsertProgress (tables : Tables) (input : WealthAwardInput) (periodKey : PeriodKey)
    (newLevel : Int) : Tables :=
  match tables.getProgress input.userId with
  | some _ => tables.changeProgress input.userId (awarded input.amount newLevel periodKey)
  | none =>
      tables.addProgress
        { userId := input.userId
          currentExp := input.amount
          currentLevel := newLevel
          periodKey := periodKey }

/-- A taken key rolls the transaction back. -/
def applyAward (tables : Tables) (input : WealthAwardInput) (periodKey : PeriodKey)
    (newLevel : Int) : Option Tables :=
  (upsertProgress tables input periodKey newLevel).addLedger (awardRow input periodKey)

def reversalRow (input : WealthReverseInput) (amount : Int) (periodKey : PeriodKey) :
    WealthExpLedger :=
  { userId := input.userId
    direction := .reversal
    amount := amount
    sourceRef := input.sourceRef
    idempotencyKey := input.idempotencyKey
    periodKey := periodKey }

def reversed (newExp newLevel : Int) (progress : WealthUserProgress) : WealthUserProgress :=
  { progress with
    currentExp := newExp
    currentLevel := newLevel }

/-- The new EXP and level, where the row is to be written. -/
def applyReversal (tables : Tables) (input : WealthReverseInput) (amount : Int)
    (periodKey : PeriodKey) (written : Option (Int × Int)) : Option Tables :=
  let updated :=
    match written with
    | some (newExp, newLevel) => tables.changeProgress input.userId (reversed newExp newLevel)
    | none => tables
  updated.addLedger (reversalRow input amount periodKey)

end WealthRepository

namespace WealthExpLedgerService

/-- The EXP of this month; a row of another month counts as none. -/
def baseExp (progress : Option WealthUserProgress) (periodKey : PeriodKey) : Int :=
  match progress with
  | some row => if row.periodKey = periodKey then row.currentExp else 0
  | none => 0

def oldLevel (progress : Option WealthUserProgress) : Int :=
  match progress with
  | some row => row.currentLevel
  | none => 0

def storedExp (progress : Option WealthUserProgress) : Int :=
  match progress with
  | some row => row.currentExp
  | none => 0

/-- Under the user's lock. -/
def award (tables : Tables) (input : WealthAwardInput) :
    Except WealthFailure (Tables × WealthAwardResult) :=
  if input.amount ≤ 0 then
    .error (.invalidAmount "Wealth EXP amount must be a positive integer.")
  else
    let progress := tables.getProgress input.userId
    match tables.ledger.find? input.idempotencyKey with
    | some _ =>
        .ok (tables,
          { currentExp := toNumber (storedExp progress)
            currentLevel := oldLevel progress
            leveledUp := false })
    | none =>
        let periodKey := tables.currentPeriodKey
        let newExp := baseExp progress periodKey + input.amount
        let newLevel := max (oldLevel progress) (levelForExp tables.levels newExp)
        match WealthRepository.applyAward tables input periodKey newLevel with
        | none => .error .uniqueViolation
        | some after =>
            .ok (after,
              { currentExp := toNumber newExp
                currentLevel := newLevel
                leveledUp := oldLevel progress < newLevel })

/-- Under the user's lock. -/
def reverse (tables : Tables) (input : WealthReverseInput) : Except WealthFailure Tables :=
  if input.amount ≤ 0 then
    .error (.invalidAmount "Wealth EXP reversal amount must be a positive integer.")
  else
    match tables.ledger.find? input.idempotencyKey with
    | some _ => .ok tables
    | none =>
        let reverseAmount := min input.amount (tables.netAwardedForSourceRef input.sourceRef)
        let periodKey := tables.currentPeriodKey
        let progress := tables.getProgress input.userId
        let isCurrentMonth := progress.map WealthUserProgress.periodKey = some periodKey
        let written :=
          if isCurrentMonth ∧ 0 < reverseAmount then
            let newExp := max 0 (storedExp progress - reverseAmount)
            some (newExp, levelForExp tables.levels newExp)
          else none
        let amount := if 0 < reverseAmount then reverseAmount else input.amount
        match WealthRepository.applyReversal tables input amount periodKey written with
        | none => .error .uniqueViolation
        | some after => .ok after

end WealthExpLedgerService

/-! ### WealthMonthlyResetService -/

namespace WealthMonthlyResetService

def floorLevel (config : WealthDowngradeConfig) (startingLevel : Int) : Int :=
  if ¬config.enabled then startingLevel
  else max config.minLevel (startingLevel - config.maxDowngradeLevels)

def historyRow (config : WealthDowngradeConfig) (closingPeriodKey : PeriodKey)
    (progress : WealthUserProgress) : WealthMonthlyHistory :=
  { userId := progress.userId
    periodKey := closingPeriodKey
    startingLevel := progress.currentLevel
    finalExp := progress.currentExp
    finalLevel := progress.currentLevel
    downgradedToLevel := floorLevel config progress.currentLevel }

def rolledOver (newPeriodKey : PeriodKey) (level : Int) (progress : WealthUserProgress) :
    WealthUserProgress :=
  { progress with
    currentExp := 0
    currentLevel := level
    periodKey := newPeriodKey }

/-- The upsert keeps a row that is there. -/
def createMonthlyHistory (tables : Tables) (row : WealthMonthlyHistory) : Tables :=
  { tables with history := tables.history.ensure row }

def resetProgressForNewMonth (tables : Tables) (userId : UserId) (newPeriodKey : PeriodKey)
    (level : Int) : Tables :=
  tables.changeProgress userId (rolledOver newPeriodKey level)

/-- One user, with no call between its reads and writes.  The month of the row is not looked at. -/
def processUser (tables : Tables) (config : WealthDowngradeConfig)
    (closingPeriodKey newPeriodKey : PeriodKey) (userId : UserId) : Tables :=
  match tables.history.find? (userId, closingPeriodKey) with
  | some _ => tables
  | none =>
      match tables.getProgress userId with
      | none => tables
      | some progress =>
          resetProgressForNewMonth
            (createMonthlyHistory tables (historyRow config closingPeriodKey progress)) userId
            newPeriodKey (floorLevel config progress.currentLevel)

def getResetRun (tables : Tables) (periodKey : PeriodKey) : Option WealthMonthlyResetRun :=
  KeyedRows.find WealthMonthlyResetRun.periodKey periodKey tables.resetRuns

def addResetRun (tables : Tables) (run : WealthMonthlyResetRun) : Tables :=
  { tables with resetRuns := tables.resetRuns ++ [run] }

def setResetRun (tables : Tables) (periodKey : PeriodKey) (status : WealthResetRunStatus)
    (usersProcessed : Nat) : Tables :=
  { tables with
    resetRuns := KeyedRows.update WealthMonthlyResetRun.periodKey periodKey
      (fun run =>
        { run with
          status := status
          usersProcessed := usersProcessed })
      tables.resetRuns }

/-- How a run ends: after all users, or by a throw or the end of the process after some. -/
inductive Ending where
  | completes
  | throws (after : Nat)
  | dies (after : Nat)
  deriving DecidableEq, Repr

def Ending.processed (ending : Ending) (userIds : List UserId) : List UserId :=
  match ending with
  | .completes => userIds
  | .throws after => userIds.take after
  | .dies after => userIds.take after

def processAll (tables : Tables) (config : WealthDowngradeConfig)
    (closingPeriodKey newPeriodKey : PeriodKey) (userIds : List UserId) : Tables :=
  userIds.foldl
    (fun tables userId => processUser tables config closingPeriodKey newPeriodKey userId) tables

/-- A run that has started, with no call between its users. -/
def processRun (tables : Tables) (ending : Ending) : Tables :=
  let newPeriodKey := tables.currentPeriodKey
  let userIds := ending.processed (tables.progress.map WealthUserProgress.userId)
  let processed := processAll tables tables.downgradeConfig (previousPeriodKey newPeriodKey)
    newPeriodKey userIds
  match ending with
  | .completes => setResetRun processed newPeriodKey .completed userIds.length
  | .throws _ => setResetRun processed newPeriodKey .failed 0
  | .dies _ => processed

/-- A run that is completed or running already is not started again. -/
def startRun (tables : Tables) : Option Tables :=
  let newPeriodKey := tables.currentPeriodKey
  match getResetRun tables newPeriodKey with
  | none => some (addResetRun tables { periodKey := newPeriodKey })
  | some existingRun =>
      if existingRun.status = .failed then some (setResetRun tables newPeriodKey .running 0)
      else none

def run (tables : Tables) (ending : Ending) : Tables :=
  match startRun tables with
  | none => tables
  | some started => processRun started ending

end WealthMonthlyResetService

end Soulzaa.Wealth
