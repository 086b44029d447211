/-
VideoRoomPkScoringService.apply and reverse on one battle, each inside a transaction.

A compare-and-set is a list of attempts, won or lost.  What the code throws by itself is
swallowed and leaves what was written; a unique key that is hit aborts the transaction.
-/

import Soulzaa.Lib.KeyedRows
import Soulzaa.VideoRooms.PkRows

namespace Soulzaa.VideoRooms

structure PkBoard where
  status : VideoRoomPkStatus
  teams : List VideoRoomPkTeam
  participants : List VideoRoomPkParticipant
  contributions : List VideoRoomPkContribution := []
  deriving DecidableEq, Repr

structure PkScoringInput where
  senderId : UserId
  receiverIds : List UserId
  totalCoinValue : Int
  giftTxnId : String
  deriving DecidableEq, Repr

/-- Where in a leg something is thrown. -/
inductive LegStep where
  | team
  | participant
  | contribution
  deriving DecidableEq, Repr

/-- What one leg meets: its multiplier, its attempts and what is thrown before a step. -/
structure Leg where
  multiplierBps : Int := 10000
  teamAttempts : List Bool := [true]
  participantAttempts : List Bool := [true]
  throwsBefore : Option LegStep := none
  deriving DecidableEq, Repr

/-- How a transaction's scoring ends. -/
inductive Scoring where
  | kept (board : PkBoard)
  | rolledBack
  deriving DecidableEq, Repr

def maxCasRetries : Nat := 3

def pkMultiplierBaseBps : Int := 10000

/-- One of the first attempts is won. -/
def wins (attempts : List Bool) : Bool := (attempts.take maxCasRetries).any id

def addTeamScore (delta : Int) (team : VideoRoomPkTeam) : VideoRoomPkTeam :=
  { team with
    score := team.score + delta
    giftCount := team.giftCount + 1 }

def addParticipantScore (delta : Int) (participant : VideoRoomPkParticipant) :
    VideoRoomPkParticipant :=
  { participant with
    score := participant.score + delta
    giftCount := participant.giftCount + 1 }

namespace PkBoard

def casTeam (board : PkBoard) (teamId : TeamId) (delta : Int) (attempts : List Bool) :
    Option PkBoard :=
  if (KeyedRows.find VideoRoomPkTeam.id teamId board.teams).isSome && wins attempts then
    some
      { board with
        teams := KeyedRows.update VideoRoomPkTeam.id teamId (addTeamScore delta) board.teams }
  else none

def casParticipant (board : PkBoard) (participantId : ParticipantId) (delta : Int)
    (attempts : List Bool) : Option PkBoard :=
  if (KeyedRows.find VideoRoomPkParticipant.id participantId board.participants).isSome &&
      wins attempts then
    some
      { board with
        participants :=
          KeyedRows.update VideoRoomPkParticipant.id participantId (addParticipantScore delta)
            board.participants }
  else none

/-- None where the participant has a row of the gift already. -/
def addContribution (board : PkBoard) (row : VideoRoomPkContribution) : Option PkBoard :=
  if board.contributions.any fun other =>
      other.giftTxnId = row.giftTxnId && other.participantId = row.participantId then none
  else some { board with contributions := board.contributions ++ [row] }

/-! ### A gift -/

def legRow (input : PkScoringInput) (perReceiver : Int) (participant : VideoRoomPkParticipant)
    (leg : Leg) : VideoRoomPkContribution where
  teamId := participant.teamId
  participantId := participant.id
  side := participant.side
  senderId := input.senderId
  receiverId := participant.userId
  baseAmount := perReceiver
  multiplierBps := leg.multiplierBps
  scoredAmount := (perReceiver * leg.multiplierBps).tdiv pkMultiplierBaseBps
  giftTxnId := .gift input.giftTxnId

/-- A participant's update that is lost is not noticed. -/
def applyLegs : List (VideoRoomPkContribution × Leg) → PkBoard → Scoring
  | [], board => .kept board
  | (row, leg) :: rest, board =>
      if leg.throwsBefore = some .team then .kept board
      else
        match board.casTeam row.teamId row.scoredAmount leg.teamAttempts with
        | none => applyLegs rest board
        | some teamed =>
            if leg.throwsBefore = some .participant then .kept teamed
            else
              let joined :=
                (teamed.casParticipant row.participantId row.scoredAmount
                  leg.participantAttempts).getD teamed
              if leg.throwsBefore = some .contribution then .kept joined
              else
                match joined.addContribution row with
                | none => .rolledBack
                | some added => applyLegs rest added

def receivers (board : PkBoard) (input : PkScoringInput) : List VideoRoomPkParticipant :=
  board.participants.filter fun participant => participant.userId ∈ input.receiverIds

def perReceiver (input : PkScoringInput) : Int :=
  input.totalCoinValue / (input.receiverIds.length : Int)

/-- The gift's legs, where it counts at all. -/
def legs (board : PkBoard) (input : PkScoringInput) (meets : ParticipantId → Leg) :
    List (VideoRoomPkContribution × Leg) :=
  if input.totalCoinValue ≤ 0 ∨ input.receiverIds = [] then []
  else if board.status ≠ .live then []
  else if perReceiver input ≤ 0 then []
  else
    (board.receivers input).map fun participant =>
      (legRow input (perReceiver input) participant (meets participant.id), meets participant.id)

def apply (board : PkBoard) (input : PkScoringInput) (meets : ParticipantId → Leg) : Scoring :=
  applyLegs (board.legs input meets) board

/-! ### A refund -/

def reversalRow (giftTxnId : String) (original : VideoRoomPkContribution) :
    VideoRoomPkContribution :=
  { original with
    baseAmount := -original.baseAmount
    scoredAmount := -original.scoredAmount
    giftTxnId := .reversal giftTxnId }

/-- A participant's update that is lost rolls the transaction back. -/
def reverseLegs : List (VideoRoomPkContribution × Leg) → PkBoard → Scoring
  | [], board => .kept board
  | (row, leg) :: rest, board =>
      if leg.throwsBefore = some .team then .kept board
      else
        match board.casTeam row.teamId row.scoredAmount leg.teamAttempts with
        | none => reverseLegs rest board
        | some teamed =>
            if leg.throwsBefore = some .participant then .kept teamed
            else
              match teamed.casParticipant row.participantId row.scoredAmount
                leg.participantAttempts with
              | none => .rolledBack
              | some joined =>
                  if leg.throwsBefore = some .contribution then .kept joined
                  else
                    match joined.addContribution row with
                    | none => .rolledBack
                    | some added => reverseLegs rest added

def findContributions (board : PkBoard) (key : GiftKey) : List VideoRoomPkContribution :=
  board.contributions.filter fun row => row.giftTxnId = key

/-- What is to be undone, while the battle is not over. -/
def reversalLegs (board : PkBoard) (giftTxnId : String) (meets : ParticipantId → Leg) :
    List (VideoRoomPkContribution × Leg) :=
  if isPkTerminal board.status then []
  else
    (board.findContributions (.gift giftTxnId)).map fun original =>
      (reversalRow giftTxnId original, meets original.participantId)

def reverse (board : PkBoard) (giftTxnId : String) (meets : ParticipantId → Leg) : Scoring :=
  reverseLegs (board.reversalLegs giftTxnId meets) board

end PkBoard

/-! ### Transactions -/

/-- A gift of the battle, with the participants it has a leg for. -/
structure SentGift where
  giftTxnId : String
  legs : List ParticipantId
  deriving DecidableEq, Repr

/-- The board, with the gifts whose transactions have committed and those that are undone. -/
structure PkHistory where
  board : PkBoard
  gifts : List SentGift := []
  reversed : List String := []
  deriving DecidableEq, Repr

inductive PkCall where
  | gift (input : PkScoringInput) (meets : ParticipantId → Leg) (commits : Bool)
  | reverse (giftTxnId : String) (meets : ParticipantId → Leg) (commits : Bool)
  | move (status : VideoRoomPkStatus)

namespace PkHistory

def sent (history : PkHistory) (giftTxnId : String) : Prop :=
  giftTxnId ∈ history.gifts.map SentGift.giftTxnId

instance (history : PkHistory) (giftTxnId : String) : Decidable (history.sent giftTxnId) :=
  inferInstanceAs (Decidable (_ ∈ _))

/-- A gift's own transaction row is unique. -/
def gift (history : PkHistory) (input : PkScoringInput) (meets : ParticipantId → Leg)
    (commits : Bool) : PkHistory :=
  if history.sent input.giftTxnId ∨ commits = false then history
  else
    match history.board.apply input meets with
    | .rolledBack => history
    | .kept board =>
        { history with
          board := board
          gifts := history.gifts ++
            [{ giftTxnId := input.giftTxnId
               legs := (history.board.receivers input).map VideoRoomPkParticipant.id }] }

/-- Nothing is undone of a battle that is over. -/
def reverse (history : PkHistory) (giftTxnId : String) (meets : ParticipantId → Leg)
    (commits : Bool) : PkHistory :=
  if ¬history.sent giftTxnId ∨ isPkTerminal history.board.status ∨ commits = false then history
  else
    match history.board.reverse giftTxnId meets with
    | .rolledBack => history
    | .kept board =>
        { history with
          board := board
          reversed := history.reversed ++ [giftTxnId] }

def step (history : PkHistory) : PkCall → PkHistory
  | .gift input meets commits => history.gift input meets commits
  | .reverse giftTxnId meets commits => history.reverse giftTxnId meets commits
  | .move status => { history with board := { history.board with status := status } }

end PkHistory

end Soulzaa.VideoRooms
