/-
The decisions of a running match: who wins after a forfeit, how a pot is split, which
settlements are accepted, whose stake is refunded, who may hold the host role.

They are pure functions of the rows that GamesService reads before it calls them.
-/

import Soulzaa.Games.Types
import Mathlib.Algebra.Ring.Nat

namespace Soulzaa.Games

/-! ### Participants -/

def GameParticipant.isPlaying (participant : GameParticipant) : Bool :=
  participant.status = .playing

/-- A human who is still in the match. -/
def GameParticipant.mayHost (participant : GameParticipant) : Bool :=
  !participant.isBot && participant.isPlaying

def getParticipant (participants : List GameParticipant) (userId : UserId) :
    Option GameParticipant :=
  participants.find? fun participant => participant.userId = userId

/-- The participants still playing besides the actor. -/
def remainingBeside (participants : List GameParticipant) (actorId : UserId) :
    List GameParticipant :=
  participants.filter fun participant => participant.isPlaying && participant.userId ≠ actorId

/-- The humans still playing besides the actor. -/
def otherActive (participants : List GameParticipant) (actorId : UserId) :
    List GameParticipant :=
  participants.filter fun participant =>
    participant.isPlaying && participant.userId ≠ actorId && !participant.isBot

def userIds (participants : List GameParticipant) : List UserId :=
  participants.map GameParticipant.userId

/-! ### Guards -/

def assertActive (session : GameSession) : Except GameFailure Unit :=
  require (session.status = .active) (conflict .gameSessionNotActive "Session is not active.")

def requirePlaying (participants : List GameParticipant) (actorId : UserId) :
    Except GameFailure GameParticipant :=
  orThrow ((getParticipant participants actorId).filter GameParticipant.isPlaying)
    ⟨.gameNotParticipant, "You are not an active participant of this session.", .forbidden⟩

/-! ### The host role -/

/-- `preferred` if they qualify, otherwise the first eligible seat in join order. -/
def pickSessionHost (participants : List GameParticipant) (preferred exclude : Option UserId) :
    Option UserId :=
  let eligible := participants.filter fun participant =>
    participant.mayHost && some participant.userId ≠ exclude
  match preferred with
  | none => eligible.head?.map GameParticipant.userId
  | some userId =>
      if eligible.any fun participant => participant.userId = userId then some userId
      else eligible.head?.map GameParticipant.userId

/-! ### Forfeits -/

inductive ForfeitDecision where
  | settle (winners : List UserId)
  /-- The match continues and the forfeiter is marked LOST. -/
  | proceed
  deriving DecidableEq, Repr

def decideForfeit (actorId : UserId) (remaining : List GameParticipant) : ForfeitDecision :=
  match remaining with
  | [] => .settle [actorId]
  | [survivor] => .settle [survivor.userId]
  | _ =>
      if remaining.all GameParticipant.isBot then .settle (userIds remaining) else .proceed

def teamsLeft (remaining : List GameParticipant) : List (Option GameTeam) :=
  (remaining.map GameParticipant.team).dedup

def decideTeamForfeit (actorId : UserId) (remaining : List GameParticipant) : ForfeitDecision :=
  match teamsLeft remaining with
  | [] => .settle [actorId]
  | [_] => .settle (userIds remaining)
  | _ =>
      if remaining.all GameParticipant.isBot then .settle (userIds remaining) else .proceed

def decide (mode : GameMode) (actorId : UserId) (remaining : List GameParticipant) :
    ForfeitDecision :=
  match mode with
  | .team2v2 => decideTeamForfeit actorId remaining
  | .classic => decideForfeit actorId remaining

/-! ### Winners and payouts -/

/-- The members of a team who are still playing. -/
def expandTeamWinners (participants : List GameParticipant) (winningTeam : GameTeam) :
    List UserId :=
  userIds (participants.filter fun participant =>
    participant.team = some winningTeam && participant.isPlaying)

structure PayoutEntry where
  userId : UserId
  amount : Int
  deriving DecidableEq, Repr

/-- An even split; what remains goes to the earliest winners. -/
def splitPot (total : Int) (winners : List UserId) : List PayoutEntry :=
  let base := total / winners.length
  let remainder := total - base * winners.length
  winners.zipIdx.map fun entry =>
    { userId := entry.1
      amount := base + if (entry.2 : Int) < remainder then 1 else 0 }

structure SettleResultInput where
  winners : List UserId
  payouts : List PayoutEntry
  deriving DecidableEq, Repr

/-- What `settleToHumanWinners` ends in: a refund, or a settlement. -/
inductive Resolution where
  | refund
  | settle (input : SettleResultInput)
  deriving DecidableEq, Repr

def distributable (potAmount : Nat) (rakeBps : Nat) : Int :=
  potAmount - (potAmount * rakeBps) / 10000

/-- The pot is split among the human winners.  Where only bots won, a staked match is
refunded and a friendly one settled without payouts. -/
def settleToHumanWinners (stake potAmount : Nat) (participants : List GameParticipant)
    (rakeBps : Nat) (winners : List UserId) : Resolution :=
  let botIds := userIds (participants.filter GameParticipant.isBot)
  let humanWinners := winners.filter fun winner => winner ∉ botIds
  if humanWinners = [] then
    if 0 < stake then .refund else .settle { winners := winners, payouts := [] }
  else
    .settle
      { winners := humanWinners
        payouts := splitPot (distributable potAmount rakeBps) humanWinners }

/-! ### Settlements -/

def payoutTotal (payouts : List PayoutEntry) : Int :=
  (payouts.map PayoutEntry.amount).sum

def stakeSum (participants : List GameParticipant) : Nat :=
  (participants.map GameParticipant.stake).sum

/-- The payouts in the order they are given, each user once. -/
def checkPayouts (participantIds : List UserId) :
    List UserId → List PayoutEntry → Except GameFailure Unit
  | _, [] => .ok ()
  | seen, entry :: rest => do
      require (entry.userId ∈ participantIds)
        ⟨.gameInvalidParticipant, "A payout target is not a participant of this session.",
          .badRequest⟩
      require (entry.userId ∉ seen)
        ⟨.gameInvalidPayout, "Duplicate payout entry for a participant.", .badRequest⟩
      require (0 ≤ entry.amount)
        ⟨.gameInvalidPayout, "Payout amounts cannot be negative.", .badRequest⟩
      checkPayouts participantIds (entry.userId :: seen) rest

def validateSettlement (potAmount : Nat) (participants : List GameParticipant)
    (input : SettleResultInput) : Except GameFailure Unit := do
  require (∀ winner ∈ input.winners, winner ∈ userIds participants)
    ⟨.gameInvalidParticipant, "A winner is not a participant of this session.", .badRequest⟩
  checkPayouts (userIds participants) [] input.payouts
  require (payoutTotal input.payouts ≤ potAmount)
    ⟨.gamePayoutExceedsPot, "Total payouts exceed the session pot.", .badRequest⟩
  require (stakeSum participants = potAmount)
    (conflict .gameInvalidPayout "Session pot does not reconcile with staked amounts.")

def payoutOf (payouts : List PayoutEntry) (userId : UserId) : Int :=
  ((payouts.find? fun entry => entry.userId = userId).map PayoutEntry.amount).getD 0

/-! ### Refunds -/

/-- Everyone whose stake is still unresolved. -/
def GameParticipant.refundable (participant : GameParticipant) : Bool :=
  participant.stakeTxnId.isSome && participant.payoutTxnId.isNone &&
    participant.refundTxnId.isNone &&
    (participant.status = .playing || participant.status = .lost)

end Soulzaa.Games
