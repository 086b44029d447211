/-
Lobbies, sessions and the catalog of the board games.

A lobby is kept together with its member rows, in join order, and a session with
its participant rows, in seat order.  Lobbies and sessions are named by their
positions in their tables, which only grow; a definition is named by its code.
-/

import Soulzaa.Wallet.Types

namespace Soulzaa.Games

/-! ### Errors -/

inductive GameErrorCode where
  | validationError
  | conflict
  | insufficientBalance
  | notRoomMember
  | gameNotFound
  | gameDisabled
  | gameInvalidStake
  | gameLobbyNotFound
  | gameLobbyNotOpen
  | gameLobbyFull
  | gameAlreadyInLobby
  | gameNotInLobby
  | gameNotHost
  | gameInsufficientPlayers
  | game2v2Unsupported
  | gameTeamFull
  | gameTeamUnbalanced
  | gameNotTeamMode
  | gameLobbyBadPassword
  | gameNotLobbyMember
  | gameRoomAlreadyActive
  | gameSessionNotFound
  | gameSessionNotActive
  | gameAlreadySettled
  | gameNotParticipant
  | gameNotAuthorized
  | gameInvalidPayout
  | gameInvalidParticipant
  | gamePayoutExceedsPot
  | gameResultAlreadyReported
  | gameResultPendingConfirmation
  | gameHasMoves
  deriving DecidableEq, Repr

inductive GameHttpStatus where
  | badRequest
  | forbidden
  | notFound
  | conflict
  deriving DecidableEq, Repr

structure BusinessException where
  code : GameErrorCode
  message : String
  status : GameHttpStatus
  deriving DecidableEq, Repr

/-- The last two are not errors of the service: a unique constraint of the database,
and a lock that could not be acquired or a store that could not be reached. -/
inductive GameFailure where
  | business (error : BusinessException)
  | uniqueConstraint
  | unavailable
  deriving DecidableEq, Repr

/-- A guard throws its error unless its condition holds. -/
def require (condition : Prop) [Decidable condition] (error : BusinessException) :
    Except GameFailure Unit :=
  if condition then .ok () else .error (.business error)

theorem require_eq_ok {condition : Prop} [Decidable condition] {error : BusinessException}
    {done : Unit} : require condition error = .ok done ↔ condition := by
  unfold require
  split <;> simp [*]

/-- A value that has to be there. -/
def orThrow {Value : Type} (value : Option Value) (error : BusinessException) :
    Except GameFailure Value :=
  match value with
  | some value => .ok value
  | none => .error (.business error)

theorem orThrow_eq_ok {Value : Type} {value : Option Value} {error : BusinessException}
    {found : Value} : orThrow value error = .ok found ↔ value = some found := by
  cases value <;> simp [orThrow]

def notFound (code : GameErrorCode) (message : String) : BusinessException :=
  ⟨code, message, .notFound⟩

def conflict (code : GameErrorCode) (message : String) : BusinessException :=
  ⟨code, message, .conflict⟩

/-! ### Catalog -/

inductive GameCode where
  | greedy
  | roulette
  | slots
  | jackpot
  | uno
  | ludo
  | carrom
  | domino
  | greedyFood
  | luckyFruit
  deriving DecidableEq, Repr

inductive GameCurrency where
  | gold
  | free
  | game
  deriving DecidableEq, Repr

inductive GameMode where
  | classic
  | team2v2
  deriving DecidableEq, Repr

inductive GameTeam where
  | a
  | b
  deriving DecidableEq, Repr

/-- A catalog row.  The two bounds are checked where rows are seeded and edited. -/
structure GameDefinition where
  currency : GameCurrency
  minPlayers : Nat
  maxPlayers : Nat
  minStake : Nat
  maxStake : Nat
  enabled : Bool
  positive : 1 ≤ minPlayers
  ordered : minPlayers ≤ maxPlayers

abbrev Catalog := GameCode → Option GameDefinition

/-- The catalog as it is seeded: two board games and two casino games. -/
def gameCatalogSeed : Catalog
  | .ludo => some boardGame
  | .carrom => some boardGame
  | .greedyFood => some houseGame
  | .luckyFruit => some houseGame
  | _ => none
where
  boardGame : GameDefinition :=
    { currency := .free
      minPlayers := 2
      maxPlayers := 4
      minStake := 10
      maxStake := 100000
      enabled := true
      positive := by decide
      ordered := by decide }
  houseGame : GameDefinition :=
    { currency := .gold
      minPlayers := 1
      maxPlayers := 1
      minStake := 100
      maxStake := 50000
      enabled := true
      positive := by decide
      ordered := by decide }

def team2v2CapableGames : List GameCode := [.ludo, .carrom]

/-- Games that seat fewer players in CLASSIC mode than the catalog says. -/
def classicMaxPlayers : GameCode → Option Nat
  | .carrom => some 2
  | _ => none

def effectiveMaxPlayers (gameCode : GameCode) (mode : GameMode) (catalogMax : Nat) : Nat :=
  match mode with
  | .team2v2 => 4
  | .classic => (classicMaxPlayers gameCode).getD catalogMax

theorem effectiveMaxPlayers_pos (gameCode : GameCode) (mode : GameMode)
    (definition : GameDefinition) :
    1 ≤ effectiveMaxPlayers gameCode mode definition.maxPlayers := by
  have catalogMax : 1 ≤ definition.maxPlayers :=
    Nat.le_trans definition.positive definition.ordered
  cases mode with
  | team2v2 => exact Nat.le_add_left 1 3
  | classic =>
      cases gameCode with
      | carrom => exact Nat.le_succ 1
      | _ => exact catalogMax

def carromModes : List String := ["classic", "open_score"]

def carromTeamCoinAssignments : List String := ["team_a_white", "team_a_black"]

/-! ### Rows -/

abbrev RoomId := String
abbrev LobbyId := Nat
abbrev SessionId := Nat

inductive GameLobbyStatus where
  | opened
  | started
  | cancelled
  | expired
  deriving DecidableEq, Repr

structure GameLobbyMember where
  userId : UserId
  isBot : Bool := false
  team : Option GameTeam := none
  deriving DecidableEq, Repr

structure GameLobby where
  definitionCode : GameCode
  code : String
  hostId : UserId
  roomId : Option RoomId
  currency : GameCurrency
  stake : Nat
  maxPlayers : Nat
  status : GameLobbyStatus
  sessionId : Option SessionId
  mode : GameMode
  passwordHash : Option String
  carromMode : Option String
  teamCoinAssignment : Option String
  members : List GameLobbyMember
  deriving DecidableEq, Repr

inductive GameSessionStatus where
  | active
  | completed
  | cancelled
  | aborted
  deriving DecidableEq, Repr

inductive GameParticipantStatus where
  | playing
  | won
  | lost
  | drew
  | refunded
  deriving DecidableEq, Repr

structure GameParticipant where
  userId : UserId
  seat : Nat
  team : Option GameTeam
  isBot : Bool
  stake : Nat
  status : GameParticipantStatus := .playing
  stakeTxnId : Option TransactionId := none
  payoutAmount : Nat := 0
  payoutTxnId : Option TransactionId := none
  refundTxnId : Option TransactionId := none
  deriving DecidableEq, Repr

structure GameSession where
  code : GameCode
  lobbyId : Option LobbyId
  hostId : UserId
  roomId : Option RoomId
  currency : GameCurrency
  stake : Nat
  mode : GameMode
  carromMode : Option String
  teamCoinAssignment : Option String
  playerCount : Nat
  potAmount : Nat := 0
  status : GameSessionStatus := .active
  participants : List GameParticipant
  deriving DecidableEq, Repr

end Soulzaa.Games
