/-
Lobbies before their match: the operations of GamesService on them.

Every operation runs under the lock of its lobby and leaves the tables as they were
when it throws; a start that fails on a stake is the exception and leaves its session
behind.  Who may start a board game in a room is answered from outside.
-/

import Soulzaa.Games.Types
import Soulzaa.Lib.Runs
import Soulzaa.Wallet.Store

namespace Soulzaa.Games

/-! ### Tables -/

structure GamesDb where
  lobbies : List GameLobby
  sessions : List GameSession

namespace GameLobby

def listMemberIds (lobby : GameLobby) : List UserId :=
  lobby.members.map GameLobbyMember.userId

def getMember (lobby : GameLobby) (userId : UserId) : Option GameLobbyMember :=
  lobby.members.find? fun member => member.userId = userId

def countMembers (lobby : GameLobby) : Nat :=
  lobby.members.length

def addMember (lobby : GameLobby) (member : GameLobbyMember) : Except GameFailure GameLobby :=
  if (lobby.getMember member.userId).isSome then .error .uniqueConstraint
  else .ok { lobby with members := lobby.members ++ [member] }

def removeMember (lobby : GameLobby) (userId : UserId) : GameLobby :=
  { lobby with members := lobby.members.filter fun member => member.userId ≠ userId }

def setMemberTeam (lobby : GameLobby) (userId : UserId) (team : GameTeam) : GameLobby :=
  { lobby with
    members := lobby.members.map fun member =>
      if member.userId = userId then { member with team := some team } else member }

def countTeam (lobby : GameLobby) (team : GameTeam) : Nat :=
  (lobby.members.filter fun member => member.team = some team).length

/-- The team a new member is put in. -/
def smallerTeam (lobby : GameLobby) : GameTeam :=
  if lobby.countTeam .a ≤ lobby.countTeam .b then .a else .b

def botIds (lobby : GameLobby) : List UserId :=
  (lobby.members.filter GameLobbyMember.isBot).map GameLobbyMember.userId

end GameLobby

namespace GamesDb

def getLobbyById (db : GamesDb) (id : LobbyId) : Option GameLobby :=
  db.lobbies[id]?

def getLobbyByCode (db : GamesDb) (code : String) : Option LobbyId :=
  db.lobbies.findIdx? fun lobby => lobby.code = code

def putLobby (db : GamesDb) (id : LobbyId) (lobby : GameLobby) : GamesDb :=
  { db with lobbies := db.lobbies.set id lobby }

def createLobby (db : GamesDb) (lobby : GameLobby) : GamesDb :=
  { db with lobbies := db.lobbies ++ [lobby] }

def findOpenLobbyForRoom (db : GamesDb) (roomId : RoomId) : Option LobbyId :=
  db.lobbies.findIdx? fun lobby => lobby.roomId = some roomId ∧ lobby.status = .opened

def findActiveSessionForRoom (db : GamesDb) (roomId : RoomId) : Option GameSession :=
  db.sessions.find? fun session => session.roomId = some roomId ∧ session.status = .active

end GamesDb

/-! ### What the service asks others -/

/-- The catalog, the hash of join passwords and JavaScript's upper case. -/
structure Surroundings where
  catalog : Catalog
  sha256 : String → String
  toUpperCase : String → String

/-- The room authorisation, as it answers during one call. -/
structure Authorisation where
  assertCanStartBoardGame : RoomId → UserId → Except GameFailure Unit
  isMember : RoomId → UserId → Bool

structure Balances where
  gold : Int
  game : Int

structure CreateLobbyDto where
  gameCode : GameCode
  stake : Nat
  roomId : Option RoomId := none
  mode : Option GameMode := none
  password : Option String := none
  carromMode : Option String := none
  teamCoinAssignment : Option String := none

structure UpdateLobbySettingsDto where
  stake : Option Nat := none
  maxPlayers : Option Nat := none
  password : Option String := none
  carromMode : Option String := none
  teamCoinAssignment : Option String := none

/-! ### Guards -/

def requireEnabledDefinition (catalog : Catalog) (code : GameCode) :
    Except GameFailure GameDefinition := do
  let definition ← orThrow (catalog code) (notFound .gameNotFound "Game not found.")
  require (definition.enabled = true) (conflict .gameDisabled "This game is currently disabled.")
  return definition

def assertHost (hostId actorId : UserId) (message : String) : Except GameFailure Unit :=
  require (hostId = actorId) ⟨.gameNotHost, message, .forbidden⟩

def assert2v2Supported (gameCode : GameCode) : Except GameFailure Unit :=
  require (gameCode ∈ team2v2CapableGames)
    (conflict .game2v2Unsupported "This game does not support 2v2.")

/-- A stake of 0 is a friendly match and bypasses the range. -/
def assertStakeInRange (definition : GameDefinition) (stake : Nat) : Except GameFailure Unit :=
  require (stake = 0 ∨ (definition.minStake ≤ stake ∧ stake ≤ definition.maxStake))
    ⟨.gameInvalidStake,
      s!"Stake must be between {definition.minStake} and {definition.maxStake}.", .badRequest⟩

def assertCanAfford (balances : Balances) (currency : GameCurrency) (stake : Nat) :
    Except GameFailure Unit :=
  let available := if currency = .gold then balances.gold else balances.game
  require ((stake : Int) ≤ available)
    (conflict .insufficientBalance "Insufficient balance to join this game.")

def lobbyNotOpen : BusinessException :=
  conflict .gameLobbyNotOpen "This lobby is not open."

def lobbyFull : BusinessException :=
  conflict .gameLobbyFull "This lobby is full."

def invalid (message : String) : BusinessException :=
  ⟨.validationError, message, .badRequest⟩

def requireLobby (surroundings : Surroundings) (db : GamesDb) (code : String) :
    Except GameFailure LobbyId :=
  orThrow (db.getLobbyByCode (surroundings.toUpperCase code))
    (notFound .gameLobbyNotFound "Lobby not found.")

/-- The row as it is read again under the lock. -/
def requireOpen (db : GamesDb) (id : LobbyId) : Except GameFailure GameLobby := do
  let fresh ← orThrow (db.getLobbyById id) lobbyNotOpen
  require (fresh.status = .opened) lobbyNotOpen
  return fresh

/-- The open lobby behind a join code, which the actor has to host. -/
def requireHosted (surroundings : Surroundings) (db : GamesDb) (actor : UserId) (code : String)
    (message : String) : Except GameFailure (LobbyId × GameLobby) := do
  let id ← requireLobby surroundings db code
  let lobby ← orThrow (db.getLobbyById id) lobbyNotOpen
  assertHost lobby.hostId actor message
  let fresh ← requireOpen db id
  return (id, fresh)

/-- One of the settings that have a fixed set of values; `undefined` passes. -/
def validateOneOf (field : String) (allowed : List String) :
    Option String → Except GameFailure Unit
  | none => .ok ()
  | some value =>
      let options := ", ".intercalate allowed
      require (value ∈ allowed) (invalid s!"Invalid {field} '{value}'. Allowed: {options}.")

def validateCarromSettings (carromMode teamCoinAssignment : Option String) :
    Except GameFailure Unit := do
  validateOneOf "carromMode" carromModes carromMode
  validateOneOf "teamCoinAssignment" carromTeamCoinAssignments teamCoinAssignment

def requireOneOf (field : String) (allowed : List String) (value : Option String) :
    Except GameFailure String := do
  let options := " or ".intercalate allowed
  let missing := invalid s!"Team matches require a {field} of {options}."
  let value ← orThrow value missing
  require (value ∈ allowed) missing
  return value

/-- A solo match has fixed settings, whatever the client sent. -/
def enforceCarromSettings (mode : GameMode) (carromMode teamCoinAssignment : Option String) :
    Except GameFailure (String × Option String) :=
  match mode with
  | .classic => .ok ("open_score", none)
  | .team2v2 => do
      validateCarromSettings carromMode teamCoinAssignment
      let mode ← requireOneOf "carromMode" carromModes carromMode
      let assignment ← requireOneOf "teamCoinAssignment" carromTeamCoinAssignments
        teamCoinAssignment
      return (mode, some assignment)

/-- The settings a team lobby starts from. -/
def teamDefault (mode : GameMode) (value : String) : Option String :=
  match mode with
  | .team2v2 => some value
  | .classic => none

/-- The first of eight random codes that is free. -/
def generateJoinCode (db : GamesDb) (draws : List String) : Except GameFailure String :=
  orThrow ((draws.take 8).find? fun code => (db.getLobbyByCode code).isNone)
    (conflict .conflict "Could not allocate a lobby code, please retry.")

/-- JavaScript's empty string is false: it clears the password. -/
def hashed (sha256 : String → String) (password : Option String) : Option String :=
  (password.filter fun text => text ≠ "").map sha256

/-! ### Opening a lobby -/

/-- The two checks on a room-bound game, made when its lobby opens and when it starts. -/
def assertRoomFree (db : GamesDb) (authorisation : Authorisation) (actor : UserId) :
    Option RoomId → Except GameFailure Unit
  | none => .ok ()
  | some roomId => do
      authorisation.assertCanStartBoardGame roomId actor
      require (db.findActiveSessionForRoom roomId = none)
        (conflict .gameRoomAlreadyActive "This room already has an active game.")

def assertModeSupported (gameCode : GameCode) : GameMode → Except GameFailure Unit
  | .classic => .ok ()
  | .team2v2 => assert2v2Supported gameCode

def createLobby (surroundings : Surroundings) (db : GamesDb) (actor : UserId)
    (dto : CreateLobbyDto) (authorisation : Authorisation) (draws : List String) :
    Except GameFailure GamesDb := do
  assertRoomFree db authorisation actor dto.roomId
  let definition ← requireEnabledDefinition surroundings.catalog dto.gameCode
  assertStakeInRange definition dto.stake
  let mode := dto.mode.getD .classic
  assertModeSupported dto.gameCode mode
  let carrom ← enforceCarromSettings mode
    (dto.carromMode.or (teamDefault mode "classic"))
    (dto.teamCoinAssignment.or (teamDefault mode "team_a_white"))
  let code ← generateJoinCode db draws
  let lobby : GameLobby :=
    { definitionCode := dto.gameCode
      code := code
      hostId := actor
      roomId := dto.roomId
      currency := definition.currency
      stake := dto.stake
      maxPlayers := effectiveMaxPlayers dto.gameCode mode definition.maxPlayers
      status := .opened
      sessionId := none
      mode := mode
      passwordHash := hashed surroundings.sha256 dto.password
      carromMode := some carrom.1
      teamCoinAssignment := carrom.2
      members := [] }
  let lobby ← lobby.addMember
    { userId := actor
      team := if mode = .team2v2 then some .a else none }
  return db.createLobby lobby

inductive MatchType where
  | duel
  | team2v2
  deriving DecidableEq, Repr

def requiredSize : MatchType → Nat
  | .team2v2 => 4
  | .duel => 2

def matchModeFor : MatchType → GameMode
  | .team2v2 => .team2v2
  | .duel => .classic

/-- The players popped from a bucket, which is a sorted set; the first is the host. -/
structure ReadyCheckState where
  gameCode : GameCode
  stake : Nat
  matchType : MatchType
  hostId : UserId
  players : List UserId
  distinct : players.Nodup
  sized : players.length = requiredSize matchType
  host : players.head? = some hostId

def ReadyCheckState.mode (state : ReadyCheckState) : GameMode :=
  matchModeFor state.matchType

/-- `finalizeMatch`, up to its call of `startSessionFromLobby`. -/
def finalizeMatch (surroundings : Surroundings) (db : GamesDb) (state : ReadyCheckState)
    (draws : List String) : Except GameFailure GamesDb := do
  let definition ← requireEnabledDefinition surroundings.catalog state.gameCode
  let carrom ← enforceCarromSettings state.mode
    (teamDefault state.mode "classic") (teamDefault state.mode "team_a_white")
  let code ← generateJoinCode db draws
  let lobby : GameLobby :=
    { definitionCode := state.gameCode
      code := code
      hostId := state.hostId
      roomId := none
      currency := definition.currency
      stake := state.stake
      maxPlayers :=
        effectiveMaxPlayers state.gameCode state.mode definition.maxPlayers
      status := .opened
      sessionId := none
      mode := state.mode
      passwordHash := none
      carromMode := some carrom.1
      teamCoinAssignment := carrom.2
      members := state.players.map fun userId => { userId := userId } }
  return db.createLobby lobby

/-! ### Coming and going -/

def joinLobby (surroundings : Surroundings) (db : GamesDb) (actor : UserId) (code : String)
    (password : Option String) (authorisation : Authorisation) (balances : Balances) :
    Except GameFailure GamesDb := do
  let id ← requireLobby surroundings db code
  let fresh ← requireOpen db id
  require (∀ roomId ∈ fresh.roomId, authorisation.isMember roomId actor = true)
    ⟨.notRoomMember, "You must be a member of the hosting room to join this lobby.", .forbidden⟩
  require (∀ hash ∈ fresh.passwordHash, surroundings.sha256 (password.getD "") = hash)
    (conflict .gameLobbyBadPassword "Incorrect lobby password.")
  require (fresh.getMember actor = none)
    (conflict .gameAlreadyInLobby "You are already in this lobby.")
  require (fresh.countMembers < fresh.maxPlayers) lobbyFull
  assertCanAfford balances fresh.currency fresh.stake
  let joined ← fresh.addMember
    { userId := actor
      team := if fresh.mode = .team2v2 then some fresh.smallerTeam else none }
  return db.putLobby id joined

def markLobbyClosed (db : GamesDb) (id : LobbyId) (status : GameLobbyStatus) : GamesDb :=
  match db.getLobbyById id with
  | none => db
  | some lobby => db.putLobby id { lobby with status := status }

/-- The host leaving disbands the lobby. -/
def leaveLobby (surroundings : Surroundings) (db : GamesDb) (actor : UserId) (code : String) :
    Except GameFailure GamesDb := do
  let id ← requireLobby surroundings db code
  let fresh ← requireOpen db id
  if fresh.hostId = actor then
    return db.putLobby id { fresh with status := .cancelled }
  else do
    require ((fresh.getMember actor).isSome) (conflict .gameNotInLobby "You are not in this lobby.")
    return db.putLobby id (fresh.removeMember actor)

/-- The next oldest human takes over from a host who went offline. -/
def transferLobbyHost (db : GamesDb) (id : LobbyId) (expectedOldHostId : UserId) : GamesDb :=
  match db.getLobbyById id with
  | none => db
  | some fresh =>
      if fresh.status = .opened ∧ fresh.hostId = expectedOldHostId then
        match fresh.members.find? fun member =>
            !member.isBot && member.userId ≠ expectedOldHostId with
        | none => db.putLobby id { fresh with status := .cancelled }
        | some heir => db.putLobby id { fresh with hostId := heir.userId }
      else db

def kickMember (surroundings : Surroundings) (db : GamesDb) (actor : UserId) (code : String)
    (targetUserId : UserId) : Except GameFailure GamesDb := do
  let (id, fresh) ← requireHosted surroundings db actor code "Only the host can kick members."
  require (targetUserId ≠ actor)
    (invalid "The host cannot kick themselves — close the lobby instead.")
  require ((fresh.getMember targetUserId).isSome)
    (conflict .gameNotLobbyMember "That user is not in this lobby.")
  return db.putLobby id (fresh.removeMember targetUserId)

def closeLobby (surroundings : Surroundings) (db : GamesDb) (actor : UserId) (code : String) :
    Except GameFailure GamesDb := do
  let (id, fresh) ← requireHosted surroundings db actor code "Only the host can close the lobby."
  return db.putLobby id { fresh with status := .cancelled }

/-- The lobby that a room's end closes, or that expired, if it is still open. -/
def closeIfOpen (db : GamesDb) (id : LobbyId) (status : GameLobbyStatus) : GamesDb :=
  match requireOpen db id with
  | .error _ => db
  | .ok fresh => db.putLobby id { fresh with status := status }

def closeRoomBoundLobby (db : GamesDb) (roomId : RoomId) : GamesDb :=
  match db.findOpenLobbyForRoom roomId with
  | none => db
  | some id => closeIfOpen db id .cancelled

/-- `sweepExpiredLobbies`, for one of the lobbies it finds. -/
def sweepExpiredLobby (db : GamesDb) (id : LobbyId) : GamesDb :=
  closeIfOpen db id .expired

/-- The part of `repointRoomGameHost` that moves the room's lobby. -/
def repointLobbyHost (db : GamesDb) (roomId : RoomId) (newOwnerId : UserId) : GamesDb :=
  match db.findOpenLobbyForRoom roomId with
  | none => db
  | some id =>
      match db.getLobbyById id with
      | none => db
      | some lobby => db.putLobby id { lobby with hostId := newOwnerId }

/-! ### Settings, bots and teams -/

def assertNewStake (definition : GameDefinition) : Option Nat → Except GameFailure Unit
  | none => .ok ()
  | some stake => assertStakeInRange definition stake

/-- The row with the fields that the request names. -/
def updatedSettings (sha256 : String → String) (fresh : GameLobby)
    (dto : UpdateLobbySettingsDto) : GameLobby :=
  { fresh with
    stake := dto.stake.getD fresh.stake
    maxPlayers := dto.maxPlayers.getD fresh.maxPlayers
    passwordHash :=
      match dto.password with
      | none => fresh.passwordHash
      | some password => hashed sha256 (some password)
    carromMode :=
      match fresh.mode with
      | .classic => some "open_score"
      | .team2v2 => dto.carromMode.or fresh.carromMode
    teamCoinAssignment :=
      match fresh.mode with
      | .classic => none
      | .team2v2 => dto.teamCoinAssignment.or fresh.teamCoinAssignment }

def updateLobbySettings (surroundings : Surroundings) (db : GamesDb) (actor : UserId)
    (code : String) (dto : UpdateLobbySettingsDto) : Except GameFailure GamesDb := do
  let (id, fresh) ← requireHosted surroundings db actor code
    "Only the host can edit lobby settings."
  let definition ← requireEnabledDefinition surroundings.catalog fresh.definitionCode
  assertNewStake definition dto.stake
  let memberCount := fresh.countMembers
  let maxPlayers := definition.maxPlayers
  require (∀ wanted ∈ dto.maxPlayers, memberCount ≤ wanted ∧ wanted ≤ maxPlayers)
    (invalid s!"maxPlayers must be between {memberCount} and {maxPlayers}.")
  validateCarromSettings dto.carromMode dto.teamCoinAssignment
  return db.putLobby id (updatedSettings surroundings.sha256 fresh dto)

/-- `botId` is the UUID drawn for the bot. -/
def addBot (surroundings : Surroundings) (db : GamesDb) (actor : UserId) (code : String)
    (botId : UserId) (team : Option GameTeam) : Except GameFailure GamesDb := do
  let (id, fresh) ← requireHosted surroundings db actor code "Only the host can add bots."
  require (fresh.stake = 0)
    (invalid "Bots are only allowed in friendly matches — a bet match requires real players.")
  require (fresh.countMembers < fresh.maxPlayers) lobbyFull
  let joined ← fresh.addMember
    { userId := botId
      isBot := true
      team := team.or (if fresh.mode = .team2v2 then some fresh.smallerTeam else none) }
  return db.putLobby id joined

def setPlayerTeam (surroundings : Surroundings) (db : GamesDb) (actor : UserId) (code : String)
    (team : GameTeam) : Except GameFailure GamesDb := do
  let id ← requireLobby surroundings db code
  let fresh ← requireOpen db id
  require (fresh.mode = .team2v2) (conflict .gameNotTeamMode "This lobby is not a 2v2 lobby.")
  require ((fresh.getMember actor).isSome) (conflict .gameNotInLobby "You are not in this lobby.")
  let onTeam := (fresh.members.filter fun member =>
    member.team = some team ∧ member.userId ≠ actor).length
  let name := if team = .a then "A" else "B"
  require (onTeam < 2) (conflict .gameTeamFull s!"Team {name} is already full.")
  return db.putLobby id (fresh.setMemberTeam actor team)

/-! ### Starting -/

structure SeatAssignment where
  userId : UserId
  team : Option GameTeam
  seat : Nat
  deriving DecidableEq, Repr

inductive AssignError where
  | wrongPlayerCount
  | unbalanced
  deriving DecidableEq, Repr

/-- Members without a pick fill the open slots, team A first. -/
def fillOpenSlots (picks : UserId → Option GameTeam) :
    List UserId → Nat → Nat → Except AssignError (List (UserId × GameTeam))
  | [], aCount, bCount => if aCount = 2 ∧ bCount = 2 then .ok [] else .error .unbalanced
  | member :: rest, aCount, bCount =>
      match picks member with
      | some pick =>
          (fillOpenSlots picks rest aCount bCount).map fun assigned => (member, pick) :: assigned
      | none =>
          if aCount < 2 then
            (fillOpenSlots picks rest (aCount + 1) bCount).map fun assigned =>
              (member, .a) :: assigned
          else if bCount < 2 then
            (fillOpenSlots picks rest aCount (bCount + 1)).map fun assigned =>
              (member, .b) :: assigned
          else .error .unbalanced

def onTeam (assigned : List (UserId × GameTeam)) (team : GameTeam) : List UserId :=
  (assigned.filter fun entry => entry.2 = team).map Prod.fst

def classicSeats (members : List UserId) : List SeatAssignment :=
  members.zipIdx.map fun entry => ⟨entry.1, none, entry.2⟩

/-- Seats 0 and 2 are team A, 1 and 3 team B. -/
def assignTeamsAndSeats (members : List UserId) (picks : UserId → Option GameTeam)
    (mode : GameMode) : Except AssignError (List SeatAssignment) :=
  match mode with
  | .classic => .ok (classicSeats members)
  | .team2v2 =>
      if members.length ≠ 4 then .error .wrongPlayerCount
      else
        let aCount := (members.filter fun member => picks member = some .a).length
        let bCount := (members.filter fun member => picks member = some .b).length
        if 2 < aCount ∨ 2 < bCount then .error .unbalanced
        else
          match fillOpenSlots picks members aCount bCount with
          | .error error => .error error
          | .ok assigned =>
              match onTeam assigned .a, onTeam assigned .b with
              | [a0, a1], [b0, b1] =>
                  .ok [⟨a0, some .a, 0⟩, ⟨b0, some .b, 1⟩, ⟨a1, some .a, 2⟩, ⟨b1, some .b, 3⟩]
              | _, _ => .error .unbalanced

def resolveSeats (lobby : GameLobby) : Except GameFailure (List SeatAssignment) :=
  let picks := fun userId => (lobby.getMember userId).bind GameLobbyMember.team
  match assignTeamsAndSeats lobby.listMemberIds picks lobby.mode with
  | .ok seats => .ok seats
  | .error .wrongPlayerCount =>
      .error (.business
        (conflict .gameInsufficientPlayers "A 2v2 match needs exactly 4 players."))
  | .error .unbalanced =>
      .error (.business (conflict .gameTeamUnbalanced "Teams must be balanced 2 v 2."))

/-- The rows `createSessionRow` writes in its transaction. -/
def sessionRow (lobbyId : LobbyId) (lobby : GameLobby) (definition : GameDefinition)
    (carrom : String × Option String) (seats : List SeatAssignment) : GameSession :=
  { code := lobby.definitionCode
    lobbyId := some lobbyId
    hostId := lobby.hostId
    roomId := lobby.roomId
    currency := definition.currency
    stake := lobby.stake
    mode := lobby.mode
    carromMode := some carrom.1
    teamCoinAssignment := carrom.2
    playerCount := lobby.listMemberIds.length
    participants := seats.map fun seat =>
      { userId := seat.userId
        seat := seat.seat
        team := seat.team
        isBot := seat.userId ∈ lobby.botIds
        stake := if seat.userId ∈ lobby.botIds then 0 else lobby.stake } }

/-- The checks of `startSessionFromLobby` and the session they lead to. -/
def openSession (surroundings : Surroundings) (db : GamesDb) (lobbyId : LobbyId)
    (actorId : UserId) (authorisation : Authorisation) : Except GameFailure GameSession := do
  let fresh ← requireOpen db lobbyId
  let definition ← requireEnabledDefinition surroundings.catalog fresh.definitionCode
  let minPlayers := definition.minPlayers
  require (minPlayers ≤ fresh.listMemberIds.length)
    (conflict .gameInsufficientPlayers s!"This game needs at least {minPlayers} players.")
  require (fresh.listMemberIds.length ≤ fresh.maxPlayers)
    (conflict .gameLobbyFull "This lobby exceeds the player limit.")
  let carrom ← enforceCarromSettings fresh.mode fresh.carromMode fresh.teamCoinAssignment
  let seats ← resolveSeats fresh
  assertRoomFree db authorisation actorId fresh.roomId
  return sessionRow lobbyId fresh definition carrom seats

/-- The pot is the stakes of the humans. -/
def potOf (session : GameSession) (humanCount : Nat) : Nat :=
  session.stake * humanCount

/-- `staked` says whether every stake was escrowed.  If not, the session is closed
and the lobby stays open. -/
def startSessionFromLobby (surroundings : Surroundings) (db : GamesDb) (lobbyId : LobbyId)
    (actorId : UserId) (authorisation : Authorisation) (staked : Bool) :
    Except GameFailure GamesDb := do
  let session ← openSession surroundings db lobbyId actorId authorisation
  let fresh ← requireOpen db lobbyId
  let humanCount := fresh.listMemberIds.length - fresh.botIds.length
  if staked then
    let started :=
      { db with
        sessions := db.sessions ++ [{ session with potAmount := potOf session humanCount }] }
    return started.putLobby lobbyId
      { fresh with
        status := .started
        sessionId := some db.sessions.length }
  else
    return { db with sessions := db.sessions ++ [{ session with status := .aborted }] }

def startLobby (surroundings : Surroundings) (db : GamesDb) (actor : UserId) (code : String)
    (authorisation : Authorisation) (staked : Bool) : Except GameFailure GamesDb := do
  let id ← requireLobby surroundings db code
  let lobby ← orThrow (db.getLobbyById id) lobbyNotOpen
  assertHost lobby.hostId actor "Only the lobby host can start the game."
  startSessionFromLobby surroundings db id actor authorisation staked

/-- The rest of `finalizeMatch`: a match that does not start closes its lobby. -/
def startMatch (surroundings : Surroundings) (db : GamesDb) (lobbyId : LobbyId)
    (hostId : UserId) (authorisation : Authorisation) (staked : Bool) : GamesDb :=
  match startSessionFromLobby surroundings db lobbyId hostId authorisation staked with
  | .error _ => markLobbyClosed db lobbyId .cancelled
  | .ok after => if staked then after else markLobbyClosed after lobbyId .cancelled

/-! ### Operations -/

inductive LobbyOperation where
  | createLobby (actor : UserId) (dto : CreateLobbyDto) (authorisation : Authorisation)
      (draws : List String)
  | joinLobby (actor : UserId) (code : String) (password : Option String)
      (authorisation : Authorisation) (balances : Balances)
  | leaveLobby (actor : UserId) (code : String)
  | transferLobbyHost (id : LobbyId) (expectedOldHostId : UserId)
  | kickMember (actor : UserId) (code : String) (targetUserId : UserId)
  | closeLobby (actor : UserId) (code : String)
  | closeRoomBoundLobby (roomId : RoomId)
  | sweepExpiredLobby (id : LobbyId)
  | repointLobbyHost (roomId : RoomId) (newOwnerId : UserId)
  | updateLobbySettings (actor : UserId) (code : String) (dto : UpdateLobbySettingsDto)
  | addBot (actor : UserId) (code : String) (botId : UserId) (team : Option GameTeam)
  | setPlayerTeam (actor : UserId) (code : String) (team : GameTeam)
  | startLobby (actor : UserId) (code : String) (authorisation : Authorisation) (staked : Bool)
  | finalizeMatch (state : ReadyCheckState) (draws : List String)
  | startMatch (id : LobbyId) (hostId : UserId) (authorisation : Authorisation) (staked : Bool)

/-- A call that throws leaves the tables as they were. -/
def orUnchanged (db : GamesDb) : Except GameFailure GamesDb → GamesDb
  | .ok after => after
  | .error _ => db

def lobbyStep (surroundings : Surroundings) (db : GamesDb) : LobbyOperation → GamesDb
  | .createLobby actor dto authorisation draws =>
      orUnchanged db (createLobby surroundings db actor dto authorisation draws)
  | .joinLobby actor code password authorisation balances =>
      orUnchanged db (joinLobby surroundings db actor code password authorisation balances)
  | .leaveLobby actor code => orUnchanged db (leaveLobby surroundings db actor code)
  | .transferLobbyHost id expectedOldHostId => transferLobbyHost db id expectedOldHostId
  | .kickMember actor code targetUserId =>
      orUnchanged db (kickMember surroundings db actor code targetUserId)
  | .closeLobby actor code => orUnchanged db (closeLobby surroundings db actor code)
  | .closeRoomBoundLobby roomId => closeRoomBoundLobby db roomId
  | .sweepExpiredLobby id => sweepExpiredLobby db id
  | .repointLobbyHost roomId newOwnerId => repointLobbyHost db roomId newOwnerId
  | .updateLobbySettings actor code dto =>
      orUnchanged db (updateLobbySettings surroundings db actor code dto)
  | .addBot actor code botId team => orUnchanged db (addBot surroundings db actor code botId team)
  | .setPlayerTeam actor code team =>
      orUnchanged db (setPlayerTeam surroundings db actor code team)
  | .startLobby actor code authorisation staked =>
      orUnchanged db (startLobby surroundings db actor code authorisation staked)
  | .finalizeMatch state draws => orUnchanged db (finalizeMatch surroundings db state draws)
  | .startMatch id hostId authorisation staked =>
      startMatch surroundings db id hostId authorisation staked

end Soulzaa.Games
