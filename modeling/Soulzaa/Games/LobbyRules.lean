/-
What lobby operations keep, over whole histories: the bound on players, and that no
bot sits in a match for money.

Most operations are steady: they leave the bounds, the mode and the stake of a lobby
alone and add at most one member, where there is room.
-/

import Soulzaa.Games.Lobby

namespace Soulzaa.Games

/-! ### Guards, inverted -/

theorem requireOpen_ok {db : GamesDb} {id : LobbyId} {fresh : GameLobby}
    (opened : requireOpen db id = .ok fresh) :
    db.lobbies[id]? = some fresh ∧ fresh.status = .opened := by
  simp only [requireOpen, bind_eq_ok, orThrow_eq_ok, require_eq_ok] at opened
  obtain ⟨lobby, found, _, isOpen, same⟩ := opened
  cases same
  exact ⟨found, isOpen⟩

theorem requireHosted_ok {surroundings : Surroundings} {db : GamesDb} {actor : UserId}
    {code message : String} {id : LobbyId} {fresh : GameLobby}
    (hosted : requireHosted surroundings db actor code message = .ok (id, fresh)) :
    db.lobbies[id]? = some fresh ∧ fresh.status = .opened := by
  simp only [requireHosted, bind_eq_ok] at hosted
  obtain ⟨found, _, lobby, _, _, _, again, opened, same⟩ := hosted
  cases same
  exact requireOpen_ok opened

theorem requireEnabledDefinition_ok {catalog : Catalog} {code : GameCode}
    {definition : GameDefinition}
    (enabled : requireEnabledDefinition catalog code = .ok definition) :
    catalog code = some definition := by
  simp only [requireEnabledDefinition, bind_eq_ok, orThrow_eq_ok] at enabled
  obtain ⟨found, listed, _, _, same⟩ := enabled
  cases same
  exact listed

theorem addMember_ok {lobby joined : GameLobby} {member : GameLobbyMember}
    (added : lobby.addMember member = .ok joined) :
    joined = { lobby with members := lobby.members ++ [member] } := by
  unfold GameLobby.addMember at added
  split at added
  · cases added
  · exact (Except.ok.inj added).symm

/-! ### Steady operations -/

/-- The bounds stay, and a member is added only where there is room, a bot only to a
friendly match. -/
structure Steady (fresh lobby : GameLobby) : Prop where
  definitionCode : lobby.definitionCode = fresh.definitionCode
  mode : lobby.mode = fresh.mode
  maxPlayers : lobby.maxPlayers = fresh.maxPlayers
  stake : lobby.stake = fresh.stake
  opened : lobby.status = .opened → fresh.status = .opened
  count : lobby.countMembers ≤ fresh.countMembers ∨ lobby.countMembers ≤ fresh.maxPlayers
  bots : (∃ member ∈ lobby.members, member.isBot = true) →
    (∃ member ∈ fresh.members, member.isBot = true) ∨ fresh.stake = 0

theorem Steady.of_members {fresh lobby : GameLobby}
    (same : lobby = { fresh with
      status := lobby.status
      hostId := lobby.hostId
      sessionId := lobby.sessionId })
    (opened : lobby.status = .opened → fresh.status = .opened) : Steady fresh lobby := by
  rw [same]
  refine ⟨rfl, rfl, rfl, rfl, opened, Or.inl (Nat.le_refl _), Or.inl⟩

theorem Steady.closed {fresh : GameLobby} {status : GameLobbyStatus}
    (isClosed : status ≠ .opened) : Steady fresh { fresh with status := status } :=
  Steady.of_members rfl fun isOpen => absurd isOpen isClosed

theorem Steady.hosted (fresh : GameLobby) (hostId : UserId) :
    Steady fresh { fresh with hostId := hostId } :=
  Steady.of_members rfl id

theorem Steady.left (fresh : GameLobby) (userId : UserId) :
    Steady fresh (fresh.removeMember userId) where
  definitionCode := rfl
  mode := rfl
  maxPlayers := rfl
  stake := rfl
  opened := id
  count := Or.inl (List.length_filter_le _ _)
  bots := by
    rintro ⟨member, stayed, isBot⟩
    exact Or.inl ⟨member, List.mem_of_mem_filter stayed, isBot⟩

theorem Steady.teamed (fresh : GameLobby) (userId : UserId) (team : GameTeam) :
    Steady fresh (fresh.setMemberTeam userId team) where
  definitionCode := rfl
  mode := rfl
  maxPlayers := rfl
  stake := rfl
  opened := id
  count := Or.inl (Nat.le_of_eq (List.length_map _))
  bots := by
    rintro ⟨row, member, isBot⟩
    obtain ⟨before, inside, rfl⟩ := List.mem_map.mp member
    refine Or.inl ⟨before, inside, ?_⟩
    split at isBot
    · exact isBot
    · exact isBot

theorem Steady.joined {fresh : GameLobby} {member : GameLobbyMember}
    (room : fresh.countMembers < fresh.maxPlayers)
    (friendly : member.isBot = true → fresh.stake = 0) :
    Steady fresh { fresh with members := fresh.members ++ [member] } where
  definitionCode := rfl
  mode := rfl
  maxPlayers := rfl
  stake := rfl
  opened := id
  count := by
    refine Or.inr ?_
    change (fresh.members ++ [member]).length ≤ fresh.maxPlayers
    rw [List.length_append]
    exact room
  bots := by
    rintro ⟨row, inside, isBot⟩
    rcases List.mem_append.mp inside with before | added
    · exact Or.inl ⟨row, before, isBot⟩
    · cases List.mem_singleton.mp added
      exact Or.inr (friendly isBot)

theorem Steady.refl (lobby : GameLobby) : Steady lobby lobby :=
  Steady.hosted lobby lobby.hostId

theorem Steady.trans {first second third : GameLobby} (front : Steady first second)
    (back : Steady second third) : Steady first third where
  definitionCode := back.definitionCode.trans front.definitionCode
  mode := back.mode.trans front.mode
  maxPlayers := back.maxPlayers.trans front.maxPlayers
  stake := back.stake.trans front.stake
  opened := fun isOpen => front.opened (back.opened isOpen)
  count := by
    rcases back.count with fewer | bounded
    · exact front.count.imp (Nat.le_trans fewer) (Nat.le_trans fewer)
    · rw [front.maxPlayers] at bounded
      exact Or.inr bounded
  bots := by
    intro present
    rcases back.bots present with before | friendly
    · exact front.bots before
    · rw [front.stake] at friendly
      exact Or.inr friendly

/-- Every lobby comes steadily from an earlier one. -/
def AllSteady (before after : List GameLobby) : Prop :=
  ∀ lobby ∈ after, ∃ fresh ∈ before, Steady fresh lobby

theorem AllSteady.refl (lobbies : List GameLobby) : AllSteady lobbies lobbies :=
  fun lobby member => ⟨lobby, member, Steady.refl lobby⟩

theorem AllSteady.trans {first second third : List GameLobby} (front : AllSteady first second)
    (back : AllSteady second third) : AllSteady first third := by
  intro lobby member
  obtain ⟨middle, inSecond, later⟩ := back lobby member
  obtain ⟨fresh, inFirst, earlier⟩ := front middle inSecond
  exact ⟨fresh, inFirst, earlier.trans later⟩

theorem AllSteady.set {lobbies : List GameLobby} {id : LobbyId} {fresh lobby : GameLobby}
    (found : lobbies[id]? = some fresh) (steady : Steady fresh lobby) :
    AllSteady lobbies (lobbies.set id lobby) := by
  intro row member
  rcases List.mem_or_eq_of_mem_set member with before | rfl
  · exact ⟨row, before, Steady.refl row⟩
  · exact ⟨fresh, List.mem_of_getElem? found, steady⟩

structure StaysSteady (db after : GamesDb) : Prop where
  lobbies : AllSteady db.lobbies after.lobbies
  sessions : after.sessions = db.sessions

theorem StaysSteady.refl (db : GamesDb) : StaysSteady db db :=
  ⟨AllSteady.refl db.lobbies, rfl⟩

theorem StaysSteady.put {db : GamesDb} {id : LobbyId} {fresh lobby : GameLobby}
    (found : db.lobbies[id]? = some fresh) (steady : Steady fresh lobby) :
    StaysSteady db (db.putLobby id lobby) :=
  ⟨AllSteady.set found steady, rfl⟩

theorem StaysSteady.orUnchanged {db : GamesDb} {result : Except GameFailure GamesDb}
    (steady : ∀ after, result = .ok after → StaysSteady db after) :
    StaysSteady db (orUnchanged db result) := by
  cases result with
  | error failure => exact StaysSteady.refl db
  | ok after => exact steady after rfl

theorem steady_joinLobby {surroundings : Surroundings} {db after : GamesDb} {actor : UserId}
    {code : String} {password : Option String} {authorisation : Authorisation}
    {balances : Balances}
    (joined : joinLobby surroundings db actor code password authorisation balances =
      .ok after) : StaysSteady db after := by
  simp only [joinLobby, bind_eq_ok, require_eq_ok] at joined
  obtain ⟨id, _, fresh, opened, _, _, _, _, _, _, _, room, _, _, lobby, added, same⟩ := joined
  cases same
  cases addMember_ok added
  refine StaysSteady.put (requireOpen_ok opened).1 (Steady.joined room ?_)
  intro impossible
  cases impossible

theorem steady_leaveLobby {surroundings : Surroundings} {db after : GamesDb} {actor : UserId}
    {code : String} (gone : leaveLobby surroundings db actor code = .ok after) :
    StaysSteady db after := by
  simp only [leaveLobby, bind_eq_ok] at gone
  obtain ⟨id, _, fresh, opened, gone⟩ := gone
  obtain ⟨found, _⟩ := requireOpen_ok opened
  split at gone
  · cases gone
    exact StaysSteady.put found (Steady.closed (by decide))
  · simp only [bind_eq_ok] at gone
    obtain ⟨_, _, same⟩ := gone
    cases same
    exact StaysSteady.put found (Steady.left fresh actor)

theorem steady_transferLobbyHost (db : GamesDb) (id : LobbyId) (expectedOldHostId : UserId) :
    StaysSteady db (transferLobbyHost db id expectedOldHostId) := by
  unfold transferLobbyHost
  split
  · exact StaysSteady.refl db
  · rename_i fresh found
    split
    · split
      · exact StaysSteady.put found (Steady.closed (by decide))
      · exact StaysSteady.put found (Steady.hosted fresh _)
    · exact StaysSteady.refl db

theorem steady_kickMember {surroundings : Surroundings} {db after : GamesDb} {actor : UserId}
    {code : String} {targetUserId : UserId}
    (kicked : kickMember surroundings db actor code targetUserId = .ok after) :
    StaysSteady db after := by
  simp only [kickMember, bind_eq_ok] at kicked
  obtain ⟨⟨id, fresh⟩, hosted, _, _, _, _, same⟩ := kicked
  cases same
  exact StaysSteady.put (requireHosted_ok hosted).1 (Steady.left fresh targetUserId)

theorem steady_closeLobby {surroundings : Surroundings} {db after : GamesDb} {actor : UserId}
    {code : String} (closed : closeLobby surroundings db actor code = .ok after) :
    StaysSteady db after := by
  simp only [closeLobby, bind_eq_ok] at closed
  obtain ⟨⟨id, fresh⟩, hosted, same⟩ := closed
  cases same
  exact StaysSteady.put (requireHosted_ok hosted).1 (Steady.closed (by decide))

theorem steady_closeIfOpen (db : GamesDb) (id : LobbyId) {status : GameLobbyStatus}
    (isClosed : status ≠ .opened) : StaysSteady db (closeIfOpen db id status) := by
  unfold closeIfOpen
  split
  · exact StaysSteady.refl db
  · rename_i fresh opened
    exact StaysSteady.put (requireOpen_ok opened).1 (Steady.closed isClosed)

theorem steady_closeRoomBoundLobby (db : GamesDb) (roomId : RoomId) :
    StaysSteady db (closeRoomBoundLobby db roomId) := by
  unfold closeRoomBoundLobby
  split
  · exact StaysSteady.refl db
  · exact steady_closeIfOpen db _ (by decide)

theorem steady_repointLobbyHost (db : GamesDb) (roomId : RoomId) (newOwnerId : UserId) :
    StaysSteady db (repointLobbyHost db roomId newOwnerId) := by
  unfold repointLobbyHost
  split
  · exact StaysSteady.refl db
  · split
    · exact StaysSteady.refl db
    · rename_i lobby found
      exact StaysSteady.put found (Steady.hosted lobby newOwnerId)

theorem steady_addBot {surroundings : Surroundings} {db after : GamesDb} {actor : UserId}
    {code : String} {botId : UserId} {team : Option GameTeam}
    (added : addBot surroundings db actor code botId team = .ok after) :
    StaysSteady db after := by
  simp only [addBot, bind_eq_ok, require_eq_ok] at added
  obtain ⟨⟨id, fresh⟩, hosted, _, friendly, _, room, lobby, joined, same⟩ := added
  cases same
  cases addMember_ok joined
  exact StaysSteady.put (requireHosted_ok hosted).1 (Steady.joined room fun _ => friendly)

theorem steady_setPlayerTeam {surroundings : Surroundings} {db after : GamesDb} {actor : UserId}
    {code : String} {team : GameTeam}
    (picked : setPlayerTeam surroundings db actor code team = .ok after) :
    StaysSteady db after := by
  simp only [setPlayerTeam, bind_eq_ok] at picked
  obtain ⟨id, _, fresh, opened, _, _, _, _, _, _, same⟩ := picked
  cases same
  exact StaysSteady.put (requireOpen_ok opened).1 (Steady.teamed fresh actor team)

/-! ### Opening -/

/-- The lobby as `createLobby` and `finalizeMatch` write it. -/
structure Opens (catalog : Catalog) (gameCode : GameCode) (mode : GameMode) (count : Nat)
    (lobby : GameLobby) : Prop where
  listed : ∃ definition, catalog gameCode = some definition ∧
    lobby.maxPlayers = effectiveMaxPlayers gameCode mode definition.maxPlayers
  definitionCode : lobby.definitionCode = gameCode
  mode : lobby.mode = mode
  opened : lobby.status = .opened
  count : lobby.countMembers = count
  humans : ∀ member ∈ lobby.members, member.isBot = false

theorem createLobby_ok {surroundings : Surroundings} {db after : GamesDb} {actor : UserId}
    {dto : CreateLobbyDto} {authorisation : Authorisation} {draws : List String}
    (created : createLobby surroundings db actor dto authorisation draws = .ok after) :
    ∃ lobby, after = db.createLobby lobby ∧
      Opens surroundings.catalog dto.gameCode (dto.mode.getD .classic) 1 lobby := by
  simp only [createLobby, bind_eq_ok] at created
  obtain ⟨_, _, definition, enabled, _, _, _, _, carrom, _, code, _, lobby, added, same⟩ := created
  cases same
  cases addMember_ok added
  refine ⟨_, rfl, ⟨definition, requireEnabledDefinition_ok enabled, rfl⟩, rfl, rfl, rfl, rfl, ?_⟩
  intro member inside
  cases List.mem_singleton.mp inside
  rfl

theorem finalizeMatch_ok {surroundings : Surroundings} {db after : GamesDb}
    {state : ReadyCheckState} {draws : List String}
    (finalized : finalizeMatch surroundings db state draws = .ok after) :
    ∃ lobby, after = db.createLobby lobby ∧
      Opens surroundings.catalog state.gameCode state.mode (requiredSize state.matchType)
        lobby := by
  simp only [finalizeMatch, bind_eq_ok] at finalized
  obtain ⟨definition, enabled, carrom, _, code, _, same⟩ := finalized
  cases same
  refine ⟨_, rfl, ⟨definition, requireEnabledDefinition_ok enabled, rfl⟩, rfl, rfl, rfl, ?_, ?_⟩
  · change (state.players.map _).length = _
    rw [List.length_map, state.sized]
  · intro member inside
    obtain ⟨userId, _, rfl⟩ := List.mem_map.mp inside
    rfl

theorem updateLobbySettings_ok {surroundings : Surroundings} {db after : GamesDb}
    {actor : UserId} {code : String} {dto : UpdateLobbySettingsDto}
    (updated : updateLobbySettings surroundings db actor code dto = .ok after) :
    ∃ id fresh definition, requireLobby surroundings db code = .ok id ∧
      db.lobbies[id]? = some fresh ∧ fresh.status = .opened ∧
      surroundings.catalog fresh.definitionCode = some definition ∧
      (∀ wanted ∈ dto.maxPlayers,
        fresh.countMembers ≤ wanted ∧ wanted ≤ definition.maxPlayers) ∧
      after = db.putLobby id (updatedSettings surroundings.sha256 fresh dto) := by
  simp only [updateLobbySettings, requireHosted, bind_eq_ok, require_eq_ok] at updated
  obtain ⟨⟨id, fresh⟩, ⟨found, known, lobby, _, _, _, again, opened, pair⟩, definition, enabled,
    _, _, _, bounded, _, _, same⟩ := updated
  cases pair
  cases same
  obtain ⟨row, isOpen⟩ := requireOpen_ok opened
  exact ⟨id, fresh, definition, known, row, isOpen, requireEnabledDefinition_ok enabled,
    bounded, rfl⟩

/-! ### Starting -/

/-- What a session takes over from the lobby it starts from. -/
structure SessionOf (catalog : Catalog) (fresh : GameLobby) (session : GameSession) : Prop where
  listed : ∃ definition, catalog fresh.definitionCode = some definition
  code : session.code = fresh.definitionCode
  mode : session.mode = fresh.mode
  stake : session.stake = fresh.stake
  room : fresh.countMembers ≤ fresh.maxPlayers
  seats : session.mode = .classic → session.participants.length = fresh.countMembers
  bots : ∀ participant ∈ session.participants, participant.isBot = true →
    ∃ member ∈ fresh.members, member.isBot = true

theorem SessionOf.of_same {catalog : Catalog} {fresh : GameLobby} {session other : GameSession}
    (sessionOf : SessionOf catalog fresh session)
    (same : other = { session with
      potAmount := other.potAmount
      status := other.status }) : SessionOf catalog fresh other := by
  rw [same]
  exact ⟨sessionOf.listed, sessionOf.code, sessionOf.mode, sessionOf.stake, sessionOf.room,
    sessionOf.seats, sessionOf.bots⟩

theorem classicSeats_length (members : List UserId) :
    (classicSeats members).length = members.length := by
  unfold classicSeats
  rw [List.length_map, List.length_zipIdx]

theorem resolveSeats_classic {lobby : GameLobby} {seats : List SeatAssignment}
    (classic : lobby.mode = .classic) (resolved : resolveSeats lobby = .ok seats) :
    seats = classicSeats lobby.listMemberIds := by
  unfold resolveSeats at resolved
  rw [classic] at resolved
  exact (Except.ok.inj resolved).symm

theorem exists_bot_of_mem_botIds {lobby : GameLobby} {userId : UserId}
    (listed : userId ∈ lobby.botIds) : ∃ member ∈ lobby.members, member.isBot = true := by
  obtain ⟨member, bot, _⟩ := List.mem_map.mp listed
  obtain ⟨inside, isBot⟩ := List.mem_filter.mp bot
  exact ⟨member, inside, isBot⟩

theorem openSession_ok {surroundings : Surroundings} {db : GamesDb} {lobbyId : LobbyId}
    {actorId : UserId} {authorisation : Authorisation} {session : GameSession}
    (opened : openSession surroundings db lobbyId actorId authorisation = .ok session) :
    ∃ fresh, requireOpen db lobbyId = .ok fresh ∧
      SessionOf surroundings.catalog fresh session := by
  simp only [openSession, bind_eq_ok, require_eq_ok] at opened
  obtain ⟨fresh, isOpen, definition, enabled, _, _, _, room, carrom, _, seats, resolved, _, _,
    same⟩ := opened
  cases same
  have sameLength : fresh.listMemberIds.length = fresh.countMembers := List.length_map _
  rw [sameLength] at room
  refine ⟨fresh, isOpen, ⟨definition, requireEnabledDefinition_ok enabled⟩, rfl, rfl, rfl,
    room, ?_, ?_⟩
  · intro classic
    change (seats.map _).length = _
    rw [List.length_map, resolveSeats_classic classic resolved, classicSeats_length, sameLength]
  · intro participant inside isBot
    obtain ⟨seat, _, rfl⟩ := List.mem_map.mp inside
    exact exists_bot_of_mem_botIds (of_decide_eq_true isBot)

/-- A session is added and lobbies change steadily. -/
def Starts (catalog : Catalog) (db after : GamesDb) : Prop :=
  AllSteady db.lobbies after.lobbies ∧ ∃ fresh ∈ db.lobbies, ∃ session,
    fresh.status = .opened ∧ SessionOf catalog fresh session ∧
      after.sessions = db.sessions ++ [session]

theorem starts_startSessionFromLobby {surroundings : Surroundings} {db after : GamesDb}
    {lobbyId : LobbyId} {actorId : UserId} {authorisation : Authorisation} {staked : Bool}
    (started : startSessionFromLobby surroundings db lobbyId actorId authorisation staked =
      .ok after) : Starts surroundings.catalog db after := by
  simp only [startSessionFromLobby, bind_eq_ok] at started
  obtain ⟨session, opened, fresh, isOpen, started⟩ := started
  obtain ⟨row, sameOpen, sessionOf⟩ := openSession_ok opened
  rw [isOpen] at sameOpen
  cases sameOpen
  obtain ⟨found, status⟩ := requireOpen_ok isOpen
  have inside := List.mem_of_getElem? found
  split at started
  · cases started
    refine ⟨AllSteady.set found (Steady.of_members rfl ?_), fresh, inside, _, status,
      sessionOf.of_same rfl, rfl⟩
    intro impossible
    cases impossible
  · cases started
    exact ⟨AllSteady.refl _, fresh, inside, _, status, sessionOf.of_same rfl, rfl⟩

theorem starts_startLobby {surroundings : Surroundings} {db after : GamesDb} {actor : UserId}
    {code : String} {authorisation : Authorisation} {staked : Bool}
    (started : startLobby surroundings db actor code authorisation staked = .ok after) :
    Starts surroundings.catalog db after := by
  simp only [startLobby, bind_eq_ok] at started
  obtain ⟨id, _, lobby, _, _, _, started⟩ := started
  exact starts_startSessionFromLobby started

theorem steady_markLobbyClosed (db : GamesDb) (id : LobbyId) {status : GameLobbyStatus}
    (isClosed : status ≠ .opened) : StaysSteady db (markLobbyClosed db id status) := by
  unfold markLobbyClosed
  split
  · exact StaysSteady.refl db
  · rename_i lobby found
    exact StaysSteady.put found (Steady.closed isClosed)

theorem startMatch_cases (surroundings : Surroundings) (db : GamesDb) (lobbyId : LobbyId)
    (hostId : UserId) (authorisation : Authorisation) (staked : Bool) :
    StaysSteady db (startMatch surroundings db lobbyId hostId authorisation staked) ∨
      Starts surroundings.catalog db (startMatch surroundings db lobbyId hostId authorisation staked) := by
  unfold startMatch
  split
  · exact Or.inl (steady_markLobbyClosed db lobbyId (by decide))
  · rename_i after started
    obtain ⟨lobbies, fresh, inside, session, opened, sessionOf, sessions⟩ :=
      starts_startSessionFromLobby started
    refine Or.inr ?_
    split
    · exact ⟨lobbies, fresh, inside, session, opened, sessionOf, sessions⟩
    · have closed : StaysSteady after (markLobbyClosed after lobbyId .cancelled) :=
        steady_markLobbyClosed after lobbyId (by decide)
      exact ⟨lobbies.trans closed.lobbies, fresh, inside, session, opened, sessionOf,
        closed.sessions.trans sessions⟩

/-! ### Steady and starting operations, together -/

/-- The operations that neither open a lobby nor edit its settings. -/
def LobbyOperation.Routine : LobbyOperation → Bool
  | .createLobby .. => false
  | .finalizeMatch .. => false
  | .updateLobbySettings .. => false
  | _ => true

theorem routine_cases (surroundings : Surroundings) (db : GamesDb) {operation : LobbyOperation}
    (routine : operation.Routine = true) :
    StaysSteady db (lobbyStep surroundings db operation) ∨
      Starts surroundings.catalog db (lobbyStep surroundings db operation) := by
  cases operation with
  | createLobby actor dto authorisation draws => cases routine
  | finalizeMatch state draws => cases routine
  | updateLobbySettings actor code dto => cases routine
  | joinLobby actor code password authorisation balances =>
      exact Or.inl (StaysSteady.orUnchanged fun _ => steady_joinLobby)
  | leaveLobby actor code => exact Or.inl (StaysSteady.orUnchanged fun _ => steady_leaveLobby)
  | transferLobbyHost id expectedOldHostId =>
      exact Or.inl (steady_transferLobbyHost db id expectedOldHostId)
  | kickMember actor code targetUserId =>
      exact Or.inl (StaysSteady.orUnchanged fun _ => steady_kickMember)
  | closeLobby actor code => exact Or.inl (StaysSteady.orUnchanged fun _ => steady_closeLobby)
  | closeRoomBoundLobby roomId => exact Or.inl (steady_closeRoomBoundLobby db roomId)
  | sweepExpiredLobby id => exact Or.inl (steady_closeIfOpen db id (by decide))
  | repointLobbyHost roomId newOwnerId =>
      exact Or.inl (steady_repointLobbyHost db roomId newOwnerId)
  | addBot actor code botId team =>
      exact Or.inl (StaysSteady.orUnchanged fun _ => steady_addBot)
  | setPlayerTeam actor code team =>
      exact Or.inl (StaysSteady.orUnchanged fun _ => steady_setPlayerTeam)
  | startLobby actor code authorisation staked =>
      change StaysSteady db (orUnchanged db _) ∨
        Starts surroundings.catalog db (orUnchanged db _)
      cases started : startLobby surroundings db actor code authorisation staked with
      | error failure => exact Or.inl (StaysSteady.refl db)
      | ok after => exact Or.inr (starts_startLobby started)
  | startMatch id hostId authorisation staked =>
      exact startMatch_cases surroundings db id hostId authorisation staked

def GamesDb.empty : GamesDb :=
  { lobbies := []
    sessions := [] }

/-! ### Capacity -/

structure GameLobby.Bounded (catalog : Catalog) (lobby : GameLobby) : Prop where
  count : lobby.status = .opened → lobby.countMembers ≤ lobby.maxPlayers
  effective : lobby.status = .opened → ∀ definition ∈ catalog lobby.definitionCode,
    lobby.maxPlayers ≤
      effectiveMaxPlayers lobby.definitionCode lobby.mode definition.maxPlayers
  seats : lobby.mode = .team2v2 → lobby.maxPlayers = 4

/-- Open lobbies are within the bounds, and no solo Carrom match has more than two
players. -/
structure GamesDb.WithinCapacity (catalog : Catalog) (db : GamesDb) : Prop where
  lobbies : ∀ lobby ∈ db.lobbies, lobby.Bounded catalog
  sessions : ∀ session ∈ db.sessions, session.code = .carrom → session.mode = .classic →
    session.participants.length ≤ 2

/-- The condition on a settings update that goes through and on a match that is
finalised. -/
def KeepsCapacity (surroundings : Surroundings) (db : GamesDb) : LobbyOperation → Prop
  | .updateLobbySettings actor code dto =>
      (updateLobbySettings surroundings db actor code dto).isOk →
        ∀ id, requireLobby surroundings db code = .ok id → ∀ fresh ∈ db.getLobbyById id,
        ∀ definition ∈ surroundings.catalog fresh.definitionCode, ∀ wanted ∈ dto.maxPlayers,
          wanted ≤ effectiveMaxPlayers fresh.definitionCode fresh.mode definition.maxPlayers ∧
            (fresh.mode = .team2v2 → wanted = 4)
  | .finalizeMatch state draws =>
      (finalizeMatch surroundings db state draws).isOk →
        ∀ definition ∈ surroundings.catalog state.gameCode,
          requiredSize state.matchType ≤
            effectiveMaxPlayers state.gameCode state.mode definition.maxPlayers
  | _ => True

theorem bounded_of_steady {catalog : Catalog} {fresh lobby : GameLobby}
    (steady : Steady fresh lobby) (bounded : fresh.Bounded catalog) :
    lobby.Bounded catalog where
  count := by
    intro isOpen
    rw [steady.maxPlayers]
    rcases steady.count with fewer | room
    · exact Nat.le_trans fewer (bounded.count (steady.opened isOpen))
    · exact room
  effective := by
    rw [steady.definitionCode, steady.mode, steady.maxPlayers]
    exact fun isOpen => bounded.effective (steady.opened isOpen)
  seats := by
    rw [steady.mode, steady.maxPlayers]
    exact bounded.seats

theorem allBounded_of_steady {catalog : Catalog} {before after : List GameLobby}
    (steady : AllSteady before after)
    (bounded : ∀ lobby ∈ before, lobby.Bounded catalog) :
    ∀ lobby ∈ after, lobby.Bounded catalog := by
  intro lobby member
  obtain ⟨fresh, inside, kept⟩ := steady lobby member
  exact bounded_of_steady kept (bounded fresh inside)

theorem players_le_two {catalog : Catalog} {fresh : GameLobby} {session : GameSession}
    (bounded : fresh.Bounded catalog) (opened : fresh.status = .opened)
    (sessionOf : SessionOf catalog fresh session) (carrom : session.code = .carrom)
    (classic : session.mode = .classic) : session.participants.length ≤ 2 := by
  obtain ⟨definition, listed⟩ := sessionOf.listed
  have effective := bounded.effective opened definition listed
  have sameCode : fresh.definitionCode = .carrom := sessionOf.code.symm.trans carrom
  have sameMode : fresh.mode = .classic := sessionOf.mode.symm.trans classic
  rw [sameCode, sameMode] at effective
  rw [sessionOf.seats classic]
  exact Nat.le_trans (bounded.count opened) effective

theorem withinCapacity_routine (surroundings : Surroundings) {db : GamesDb}
    (within : db.WithinCapacity surroundings.catalog) {operation : LobbyOperation}
    (routine : operation.Routine = true) :
    (lobbyStep surroundings db operation).WithinCapacity surroundings.catalog := by
  rcases routine_cases surroundings db routine with steady | ⟨lobbies, fresh, inside, session,
    opened, sessionOf, sessions⟩
  · refine ⟨allBounded_of_steady steady.lobbies within.lobbies, ?_⟩
    rw [steady.sessions]
    exact within.sessions
  · refine ⟨allBounded_of_steady lobbies within.lobbies, ?_⟩
    rw [sessions]
    intro row member carrom classic
    rcases List.mem_append.mp member with before | added
    · exact within.sessions row before carrom classic
    · cases List.mem_singleton.mp added
      exact players_le_two (within.lobbies fresh inside) opened sessionOf carrom classic

theorem bounded_opens_iff {catalog : Catalog} {gameCode : GameCode} {mode : GameMode}
    {count : Nat} {lobby : GameLobby} (opens : Opens catalog gameCode mode count lobby) :
    lobby.Bounded catalog ↔ ∀ definition ∈ catalog gameCode,
      count ≤ effectiveMaxPlayers gameCode mode definition.maxPlayers := by
  obtain ⟨known, listed, bound⟩ := opens.listed
  constructor
  · intro bounded definition other
    have counted := bounded.count opens.opened
    rw [opens.count, bound] at counted
    cases Option.some.inj (listed.symm.trans other)
    exact counted
  · intro fits
    refine ⟨?_, ?_, ?_⟩
    · intro _
      rw [opens.count, bound]
      exact fits known listed
    · intro _ definition other
      rw [opens.definitionCode] at other ⊢
      rw [opens.mode, bound]
      cases Option.some.inj (listed.symm.trans other)
      exact Nat.le_refl _
    · intro team
      rw [opens.mode] at team
      rw [bound, team]
      rfl

theorem withinCapacity_createLobby_iff {catalog : Catalog} {db : GamesDb}
    (within : db.WithinCapacity catalog) (lobby : GameLobby) :
    (db.createLobby lobby).WithinCapacity catalog ↔ lobby.Bounded catalog := by
  constructor
  · intro later
    exact later.lobbies lobby (List.mem_append_right _ (List.mem_singleton_self lobby))
  · intro bounded
    refine ⟨?_, within.sessions⟩
    intro row member
    rcases List.mem_append.mp member with before | added
    · exact within.lobbies row before
    · cases List.mem_singleton.mp added
      exact bounded

theorem withinCapacity_putLobby_iff {catalog : Catalog} {db : GamesDb}
    (within : db.WithinCapacity catalog) {id : LobbyId} {fresh : GameLobby}
    (found : db.lobbies[id]? = some fresh) (lobby : GameLobby) :
    (db.putLobby id lobby).WithinCapacity catalog ↔ lobby.Bounded catalog := by
  obtain ⟨inRange, _⟩ := List.getElem?_eq_some_iff.mp found
  constructor
  · intro later
    exact later.lobbies lobby (List.mem_set inRange lobby)
  · intro bounded
    refine ⟨?_, within.sessions⟩
    intro row member
    rcases List.mem_or_eq_of_mem_set member with before | rfl
    · exact within.lobbies row before
    · exact bounded

theorem bounded_updatedSettings_iff {catalog : Catalog} {fresh : GameLobby}
    (bounded : fresh.Bounded catalog) (opened : fresh.status = .opened)
    {known : GameDefinition} (isListed : catalog fresh.definitionCode = some known)
    (sha256 : String → String) {dto : UpdateLobbySettingsDto}
    (counted : ∀ wanted ∈ dto.maxPlayers, fresh.countMembers ≤ wanted) :
    (updatedSettings sha256 fresh dto).Bounded catalog ↔
      ∀ definition ∈ catalog fresh.definitionCode, ∀ wanted ∈ dto.maxPlayers,
        wanted ≤ effectiveMaxPlayers fresh.definitionCode fresh.mode definition.maxPlayers ∧
          (fresh.mode = .team2v2 → wanted = 4) := by
  cases named : dto.maxPlayers with
  | none =>
      have same : (updatedSettings sha256 fresh dto).maxPlayers = fresh.maxPlayers := by
        change dto.maxPlayers.getD fresh.maxPlayers = _
        rw [named]
        rfl
      constructor
      · intro _ _ _ wanted impossible
        cases impossible
      · intro _
        refine ⟨?_, ?_, ?_⟩
        · rw [same]
          exact bounded.count
        · rw [same]
          exact bounded.effective
        · rw [same]
          exact bounded.seats
  | some wanted =>
      have same : (updatedSettings sha256 fresh dto).maxPlayers = wanted := by
        change dto.maxPlayers.getD fresh.maxPlayers = _
        rw [named]
        rfl
      constructor
      · intro later definition listed other sameWanted
        cases sameWanted
        have effective := later.effective opened definition listed
        have seats := later.seats
        rw [same] at effective seats
        exact ⟨effective, seats⟩
      · intro fits
        refine ⟨?_, ?_, ?_⟩
        · intro _
          rw [same]
          exact counted wanted named
        · intro _ definition listed
          rw [same]
          exact (fits definition listed wanted rfl).1
        · intro team
          rw [same]
          exact (fits known isListed wanted rfl).2 team

theorem withinCapacity_step_iff (surroundings : Surroundings) {db : GamesDb}
    (within : db.WithinCapacity surroundings.catalog) (operation : LobbyOperation) :
    (lobbyStep surroundings db operation).WithinCapacity surroundings.catalog ↔
      KeepsCapacity surroundings db operation := by
  cases operation with
  | createLobby actor dto authorisation draws =>
      refine ⟨fun _ => trivial, fun _ => ?_⟩
      change (orUnchanged db _).WithinCapacity _
      cases created : createLobby surroundings db actor dto authorisation draws with
      | error failure => exact within
      | ok after =>
          obtain ⟨lobby, rfl, opens⟩ := createLobby_ok created
          apply (withinCapacity_createLobby_iff within lobby).mpr
          apply (bounded_opens_iff opens).mpr
          intro definition _
          exact effectiveMaxPlayers_pos _ _ definition
  | finalizeMatch state draws =>
      change (orUnchanged db _).WithinCapacity _ ↔
        ((finalizeMatch surroundings db state draws).isOk = true → _)
      cases finalized : finalizeMatch surroundings db state draws with
      | error failure =>
          refine ⟨fun _ impossible => ?_, fun _ => within⟩
          cases impossible
      | ok after =>
          obtain ⟨lobby, rfl, opens⟩ := finalizeMatch_ok finalized
          change (db.createLobby lobby).WithinCapacity _ ↔ _
          rw [withinCapacity_createLobby_iff within, bounded_opens_iff opens]
          exact ⟨fun fits _ => fits, fun fits => fits rfl⟩
  | updateLobbySettings actor code dto =>
      change (orUnchanged db _).WithinCapacity _ ↔
        ((updateLobbySettings surroundings db actor code dto).isOk = true → _)
      cases updated : updateLobbySettings surroundings db actor code dto with
      | error failure =>
          refine ⟨fun _ impossible => ?_, fun _ => within⟩
          cases impossible
      | ok after =>
          obtain ⟨id, fresh, definition, known, found, opened, listed, counted, rfl⟩ :=
            updateLobbySettings_ok updated
          have bounded := within.lobbies fresh (List.mem_of_getElem? found)
          change (db.putLobby id _).WithinCapacity _ ↔ _
          rw [withinCapacity_putLobby_iff within found,
            bounded_updatedSettings_iff bounded opened listed surroundings.sha256
              fun wanted named => (counted wanted named).1]
          constructor
          · intro fits _ other same row sameRow
            cases known.symm.trans same
            cases found.symm.trans sameRow
            exact fits
          · intro fits
            exact fits rfl id known fresh found
  | joinLobby | leaveLobby | transferLobbyHost | kickMember | closeLobby | closeRoomBoundLobby
  | sweepExpiredLobby | repointLobbyHost | addBot | setPlayerTeam | startLobby | startMatch =>
      exact ⟨fun _ => trivial, fun _ => withinCapacity_routine surroundings within rfl⟩

theorem withinCapacity_empty (catalog : Catalog) : GamesDb.empty.WithinCapacity catalog :=
  ⟨List.forall_mem_nil _, List.forall_mem_nil _⟩

/-- Over every history of lobbies the bounds hold exactly when no settings update
raises or lowers a bound past what the mode allows and no match is finalised in a game
that seats fewer players. -/
theorem withinCapacity_iff_keeps (surroundings : Surroundings)
    (operations : List LobbyOperation) :
    Runs.Always (lobbyStep surroundings) (GamesDb.WithinCapacity surroundings.catalog)
        GamesDb.empty operations ↔
      Runs.Each (lobbyStep surroundings) (KeepsCapacity surroundings) GamesDb.empty
        operations := by
  refine Runs.always_iff_each (fun _ => True) ?_ ?_ _ trivial
    (withinCapacity_empty surroundings.catalog) operations
  · intro _ _ _ _ _
    trivial
  · intro db operation _ within
    exact withinCapacity_step_iff surroundings within operation

/-! ### A solo Carrom match of three -/

namespace CrowdedCarrom

def surroundings : Surroundings :=
  { catalog := gameCatalogSeed
    sha256 := id
    toUpperCase := id }

def allowing : Authorisation :=
  { assertCanStartBoardGame := fun _ _ => .ok ()
    isMember := fun _ _ => true }

def wealthy : Balances :=
  { gold := 1000
    game := 1000 }

def opening (mode : GameMode) : List LobbyOperation :=
  [.createLobby "alice" { gameCode := .carrom, stake := 0, mode := some mode } allowing ["ABCDEF"]]

def raised : List LobbyOperation :=
  opening .classic ++
    [.updateLobbySettings "alice" "ABCDEF" { maxPlayers := some 3 },
      .joinLobby "bob" "ABCDEF" none allowing wealthy,
      .joinLobby "carol" "ABCDEF" none allowing wealthy,
      .startLobby "alice" "ABCDEF" allowing true]

def lowered : List LobbyOperation :=
  opening .team2v2 ++ [.updateLobbySettings "alice" "ABCDEF" { maxPlayers := some 3 }]

end CrowdedCarrom

open CrowdedCarrom in
/-- A host raises the bound of a solo Carrom lobby and starts it with three players;
another lowers a team lobby to three seats. -/
theorem withinCapacity_fails_on_update :
    (∃ session ∈ (Runs.run (lobbyStep surroundings) GamesDb.empty raised).sessions,
        session.code = .carrom ∧ session.mode = .classic ∧ session.participants.length = 3) ∧
      (∃ lobby ∈ (Runs.run (lobbyStep surroundings) GamesDb.empty lowered).lobbies,
        lobby.status = .opened ∧ lobby.mode = .team2v2 ∧ lobby.maxPlayers = 3) ∧
      ¬Runs.Always (lobbyStep surroundings) (GamesDb.WithinCapacity surroundings.catalog)
        GamesDb.empty raised ∧
      ¬Runs.Always (lobbyStep surroundings) (GamesDb.WithinCapacity surroundings.catalog)
        GamesDb.empty lowered := by
  have crowded : ∃ session ∈ (Runs.run (lobbyStep surroundings) GamesDb.empty raised).sessions,
      session.code = .carrom ∧ session.mode = .classic ∧ session.participants.length = 3 := by
    decide +kernel
  have short : ∃ lobby ∈ (Runs.run (lobbyStep surroundings) GamesDb.empty lowered).lobbies,
      lobby.status = .opened ∧ lobby.mode = .team2v2 ∧ lobby.maxPlayers = 3 := by
    decide +kernel
  refine ⟨crowded, short, ?_, ?_⟩
  · intro always
    obtain ⟨session, member, carrom, classic, three⟩ := crowded
    have two := (Runs.Always.final always).sessions session member carrom classic
    omega
  · intro always
    obtain ⟨lobby, member, _, team, three⟩ := short
    have four := ((Runs.Always.final always).lobbies lobby member).seats team
    omega

/-! ### Bots and stakes -/

/-- No session with a stake seats a bot. -/
def GamesDb.BotFree (db : GamesDb) : Prop :=
  ∀ session ∈ db.sessions, 0 < session.stake →
    ∀ participant ∈ session.participants, participant.isBot = false

/-- A settings update that goes through sets no stake on a lobby that has a bot. -/
def KeepsFriendly (surroundings : Surroundings) (db : GamesDb) : LobbyOperation → Prop
  | .updateLobbySettings actor code dto =>
      (updateLobbySettings surroundings db actor code dto).isOk →
        ∀ id, requireLobby surroundings db code = .ok id → ∀ fresh ∈ db.getLobbyById id,
          (∃ member ∈ fresh.members, member.isBot = true) → ∀ stake ∈ dto.stake, stake = 0
  | _ => True

/-- An open lobby with a bot has no stake. -/
def GameLobby.Friendly (lobby : GameLobby) : Prop :=
  lobby.status = .opened → (∃ member ∈ lobby.members, member.isBot = true) → lobby.stake = 0

structure GamesDb.Clean (db : GamesDb) : Prop where
  lobbies : ∀ lobby ∈ db.lobbies, lobby.Friendly
  sessions : db.BotFree

theorem friendly_of_steady {fresh lobby : GameLobby} (steady : Steady fresh lobby)
    (friendly : fresh.Friendly) : lobby.Friendly := by
  intro isOpen present
  rw [steady.stake]
  rcases steady.bots present with before | noStake
  · exact friendly (steady.opened isOpen) before
  · exact noStake

theorem allFriendly_of_steady {before after : List GameLobby} (steady : AllSteady before after)
    (friendly : ∀ lobby ∈ before, lobby.Friendly) : ∀ lobby ∈ after, lobby.Friendly := by
  intro lobby member
  obtain ⟨fresh, inside, kept⟩ := steady lobby member
  exact friendly_of_steady kept (friendly fresh inside)

theorem clean_routine (surroundings : Surroundings) {db : GamesDb} (clean : db.Clean)
    {operation : LobbyOperation} (routine : operation.Routine = true) :
    (lobbyStep surroundings db operation).Clean := by
  rcases routine_cases surroundings db routine with steady | ⟨lobbies, fresh, inside, session,
    opened, sessionOf, sessions⟩
  · refine ⟨allFriendly_of_steady steady.lobbies clean.lobbies, ?_⟩
    unfold GamesDb.BotFree
    rw [steady.sessions]
    exact clean.sessions
  · refine ⟨allFriendly_of_steady lobbies clean.lobbies, ?_⟩
    unfold GamesDb.BotFree
    rw [sessions]
    intro row member staked participant seated
    rcases List.mem_append.mp member with before | added
    · exact clean.sessions row before staked participant seated
    · cases List.mem_singleton.mp added
      -- A bot among the participants is a bot of the lobby, which then has no stake.
      by_contra isBot
      have present := sessionOf.bots participant seated (Bool.of_not_eq_false isBot)
      have noStake := clean.lobbies fresh inside opened present
      rw [sessionOf.stake, noStake] at staked
      exact Nat.lt_irrefl 0 staked

theorem clean_createLobby {db : GamesDb} (clean : db.Clean) {lobby : GameLobby}
    (humans : ∀ member ∈ lobby.members, member.isBot = false) :
    (db.createLobby lobby).Clean := by
  refine ⟨?_, clean.sessions⟩
  intro row member
  rcases List.mem_append.mp member with before | added
  · exact clean.lobbies row before
  · cases List.mem_singleton.mp added
    rintro _ ⟨bot, inside, isBot⟩
    rw [humans bot inside] at isBot
    cases isBot

theorem clean_step (surroundings : Surroundings) {db : GamesDb} (clean : db.Clean)
    {operation : LobbyOperation} (keeps : KeepsFriendly surroundings db operation) :
    (lobbyStep surroundings db operation).Clean := by
  cases operation with
  | createLobby actor dto authorisation draws =>
      change (orUnchanged db _).Clean
      cases created : createLobby surroundings db actor dto authorisation draws with
      | error failure => exact clean
      | ok after =>
          obtain ⟨lobby, rfl, opens⟩ := createLobby_ok created
          exact clean_createLobby clean opens.humans
  | finalizeMatch state draws =>
      change (orUnchanged db _).Clean
      cases finalized : finalizeMatch surroundings db state draws with
      | error failure => exact clean
      | ok after =>
          obtain ⟨lobby, rfl, opens⟩ := finalizeMatch_ok finalized
          exact clean_createLobby clean opens.humans
  | updateLobbySettings actor code dto =>
      change (updateLobbySettings surroundings db actor code dto).isOk = true → _ at keeps
      change (orUnchanged db (updateLobbySettings surroundings db actor code dto)).Clean
      cases updated : updateLobbySettings surroundings db actor code dto with
      | error failure => exact clean
      | ok after =>
          obtain ⟨id, fresh, definition, known, found, opened, _, _, rfl⟩ :=
            updateLobbySettings_ok updated
          rw [updated] at keeps
          refine ⟨?_, clean.sessions⟩
          intro row member
          rcases List.mem_or_eq_of_mem_set member with before | rfl
          · exact clean.lobbies row before
          · intro _ present
            change dto.stake.getD fresh.stake = 0
            cases named : dto.stake with
            | none => exact clean.lobbies fresh (List.mem_of_getElem? found) opened present
            | some stake => exact keeps rfl id known fresh found present stake named
  | joinLobby | leaveLobby | transferLobbyHost | kickMember | closeLobby | closeRoomBoundLobby
  | sweepExpiredLobby | repointLobbyHost | addBot | setPlayerTeam | startLobby | startMatch =>
      exact clean_routine surroundings clean rfl

/-- Over every history of lobbies no bot sits in a session with a stake, as long as no
settings update puts a stake on a lobby that has a bot. -/
theorem botFree_of_keepsFriendly (surroundings : Surroundings)
    (operations : List LobbyOperation)
    (keeps : Runs.Each (lobbyStep surroundings) (KeepsFriendly surroundings) GamesDb.empty
      operations) :
    Runs.Always (lobbyStep surroundings) GamesDb.BotFree GamesDb.empty operations := by
  have clean : Runs.Always (lobbyStep surroundings) GamesDb.Clean GamesDb.empty operations := by
    refine Runs.always_of_each ?_ _ ⟨List.forall_mem_nil _, List.forall_mem_nil _⟩ operations
      keeps
    intro db operation isClean permitted
    exact clean_step surroundings isClean permitted
  exact Runs.Always.imp (fun _ isClean => isClean.sessions) clean

namespace StakedBot

open CrowdedCarrom

def withBot : List LobbyOperation :=
  [.createLobby "alice" { gameCode := .ludo, stake := 0 } allowing ["ABCDEF"],
    .addBot "alice" "ABCDEF" "bot" none]

def start : LobbyOperation :=
  .startLobby "alice" "ABCDEF" allowing true

def raiseStake : LobbyOperation :=
  .updateLobbySettings "alice" "ABCDEF" { stake := some 100 }

end StakedBot

open CrowdedCarrom StakedBot in
theorem botFree_of_friendly_match :
    Runs.Always (lobbyStep surroundings) GamesDb.BotFree GamesDb.empty (withBot ++ [start]) := by
  apply botFree_of_keepsFriendly
  exact ⟨trivial, trivial, trivial, trivial⟩

open CrowdedCarrom StakedBot in
/-- A bot joins while the match is friendly, the stake is raised and the match starts. -/
theorem botFree_fails_on_raised_stake :
    (∃ session ∈ (Runs.run (lobbyStep surroundings) GamesDb.empty
        (withBot ++ [raiseStake, start])).sessions,
      session.stake = 100 ∧ session.status = .active ∧
        session.participants.map GameParticipant.isBot = [false, true]) ∧
      ¬Runs.Always (lobbyStep surroundings) GamesDb.BotFree GamesDb.empty
        (withBot ++ [raiseStake, start]) := by
  have staked : ∃ session ∈ (Runs.run (lobbyStep surroundings) GamesDb.empty
      (withBot ++ [raiseStake, start])).sessions,
      session.stake = 100 ∧ session.status = .active ∧
        session.participants.map GameParticipant.isBot = [false, true] := by
    decide +kernel
  refine ⟨staked, ?_⟩
  intro always
  obtain ⟨session, member, stake, _, bots⟩ := staked
  have humans := Runs.Always.final always session member (by rw [stake]; decide)
  have listed : true ∈ session.participants.map GameParticipant.isBot := by
    rw [bots]
    decide
  obtain ⟨participant, seated, isBot⟩ := List.mem_map.mp listed
  rw [humans participant seated] at isBot
  cases isBot

end Soulzaa.Games
