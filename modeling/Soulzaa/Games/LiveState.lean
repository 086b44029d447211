/-
Live state of a board game between moves: the move log and the turn pointer.

A relayed move is an envelope of client data of which three fields are read.  A
call to `applyMove` throws when the client's seat cannot be made a string; the
state is then left as it was.
-/

import Soulzaa.Lib.Rotation
import Soulzaa.Lib.Runs
import Soulzaa.Wallet.Types

namespace Soulzaa.Games

/-! ### Client data -/

inductive JsonValue where
  | undefined
  | null
  | bool (value : Bool)
  | string (value : String)
  /-- A number, an array or an object, by what `String` makes of it; an object that
  hides its `toString` makes it throw. -/
  | other (text : Option String)
  deriving DecidableEq, Repr

/-- `String(value)`. -/
def JsonValue.toText : JsonValue → Option String
  | .undefined => some "undefined"
  | .null => some "null"
  | .bool value => some (if value then "true" else "false")
  | .string value => some value
  | .other text => text

abbrev MoveData := List (String × JsonValue)

def MoveData.field (data : MoveData) (key : String) : JsonValue :=
  (data.lookup key).getD .undefined

structure GameMoveFrame where
  playerId : UserId
  moveData : MoveData
  timestamp : Int
  rev : Option Nat := none
  deriving DecidableEq, Repr

def GameMoveFrame.action (frame : GameMoveFrame) : String :=
  match frame.moveData.field "action" with
  | .string action => action
  | _ => ""

/-! ### State -/

structure GameLiveState where
  rev : Option Nat
  currentTurnUserId : Option UserId
  turnStartedAt : Int
  turnSeconds : Nat
  seatOrder : List UserId
  moves : List GameMoveFrame
  isOver : Bool
  timeoutCounts : List (UserId × Nat)
  deriving DecidableEq, Repr

def turnWhitelist : List String :=
  ["sync_state", "shoot", "aim", "roll_dice", "move_token", "play_card", "draw_card"]

def initLiveState (seatOrder : List UserId) (startedAtMs : Int) (turnSeconds : Nat) :
    GameLiveState :=
  { rev := some 0
    currentTurnUserId := seatOrder.head?
    turnStartedAt := startedAtMs
    turnSeconds := turnSeconds
    seatOrder := seatOrder
    moves := []
    isOver := false
    timeoutCounts := [] }

/-- The position `nextSeat` looks up; an empty id counts as no holder. -/
def seatIndex (seatOrder : List UserId) (current : Option UserId) : Option Nat :=
  match current with
  | none => none
  | some holder => if holder = "" then none else seatOrder.idxOf? holder

def nextSeat (seatOrder : List UserId) (current : Option UserId) : Option UserId :=
  Rotation.after seatOrder (seatIndex seatOrder current)

def canAct (state : GameLiveState) (frame : GameMoveFrame) : Bool :=
  frame.action = "sync_state" || some frame.playerId = state.currentTurnUserId

def setCount (counts : List (UserId × Nat)) (userId : UserId) (count : Nat) :
    List (UserId × Nat) :=
  (userId, count) :: counts.filter fun entry => entry.1 ≠ userId

/-- A seat the client names for the next turn, if it names a real one; `none` when
`String` throws. -/
def explicitSeat (seatOrder : List UserId) (explicitNext : JsonValue) :
    Option (Option UserId) :=
  match explicitNext with
  | .undefined => some none
  | .null => some none
  | .string "" => some none
  | value => value.toText.map fun seat => if seat ∈ seatOrder then some seat else none

/-- The holder of the turn after a move, and whether the turn restarts. -/
def turnAfter (state : GameLiveState) (frame : GameMoveFrame) : Option (Option UserId × Bool) :=
  if some frame.playerId = state.currentTurnUserId then
    (explicitSeat state.seatOrder (frame.moveData.field "nextTurnPlayerId")).map fun
      | some seat => (some seat, true)
      | none =>
          if frame.moveData.field "noTurnChange" ≠ .bool true ∧ frame.action ∉ turnWhitelist then
            (nextSeat state.seatOrder state.currentTurnUserId, true)
          else (state.currentTurnUserId, false)
  else some (state.currentTurnUserId, false)

def applyMove (state : GameLiveState) (frame : GameMoveFrame) : Option GameLiveState := do
  let baseRev := state.rev.getD 0
  -- `aim` stores nothing, so it consumes no revision.
  let rev := if frame.action = "aim" then baseRev else baseRev + 1
  let stamped := { frame with rev := some rev }
  let moves :=
    if frame.action = "sync_state" then [stamped]
    else if frame.action = "aim" then state.moves
    else state.moves ++ [stamped]
  let (currentTurnUserId, restarts) ← turnAfter state frame
  some
    { state with
      rev := some rev
      moves := moves
      currentTurnUserId := currentTurnUserId
      turnStartedAt := if restarts then frame.timestamp else state.turnStartedAt
      timeoutCounts :=
        match state.timeoutCounts.lookup frame.playerId with
        | none => state.timeoutCounts
        | some count =>
            if count ≠ 0 then setCount state.timeoutCounts frame.playerId 0
            else state.timeoutCounts
      isOver := state.isOver || frame.action = "game_over" }

def removeSeat (state : GameLiveState) (userId : UserId) (now : Int) : GameLiveState :=
  let wasCurrentTurn := state.currentTurnUserId = some userId
  -- The successor is looked up among the seats before the removal.
  let nextUserId :=
    if wasCurrentTurn then nextSeat state.seatOrder (some userId) else state.currentTurnUserId
  { state with
    rev := some (state.rev.getD 0 + 1)
    seatOrder := state.seatOrder.filter fun seat => seat ≠ userId
    currentTurnUserId := if nextUserId = some userId then none else nextUserId
    turnStartedAt := if wasCurrentTurn then now else state.turnStartedAt
    timeoutCounts := state.timeoutCounts.filter fun entry => entry.1 ≠ userId }

structure ForcedAdvance where
  state : GameLiveState
  skippedUserId : Option UserId
  skippedStrikes : Nat
  deriving DecidableEq, Repr

/-- An id as a condition: neither null nor empty. -/
def truthy (userId : Option UserId) : Option UserId :=
  userId.filter fun id => id ≠ ""

def forceAdvanceTurn (state : GameLiveState) (now : Int) : ForcedAdvance :=
  let skippedUserId := state.currentTurnUserId
  let nextUserId := nextSeat state.seatOrder skippedUserId
  let skippedStrikes :=
    match truthy skippedUserId with
    | some skipped => (state.timeoutCounts.lookup skipped).getD 0 + 1
    | none => 0
  let struck :=
    match truthy skippedUserId with
    | some skipped => setCount state.timeoutCounts skipped skippedStrikes
    | none => state.timeoutCounts
  let cleared :=
    match truthy nextUserId with
    | some next => setCount struck next 0
    | none => struck
  { state :=
      { state with
        rev := some (state.rev.getD 0 + 1)
        currentTurnUserId := nextUserId
        turnStartedAt := now
        timeoutCounts := cleared }
    skippedUserId := skippedUserId
    skippedStrikes := skippedStrikes }

/-! ### Runs -/

inductive LiveOperation where
  | applyMove (frame : GameMoveFrame)
  | removeSeat (userId : UserId) (now : Int)
  | forceAdvanceTurn (now : Int)
  deriving DecidableEq, Repr

/-- The state an operation returns, if it returns; a move is applied only when
`canAct` accepts it. -/
def LiveOperation.perform (state : GameLiveState) : LiveOperation → Option GameLiveState
  | .applyMove frame => if canAct state frame then Games.applyMove state frame else none
  | .removeSeat userId now => some (Games.removeSeat state userId now)
  | .forceAdvanceTurn now => some (Games.forceAdvanceTurn state now).state

def liveStep (state : GameLiveState) (operation : LiveOperation) : GameLiveState :=
  (operation.perform state).getD state

def LiveOperation.IsAim : LiveOperation → Prop
  | .applyMove frame => frame.action = "aim"
  | _ => False

def GameLiveState.revision (state : GameLiveState) : Nat :=
  state.rev.getD 0

/-- The turn is with a seated player, or with nobody when the table is empty. -/
structure Seated (seatOrder : List UserId) (current : Option UserId) : Prop where
  holder : ∀ holder, current = some holder → holder ∈ seatOrder
  vacant : current = none ↔ seatOrder = []

/-- The turn is well placed, and the revisions in the log grow and stay within the
state's own. -/
structure GameLiveState.Sound (state : GameLiveState) : Prop where
  distinct : state.seatOrder.Nodup
  named : "" ∉ state.seatOrder
  turn : Seated state.seatOrder state.currentTurnUserId
  stamped : ∀ frame ∈ state.moves, ∃ rev, frame.rev = some rev ∧ rev ≤ state.revision
  growing : (state.moves.filterMap GameMoveFrame.rev).Pairwise (· < ·)

/-- Who may move the turn pointer: a move of the holder, the removal of the
holder's seat, or the watchdog. -/
def LiveOperation.MovesTurn (state : GameLiveState) : LiveOperation → Prop
  | .applyMove frame => some frame.playerId = state.currentTurnUserId
  | .removeSeat userId _ => some userId = state.currentTurnUserId
  | .forceAdvanceTurn _ => True

structure Progresses (state : GameLiveState) (operation : LiveOperation) : Prop where
  monotone : state.revision ≤ (liveStep state operation).revision
  strict : (operation.perform state).isSome → ¬operation.IsAim →
    state.revision < (liveStep state operation).revision
  latched : state.isOver = true → (liveStep state operation).isOver = true
  turn : (liveStep state operation).currentTurnUserId ≠ state.currentTurnUserId →
    operation.MovesTurn state

/-! ### The turn pointer -/

theorem seated_some {seatOrder : List UserId} {seat : UserId} (member : seat ∈ seatOrder) :
    Seated seatOrder (some seat) := by
  refine ⟨?_, ?_⟩
  · intro holder same
    cases same
    exact member
  · constructor
    · intro impossible
      cases impossible
    · intro empty
      rw [empty] at member
      cases member

theorem seated_empty : Seated [] none := by
  refine ⟨?_, iff_of_true rfl rfl⟩
  intro holder impossible
  cases impossible

theorem seated_nextSeat (seatOrder : List UserId) (current : Option UserId) :
    Seated seatOrder (nextSeat seatOrder current) := by
  exact ⟨fun _ follows => Rotation.after_mem follows, Rotation.after_eq_none_iff _ _⟩

theorem nextSeat_ne_self {seatOrder : List UserId} (distinct : seatOrder.Nodup)
    (named : "" ∉ seatOrder) {holder : UserId} (member : holder ∈ seatOrder)
    (company : 1 < seatOrder.length) : nextSeat seatOrder (some holder) ≠ some holder := by
  have notEmpty : holder ≠ "" := fun empty => named (empty ▸ member)
  obtain ⟨index, found⟩ := Option.isSome_iff_exists.mp
    (List.isSome_idxOf?.mpr member)
  unfold nextSeat seatIndex
  simp only [if_neg notEmpty, found]
  exact Rotation.after_ne_self distinct (Rotation.getElem?_of_idxOf? found) company

theorem explicitSeat_mem {seatOrder : List UserId} {explicitNext : JsonValue} {seat : UserId}
    (honoured : explicitSeat seatOrder explicitNext = some (some seat)) : seat ∈ seatOrder := by
  unfold explicitSeat at honoured
  split at honoured
  · cases honoured
  · cases honoured
  · cases honoured
  · obtain ⟨text, _, chosen⟩ := Option.map_eq_some_iff.mp honoured
    split at chosen
    · cases chosen
      assumption
    · cases chosen

/-- A move leaves the turn where it was unless the holder made it. -/
theorem turnAfter_cases {state : GameLiveState} {frame : GameMoveFrame}
    {current : Option UserId} {restarts : Bool}
    (decided : turnAfter state frame = some (current, restarts)) :
    current = state.currentTurnUserId ∨
      some frame.playerId = state.currentTurnUserId ∧ Seated state.seatOrder current := by
  unfold turnAfter at decided
  by_cases owner : some frame.playerId = state.currentTurnUserId
  · rw [if_pos owner] at decided
    obtain ⟨chosen, explicit, result⟩ := Option.map_eq_some_iff.mp decided
    cases chosen with
    | some seat =>
        cases result
        exact Or.inr ⟨owner, seated_some (explicitSeat_mem explicit)⟩
    | none =>
        dsimp only at result
        split at result
        · cases result
          exact Or.inr ⟨owner, seated_nextSeat _ _⟩
        · cases result
          exact Or.inl rfl
  · rw [if_neg owner] at decided
    cases decided
    exact Or.inl rfl

theorem seated_removeSeat {state : GameLiveState} (sound : state.Sound) (userId : UserId)
    (now : Int) :
    Seated (removeSeat state userId now).seatOrder
      (removeSeat state userId now).currentTurnUserId := by
  by_cases wasCurrent : state.currentTurnUserId = some userId
  · have member := sound.turn.holder userId wasCurrent
    have successor := seated_nextSeat state.seatOrder (some userId)
    simp only [removeSeat, wasCurrent, if_true]
    by_cases alone : nextSeat state.seatOrder (some userId) = some userId
    · -- Only the last seat is its own successor, so nobody is left.
      have small : ¬1 < state.seatOrder.length := fun company =>
        nextSeat_ne_self sound.distinct sound.named member company alone
      have only : state.seatOrder = [userId] := by
        obtain ⟨seat, single⟩ := List.length_eq_one_iff.mp
          (by have := List.length_pos_of_mem member; omega : state.seatOrder.length = 1)
        rw [single, List.mem_singleton] at member
        rw [single, member]
      rw [if_pos alone, only]
      simpa using seated_empty
    · rw [if_neg alone]
      cases follows : nextSeat state.seatOrder (some userId) with
      | none =>
          have empty := successor.vacant.mp follows
          rw [empty] at member
          cases member
      | some next =>
          rw [follows] at alone successor
          have seated := successor.holder next rfl
          exact seated_some (List.mem_filter.mpr ⟨seated, by simpa using alone⟩)
  · simp only [removeSeat, wasCurrent, if_false]
    cases holds : state.currentTurnUserId with
    | none =>
        have empty := sound.turn.vacant.mp holds
        rw [empty]
        exact seated_empty
    | some holder =>
        have member := sound.turn.holder holder holds
        have other : holder ≠ userId := fun same => wasCurrent (same ▸ holds)
        exact seated_some (List.mem_filter.mpr ⟨member, by simpa using other⟩)

/-! ### One operation -/

theorem stamped_applyMove {state next : GameLiveState} {frame : GameMoveFrame}
    (sound : state.Sound) (applied : applyMove state frame = some next) :
    (∀ entry ∈ next.moves, ∃ rev, entry.rev = some rev ∧ rev ≤ next.revision) ∧
      (next.moves.filterMap GameMoveFrame.rev).Pairwise (· < ·) := by
  simp only [applyMove, Option.bind_eq_bind, Option.bind_eq_some_iff, Option.some.injEq] at applied
  obtain ⟨_, _, rfl⟩ := applied
  by_cases sync : frame.action = "sync_state"
  · simp [sync, GameLiveState.revision]
  · by_cases aim : frame.action = "aim"
    · simp only [aim, if_true]
      exact ⟨sound.stamped, sound.growing⟩
    · simp only [sync, aim, if_false, GameLiveState.revision, Option.getD_some]
      refine ⟨?_, ?_⟩
      · intro entry member
        rcases List.mem_append.mp member with earlier | latest
        · obtain ⟨rev, stamp, bounded⟩ := sound.stamped entry earlier
          exact ⟨rev, stamp, Nat.le_succ_of_le bounded⟩
        · rw [List.mem_singleton] at latest
          exact ⟨_, by rw [latest], Nat.le_refl _⟩
      · rw [List.filterMap_append, List.pairwise_append]
        refine ⟨sound.growing, List.pairwise_singleton _ _, ?_⟩
        intro earlier logged latest new
        obtain ⟨entry, member, stamp⟩ := List.mem_filterMap.mp logged
        obtain ⟨rev, same, bounded⟩ := sound.stamped entry member
        rw [stamp] at same
        cases same
        have isNew : latest = state.rev.getD 0 + 1 := by simpa using new
        rw [isNew]
        exact Nat.lt_succ_of_le bounded

theorem sound_applyMove {state next : GameLiveState} {frame : GameMoveFrame}
    (sound : state.Sound) (applied : applyMove state frame = some next) : next.Sound := by
  have log := stamped_applyMove sound applied
  simp only [applyMove, Option.bind_eq_bind, Option.bind_eq_some_iff, Option.some.injEq] at applied
  obtain ⟨⟨current, restarts⟩, decided, rfl⟩ := applied
  refine
    { distinct := sound.distinct
      named := sound.named
      turn := ?_
      stamped := log.1
      growing := log.2 }
  rcases turnAfter_cases decided with same | ⟨_, seated⟩
  · change Seated state.seatOrder current
    rw [same]
    exact sound.turn
  · exact seated

theorem sound_removeSeat {state : GameLiveState} (sound : state.Sound) (userId : UserId)
    (now : Int) : (removeSeat state userId now).Sound where
  distinct := sound.distinct.filter _
  named := fun member => sound.named (List.mem_of_mem_filter member)
  turn := seated_removeSeat sound userId now
  stamped := by
    intro entry member
    obtain ⟨rev, stamp, bounded⟩ := sound.stamped entry member
    exact ⟨rev, stamp, Nat.le_succ_of_le bounded⟩
  growing := sound.growing

theorem sound_forceAdvanceTurn {state : GameLiveState} (sound : state.Sound) (now : Int) :
    (forceAdvanceTurn state now).state.Sound where
  distinct := sound.distinct
  named := sound.named
  turn := seated_nextSeat _ _
  stamped := by
    intro entry member
    obtain ⟨rev, stamp, bounded⟩ := sound.stamped entry member
    exact ⟨rev, stamp, Nat.le_succ_of_le bounded⟩
  growing := sound.growing

theorem sound_liveStep {state : GameLiveState} (sound : state.Sound)
    (operation : LiveOperation) : (liveStep state operation).Sound := by
  unfold liveStep
  cases performed : operation.perform state with
  | none => exact sound
  | some next =>
      cases operation with
      | applyMove frame =>
          obtain ⟨_, applied⟩ := Option.ite_none_right_eq_some.mp performed
          exact sound_applyMove sound applied
      | removeSeat userId now =>
          cases performed
          exact sound_removeSeat sound userId now
      | forceAdvanceTurn now =>
          cases performed
          exact sound_forceAdvanceTurn sound now

theorem progresses_of_none {state : GameLiveState} {operation : LiveOperation}
    (threw : operation.perform state = none) : Progresses state operation := by
  have unchanged : liveStep state operation = state := by
    unfold liveStep
    rw [threw]
    rfl
  refine ⟨?_, ?_, ?_, ?_⟩
  · rw [unchanged]
  · intro returned
    rw [threw] at returned
    cases returned
  · rw [unchanged]
    exact id
  · rw [unchanged]
    exact fun moved => absurd rfl moved

theorem progresses_applyMove {state next : GameLiveState} {frame : GameMoveFrame}
    (performed : (LiveOperation.applyMove frame).perform state = some next) :
    Progresses state (.applyMove frame) := by
  have stepped : liveStep state (.applyMove frame) = next := by
    unfold liveStep
    rw [performed]
    rfl
  obtain ⟨_, applied⟩ := Option.ite_none_right_eq_some.mp performed
  simp only [applyMove, Option.bind_eq_bind, Option.bind_eq_some_iff,
    Option.some.injEq] at applied
  obtain ⟨⟨current, restarts⟩, decided, rfl⟩ := applied
  refine ⟨?_, ?_, ?_, ?_⟩
  · rw [stepped]
    change state.rev.getD 0 ≤ if frame.action = "aim" then _ else _
    split <;> omega
  · intro _ notAim
    change ¬frame.action = "aim" at notAim
    rw [stepped]
    change state.rev.getD 0 < if frame.action = "aim" then _ else _
    rw [if_neg notAim]
    exact Nat.lt_succ_self _
  · intro wasOver
    rw [stepped]
    change (state.isOver || _) = true
    rw [wasOver, Bool.true_or]
  · intro moved
    rw [stepped] at moved
    rcases turnAfter_cases decided with same | ⟨owner, _⟩
    · exact absurd same moved
    · exact owner

theorem progresses_removeSeat (state : GameLiveState) (userId : UserId) (now : Int) :
    Progresses state (.removeSeat userId now) where
  monotone := Nat.le_succ _
  strict := fun _ _ => Nat.lt_succ_self _
  latched := id
  turn := by
    intro moved
    by_contra other
    apply moved
    have notCurrent : ¬state.currentTurnUserId = some userId := fun same => other same.symm
    change (removeSeat state userId now).currentTurnUserId = _
    simp only [removeSeat, notCurrent, if_false]

theorem progresses (state : GameLiveState) (operation : LiveOperation) :
    Progresses state operation := by
  cases performed : operation.perform state with
  | none => exact progresses_of_none performed
  | some next =>
      cases operation with
      | applyMove frame => exact progresses_applyMove performed
      | removeSeat userId now => exact progresses_removeSeat state userId now
      | forceAdvanceTurn now =>
          exact ⟨Nat.le_succ _, fun _ _ => Nat.lt_succ_self _, id, fun _ => trivial⟩

/-! ### Whole runs -/

theorem sound_initLiveState {seatOrder : List UserId} (distinct : seatOrder.Nodup)
    (named : "" ∉ seatOrder) (startedAtMs : Int) (turnSeconds : Nat) :
    (initLiveState seatOrder startedAtMs turnSeconds).Sound where
  distinct := distinct
  named := named
  turn :=
    ⟨fun _ first => List.mem_of_head? first, List.head?_eq_none_iff⟩
  stamped := List.forall_mem_nil _
  growing := List.Pairwise.nil

/-- Every state of a run is sound, and every operation moves the revision, the
latch and the turn pointer only as it may. -/
theorem liveState_runs {seatOrder : List UserId} (distinct : seatOrder.Nodup)
    (named : "" ∉ seatOrder) (startedAtMs : Int) (turnSeconds : Nat)
    (operations : List LiveOperation) :
    Runs.Always liveStep GameLiveState.Sound
        (initLiveState seatOrder startedAtMs turnSeconds) operations ∧
      Runs.Each liveStep Progresses
        (initLiveState seatOrder startedAtMs turnSeconds) operations := by
  constructor
  · apply Runs.always_of_step
    · intro state operation sound
      exact sound_liveStep sound operation
    · exact sound_initLiveState distinct named startedAtMs turnSeconds
  · apply Runs.each_of_forall_mem
    intro operation _ state
    exact progresses state operation

theorem liveState_runs_of_two :
    Runs.Always liveStep GameLiveState.Sound (initLiveState ["ann", "bea"] 0 30)
        [.forceAdvanceTurn 40, .removeSeat "bea" 50] ∧
      Runs.Each liveStep Progresses (initLiveState ["ann", "bea"] 0 30)
        [.forceAdvanceTurn 40, .removeSeat "bea" 50] :=
  liveState_runs (by decide) (by decide) 0 30 _

/-- The watchdog moves the turn although its holder made no move, and an empty id
leaves the turn with nobody at a table that is not empty. -/
theorem turn_moves_without_a_move :
    ((liveStep (initLiveState ["ann", "bea"] 0 30) (.forceAdvanceTurn 40)).currentTurnUserId ≠
        (initLiveState ["ann", "bea"] 0 30).currentTurnUserId) ∧
      ((liveStep (initLiveState ["", "ann"] 0 30) (.removeSeat "" 40)).currentTurnUserId = none ∧
        (liveStep (initLiveState ["", "ann"] 0 30) (.removeSeat "" 40)).seatOrder = ["ann"]) := by
  decide

end Soulzaa.Games
