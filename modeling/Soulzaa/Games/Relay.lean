/-
Moves relayed to a session that may be about to close.

`relayMove` looks at the session and the mover before it takes the session lock, and
`forfeit` at the session.  Under the lock neither looks at the session again.
-/

import Soulzaa.Games.LiveState
import Soulzaa.Games.Session

namespace Soulzaa.Games

def gameTurnSeconds : Nat := 30

structure MoveInput where
  actor : UserId
  moveData : MoveData
  onBehalfOf : Option UserId := none
  deriving DecidableEq, Repr

/-- The bot seat that the host drives. -/
def MoveInput.botSeat (input : MoveInput) : Option UserId :=
  input.onBehalfOf.filter fun seat => seat ≠ "" && seat ≠ input.actor

/-- A `relayMove` outside the lock. -/
inductive RelayCall where
  /-- `getParticipant` of the mover -/
  | checking (input : MoveInput)
  /-- the lock -/
  | waiting (frame : GameMoveFrame)
  deriving DecidableEq, Repr

/-- What a `relayMove` that holds the lock awaits. -/
inductive RelaySection where
  /-- the cached state -/
  | loading (frame : GameMoveFrame)
  /-- `listParticipants`, where no state is cached -/
  | reinitialising (frame : GameMoveFrame)
  /-- `cache.set` -/
  | storing (frame : GameMoveFrame) (next : GameLiveState)
  deriving DecidableEq, Repr

def RelaySection.frame : RelaySection → GameMoveFrame
  | .loading frame => frame
  | .reinitialising frame => frame
  | .storing frame _ => frame

/-- A session with its live state in the cache and the moves on their way to it. -/
structure Board where
  play : MatchPlay
  startedAtMs : Int
  live : Option GameLiveState
  relays : List RelayCall
  relaying : Option RelaySection

inductive BoardEvent where
  /-- The session's other calls; `keepsLive` when the cache does not delete the state. -/
  | play (event : MatchEvent) (now : Int) (keepsLive : Bool)
  | relayMove (input : MoveInput)
  /-- A relay outside the lock goes on or, when `fails`, gives up. -/
  | resume (position : Nat) (fails : Bool) (now : Int)
  /-- The relay under the lock goes on. -/
  | relay (fails : Bool)
  /-- The live state outlives its time in the cache. -/
  | expire

/-- The seat a move is relayed for, if it is still playing. -/
def moverOf (participants : List GameParticipant) (input : MoveInput) : Option UserId :=
  match input.botSeat with
  | some seat =>
      ((getParticipant participants seat).filter fun bot => bot.isBot && bot.isPlaying).map
        fun _ => seat
  | none =>
      ((getParticipant participants input.actor).filter GameParticipant.isPlaying).map
        fun _ => input.actor

/-- A state of before revisions counts from zero. -/
def normalizeRev (cached : GameLiveState) : GameLiveState :=
  { cached with rev := some (cached.rev.getD 0) }

def playingSeats (participants : List GameParticipant) : List UserId :=
  userIds (participants.filter GameParticipant.isPlaying)

namespace Board

def freshLiveState (board : Board) : GameLiveState :=
  initLiveState (playingSeats board.play.session.participants) board.startedAtMs gameTurnSeconds

def loadOrInitLiveState (board : Board) : GameLiveState :=
  match board.live with
  | some cached => normalizeRev cached
  | none => board.freshLiveState

/-- Nobody holds the session lock. -/
def Unlocked (board : Board) : Prop := board.relaying = none ∧ board.play.critical = none

instance (board : Board) : Decidable board.Unlocked :=
  decidable_of_iff (board.relaying.isNone = true ∧ board.play.critical.isNone = true)
    (and_congr Option.isNone_iff_eq_none Option.isNone_iff_eq_none)

/-! ### Relays -/

def relayMove (board : Board) (input : MoveInput) : Board :=
  match assertActive board.play.session with
  | .error _ => board
  | .ok _ =>
      if input.botSeat.isSome ∧ board.play.session.hostId ≠ input.actor then board
      else { board with relays := board.relays ++ [.checking input] }

def dropRelay (board : Board) (position : Nat) : Board :=
  { board with relays := board.relays.eraseIdx position }

def resumeRelay (board : Board) (position : Nat) (now : Int) : RelayCall → Board
  | .checking input =>
      match moverOf board.play.session.participants input with
      | none => board.dropRelay position
      | some mover =>
          { board with
            relays := board.relays.set position
              (.waiting
                { playerId := mover
                  moveData := input.moveData
                  timestamp := now }) }
  | .waiting frame =>
      if board.Unlocked then { board.dropRelay position with relaying := some (.loading frame) }
      else board

/-- The checks of a move against the live state. -/
def advanceLive (board : Board) (current : GameLiveState) (frame : GameMoveFrame) : Board :=
  if current.isOver then { board with relaying := none }
  else if canAct current frame then
    { board with relaying := (applyMove current frame).map (.storing frame) }
  else { board with relaying := none }

def stepRelay (board : Board) : RelaySection → Board
  | .loading frame =>
      match board.live with
      | some cached => board.advanceLive (normalizeRev cached) frame
      | none => { board with relaying := some (.reinitialising frame) }
  | .reinitialising frame => board.advanceLive board.freshLiveState frame
  | .storing _ next =>
      { board with
        live := some next
        relaying := none }

/-! ### The other calls -/

/-- The live state after a step of the session's other calls: a cancellation deletes
it, and a forfeit after which the match goes on stores it without the seat. -/
def liveAfter (board : Board) (event : MatchEvent) (now : Int) (keepsLive : Bool) :
    Option GameLiveState :=
  match event, board.play.critical with
  | .inside reply, some (.refunding _ []) =>
      if reply.fails ∨ keepsLive then board.live else none
  | .inside reply, some (.withdrawing _ actor _) =>
      if reply.fails then board.live else some (removeSeat board.loadOrInitLiveState actor now)
  | _, _ => board.live

def stepPlay (board : Board) (event : MatchEvent) (now : Int) (keepsLive : Bool) : Board :=
  { board with
    play := board.play.step event
    live := board.liveAfter event now keepsLive }

def step (board : Board) : BoardEvent → Board
  | .play (.enter position reply) now keepsLive =>
      match board.relaying with
      | some _ => board
      | none => board.stepPlay (.enter position reply) now keepsLive
  | .play event now keepsLive => board.stepPlay event now keepsLive
  | .relayMove input => board.relayMove input
  | .resume position fails now =>
      match board.relays[position]? with
      | none => board
      | some call =>
          if fails then board.dropRelay position else board.resumeRelay position now call
  | .relay fails =>
      match board.relaying with
      | none => board
      | some awaited =>
          if fails then { board with relaying := none } else board.stepRelay awaited
  | .expire => { board with live := none }

/-! ### Accepted moves -/

/-- The session is ACTIVE, and the mover has not been marked LOST. -/
def Admits (board : Board) (frame : GameMoveFrame) : Prop :=
  board.play.session.status = .active ∧
    ∀ participant ∈ board.play.session.participants,
      participant.userId = frame.playerId → participant.status ≠ .lost

instance (board : Board) (frame : GameMoveFrame) : Decidable (board.Admits frame) :=
  inferInstanceAs (Decidable (_ ∧ ∀ participant ∈ _, _ → _ ≠ _))

/-- The event stores the state of the move, which is thereby accepted. -/
def Commits (board : Board) (frame : GameMoveFrame) (event : BoardEvent) : Prop :=
  event = .relay false ∧ ∃ next, board.relaying = some (.storing frame next)

/-- No move lands on a finished match, and a closed session gets no live state. -/
structure Clean (board : Board) (event : BoardEvent) : Prop where
  accepted : ∀ frame, board.Commits frame event → board.Admits frame
  created : board.live = none → (board.step event).live ≠ none →
    board.play.session.status = .active

/-! ### The condition -/

end Board

def Call.isForfeit : Call → Bool
  | .forfeit .. => true
  | _ => false

/-- A forfeit that may yet store the live state. -/
def Critical.forfeits : Critical → Bool
  | .forfeiting .. => true
  | .leaving .. => true
  | .withdrawing .. => true
  | _ => false

namespace Board

/-- Neither a relay nor a forfeit is under the lock. -/
def Calm (board : Board) : Prop :=
  board.relaying = none ∧ board.play.critical.all (fun critical => !critical.forfeits) = true

/-- The checks of a relay before the lock hold again. -/
def Readmits (board : Board) : RelayCall → Prop
  | .checking _ => True
  | .waiting frame => board.Admits frame

/-- What was checked before the lock still holds when it is taken, and a start that
fails does not close the session meanwhile. -/
def Permits (board : Board) : BoardEvent → Prop
  | .play (.enter position _) _ _ =>
      (board.play.calls[position]?).any Call.isForfeit = true → board.Unlocked →
        board.play.session.status = .active
  | .play (.start reply) _ _ =>
      board.play.start = .abandon → reply.fails = false → board.Calm
  | .resume position fails _ =>
      ∀ call ∈ board.relays[position]?, fails = false → board.Unlocked → board.Readmits call
  | _ => True

instance (board : Board) : Decidable board.Calm := inferInstanceAs (Decidable (_ ∧ _))

instance (board : Board) : (call : RelayCall) → Decidable (board.Readmits call)
  | .checking _ => inferInstanceAs (Decidable True)
  | .waiting frame => inferInstanceAs (Decidable (board.Admits frame))

instance (board : Board) : (event : BoardEvent) → Decidable (board.Permits event)
  | .play (.enter _ _) _ _ => inferInstanceAs (Decidable (_ = true → _ → _ = _))
  | .play (.start _) _ _ => inferInstanceAs (Decidable (_ = _ → _ = _ → board.Calm))
  | .resume position _ _ => inferInstanceAs (Decidable (∀ call ∈ board.relays[position]?, _))
  | .play (.request _) _ _ => inferInstanceAs (Decidable True)
  | .play (.inside _) _ _ => inferInstanceAs (Decidable True)
  | .play (.outside _ _) _ _ => inferInstanceAs (Decidable True)
  | .play .lapse _ _ => inferInstanceAs (Decidable True)
  | .relayMove _ => inferInstanceAs (Decidable True)
  | .relay _ => inferInstanceAs (Decidable True)
  | .expire => inferInstanceAs (Decidable True)

end Board

/-! ### Steps of the other calls -/

namespace MatchPlay

/-- The status, the lock and who is marked LOST are left alone. -/
structure Undisturbed (before after : MatchPlay) : Prop where
  status : after.session.status = before.session.status
  critical : after.critical = before.critical
  lost : ∀ row ∈ after.session.participants, row.status = .lost →
    ∃ earlier ∈ before.session.participants,
      earlier.userId = row.userId ∧ earlier.status = .lost

variable {play after : MatchPlay}

theorem undisturbed_of_session (session : after.session = play.session)
    (critical : after.critical = play.critical) : play.Undisturbed after := by
  refine ⟨congrArg GameSession.status session, critical, ?_⟩
  intro row member isLost
  rw [session] at member
  exact ⟨row, member, rfl, isLost⟩

theorem undisturbed_of_drop {position : Nat}
    (undisturbed : (play.drop position).Undisturbed after) : play.Undisturbed after :=
  ⟨undisturbed.status, undisturbed.critical, undisturbed.lost⟩

theorem undisturbed_of_update {userId : UserId} {update : GameParticipant → GameParticipant}
    (session : after.session = (play.updateParticipant userId update).session)
    (critical : after.critical = play.critical)
    (keeps : ∀ row, (update row).status = .lost → row.status = .lost)
    (sameUser : ∀ row, (update row).userId = row.userId) : play.Undisturbed after := by
  refine ⟨?_, critical, ?_⟩
  · rw [session]
    rfl
  intro row member isLost
  rw [session] at member
  obtain ⟨earlier, isEarlier, rfl⟩ := List.mem_map.mp member
  refine ⟨earlier, isEarlier, ?_⟩
  split at isLost
  · rename_i isUser
    rw [if_pos isUser, sameUser]
    exact ⟨rfl, keeps earlier isLost⟩
  · rename_i isOther
    rw [if_neg isOther]
    exact ⟨rfl, isLost⟩

theorem undisturbed_stepStart (reply : Reply)
    (stays : play.start = .abandon → reply.fails = true) :
    play.Undisturbed (play.stepStart reply) := by
  unfold stepStart
  split
  · exact undisturbed_of_session rfl rfl
  · split
    · exact undisturbed_of_session rfl rfl
    · split <;> exact undisturbed_of_session rfl rfl
  · split
    · exact undisturbed_of_session rfl rfl
    · exact undisturbed_of_update rfl rfl (fun _ isLost => isLost) fun _ => rfl
  · exact undisturbed_of_session rfl rfl
  · split <;> exact undisturbed_of_session rfl rfl
  · split
    · exact undisturbed_of_session rfl rfl
    · refine undisturbed_of_update rfl rfl ?_ fun _ => rfl
      intro row isLost
      cases isLost
  · rename_i abandons
    rw [if_pos (stays abandons)]
    exact undisturbed_of_session rfl rfl
  · split
    · exact undisturbed_of_session rfl rfl
    · exact ⟨rfl, rfl, fun row member isLost => ⟨row, member, rfl, isLost⟩⟩
  · exact undisturbed_of_session rfl rfl
  · exact undisturbed_of_session rfl rfl

theorem critical_stepStart (reply : Reply) : (play.stepStart reply).critical = play.critical := by
  unfold stepStart
  split
  · rfl
  · split
    · rfl
    · split <;> rfl
  · split <;> rfl
  · rfl
  · split <;> rfl
  · split <;> rfl
  · split <;> rfl
  · split <;> rfl
  · rfl
  · rfl

theorem undisturbed_handOverTo (hostId : UserId) (next : Option UserId) :
    play.Undisturbed (play.handOverTo hostId next) := by
  unfold handOverTo
  split
  · exact undisturbed_of_session rfl rfl
  · split <;> exact undisturbed_of_session rfl rfl

theorem undisturbed_stepOutside (reply : Reply) (call : Call) :
    play.Undisturbed (play.stepOutside reply call) := by
  unfold stepOutside
  split
  · split <;> exact undisturbed_of_session rfl rfl
  · split <;> exact undisturbed_of_session rfl rfl
  · exact ⟨rfl, rfl, fun row member isLost => ⟨row, member, rfl, isLost⟩⟩
  · dsimp only
    split
    · exact undisturbed_handOverTo _ _
    · exact undisturbed_of_session rfl rfl
  · exact undisturbed_of_session rfl rfl

theorem undisturbed_accept (request : Request) : play.Undisturbed (play.accept request) := by
  have accepts := accepts_accept play request
  generalize play.accept request = accepted at accepts ⊢
  cases accepts <;> exact undisturbed_of_session rfl rfl

/-- A call that takes the lock as a forfeit. -/
theorem forfeits_enter {reply : Reply} {call : Call} {critical : Critical}
    (unlocked : play.critical = none) (entered : (play.enter reply call).critical = some critical)
    (forfeits : critical.forfeits = true) :
    call.isForfeit = true ∧ (play.enter reply call).session = play.session := by
  have enters := enters_enter play reply call
  generalize play.enter reply call = after at enters entered ⊢
  cases enters with
  | forfeit session playing => exact ⟨rfl, rfl⟩
  | refused call =>
      rw [unlocked] at entered
      cases entered
  | forget =>
      change play.critical = some critical at entered
      rw [unlocked] at entered
      cases entered
  | sweep stored active =>
      change play.critical = some critical at entered
      rw [unlocked] at entered
      cases entered
  | abort status active =>
      cases entered
      cases forfeits
  | settle input active unsettled =>
      cases entered
      cases forfeits
  | report actor winners active unreported =>
      cases entered
      cases forfeits
  | confirm session actor active =>
      cases entered
      cases forfeits
  | dispute actor active =>
      cases entered
      cases forfeits

/-- Nobody but a forfeit goes on as a forfeit, and it leaves the status alone. -/
theorem forfeits_stepInside {reply : Reply} {critical next : Critical}
    (goesOn : (play.stepInside reply critical).critical = some next)
    (forfeits : next.forfeits = true) :
    critical.forfeits = true ∧
      (play.stepInside reply critical).session.status = play.session.status := by
  unfold stepInside at goesOn ⊢
  cases critical with
  | forfeiting session actor =>
      refine ⟨rfl, ?_⟩
      dsimp only at goesOn ⊢
      split
      · rfl
      · unfold decideLeave
        dsimp only
        split
        · rfl
        · split <;> rfl
  | leaving session actor participants =>
      refine ⟨rfl, ?_⟩
      dsimp only
      split <;> rfl
  | withdrawing session actor participants =>
      refine ⟨rfl, ?_⟩
      dsimp only
      split
      · rfl
      split
      · exact (undisturbed_handOverTo _ _).status
      · rfl
  | aborting status =>
      dsimp only at goesOn
      split at goesOn
      · cases goesOn
      · cases goesOn
        cases forfeits
  | refunding status rest =>
      cases rest with
      | nil =>
          dsimp only at goesOn
          split at goesOn <;> cases goesOn
      | cons participant rest =>
          dsimp only at goesOn
          split at goesOn <;>
          · cases goesOn
            cases forfeits
  | refunded status participant refundTxnId rest =>
      dsimp only at goesOn
      split at goesOn <;>
      · cases goesOn
        cases forfeits
  | settling input fresh =>
      dsimp only at goesOn
      split at goesOn
      · cases goesOn
      split at goesOn
      · cases goesOn
      · cases goesOn
        cases forfeits
  | paying input fresh participants =>
      dsimp only at goesOn
      split at goesOn <;> cases goesOn
  | reporting actor winners =>
      dsimp only at goesOn
      split at goesOn
      · cases goesOn
      split at goesOn <;> cases goesOn
  | confirming session actor =>
      dsimp only at goesOn
      split at goesOn
      · cases goesOn
      split at goesOn <;> cases goesOn
  | disputing actor =>
      dsimp only at goesOn
      split at goesOn
      · cases goesOn
      split at goesOn <;> cases goesOn

end MatchPlay

/-! ### The invariant -/

namespace Board

/-- While a relay or a forfeit is under the lock, what it relies on holds. -/
structure Guarded (board : Board) : Prop where
  relay : ∀ awaited ∈ board.relaying,
    board.play.critical = none ∧ board.Admits awaited.frame
  forfeit : ∀ critical ∈ board.play.critical, critical.forfeits = true →
    board.play.session.status = .active

variable {board : Board}

theorem guarded_of_unlocked (unlocked : board.Unlocked) : board.Guarded where
  relay := by
    intro awaited holds
    rw [unlocked.1] at holds
    cases holds
  forfeit := by
    intro critical holds
    rw [unlocked.2] at holds
    cases holds

/-- The lock is held as it was, in a session that is left alone. -/
theorem guarded_of_undisturbed (guarded : board.Guarded) {after : Board}
    (relaying : after.relaying = board.relaying)
    (undisturbed : board.play.Undisturbed after.play) : after.Guarded where
  relay := by
    intro awaited holds
    rw [relaying] at holds
    obtain ⟨unlocked, active, notLost⟩ := guarded.relay awaited holds
    refine ⟨undisturbed.critical.trans unlocked, undisturbed.status.trans active, ?_⟩
    intro row member isMover isLost
    obtain ⟨earlier, isEarlier, sameUser, wasLost⟩ := undisturbed.lost row member isLost
    exact notLost earlier isEarlier (sameUser.trans isMover) wasLost
  forfeit := by
    intro critical holds forfeits
    rw [undisturbed.critical] at holds
    exact undisturbed.status.trans (guarded.forfeit critical holds forfeits)

/-- With neither under the lock, the session may close. -/
theorem guarded_of_calm (calm : board.Calm) {after : Board}
    (relaying : after.relaying = board.relaying)
    (critical : after.play.critical = board.play.critical) : after.Guarded where
  relay := by
    intro awaited holds
    rw [relaying, calm.1] at holds
    cases holds
  forfeit := by
    intro awaited holds forfeits
    rw [critical] at holds
    have quiet := calm.2
    rw [show board.play.critical = some awaited from holds, Option.all_some, forfeits] at quiet
    cases quiet

/-- The session's other calls.  None takes the lock from a relay, and the forfeit that
takes it finds the session ACTIVE. -/
theorem guarded_stepPlay (guarded : board.Guarded) {event : MatchEvent} {now : Int}
    {keepsLive : Bool} (permits : board.Permits (.play event now keepsLive))
    (mayEnter : ∀ position reply, event = .enter position reply → board.relaying = none) :
    (board.stepPlay event now keepsLive).Guarded := by
  have steps := MatchPlay.steps_step board.play event
  unfold stepPlay
  generalize board.play.step event = play at steps ⊢
  cases steps with
  | idle => exact guarded_of_undisturbed guarded rfl (MatchPlay.undisturbed_of_session rfl rfl)
  | lapse => exact guarded_of_undisturbed guarded rfl (MatchPlay.undisturbed_of_session rfl rfl)
  | gaveUp found fails =>
      exact guarded_of_undisturbed guarded rfl (MatchPlay.undisturbed_of_session rfl rfl)
  | request request =>
      exact guarded_of_undisturbed guarded rfl (MatchPlay.undisturbed_accept request)
  | outside found succeeds goes =>
      exact guarded_of_undisturbed guarded rfl
        (MatchPlay.undisturbed_of_drop (MatchPlay.undisturbed_stepOutside _ _))
  | start reply =>
      by_cases abandons : board.play.start = .abandon ∧ reply.fails = false
      · exact guarded_of_calm (permits abandons.1 abandons.2) rfl
          (MatchPlay.critical_stepStart reply)
      · refine guarded_of_undisturbed guarded rfl (MatchPlay.undisturbed_stepStart reply ?_)
        exact fun isAbandon => eq_true_of_ne_false fun goesOn => abandons ⟨isAbandon, goesOn⟩
  | @enter position call reply empty found waits =>
      have free := mayEnter position reply rfl
      refine ⟨?_, ?_⟩
      · intro awaited holds
        change board.relaying = some awaited at holds
        rw [free] at holds
        cases holds
      · intro critical entered forfeits
        have unlocked : (board.play.drop position).critical = none := empty
        obtain ⟨isForfeit, session⟩ := MatchPlay.forfeits_enter unlocked entered forfeits
        change ((board.play.drop position).enter reply call).session.status = .active
        rw [session]
        apply permits _ ⟨free, empty⟩
        rw [found]
        exact isForfeit
  | inside reply holds =>
      refine ⟨?_, ?_⟩
      · intro awaited relays
        have unlocked := (guarded.relay awaited relays).1
        rw [holds] at unlocked
        cases unlocked
      · intro next goesOn forfeits
        obtain ⟨before, status⟩ := MatchPlay.forfeits_stepInside goesOn forfeits
        exact status.trans (guarded.forfeit _ holds before)

/-- The lock of a relay keeps the others out. -/
theorem step_play_cases (board : Board) (event : MatchEvent) (now : Int) (keepsLive : Bool) :
    board.step (.play event now keepsLive) = board ∨
      board.step (.play event now keepsLive) = board.stepPlay event now keepsLive ∧
        ∀ position reply, event = .enter position reply → board.relaying = none := by
  cases event with
  | enter position reply =>
      unfold step
      dsimp only
      split
      · exact Or.inl rfl
      · rename_i free
        exact Or.inr ⟨rfl, fun _ _ _ => free⟩
  | request | start | inside | outside | lapse => exact Or.inr ⟨rfl, nofun⟩

/-- A relay that the board admits goes on under the lock, or leaves it. -/
theorem guarded_of_frame {after : Board} {frame : GameMoveFrame} (play : after.play = board.play)
    (unlocked : board.play.critical = none) (admits : board.Admits frame)
    (sameFrame : ∀ awaited ∈ after.relaying, awaited.frame = frame) : after.Guarded where
  relay := by
    intro awaited holds
    unfold Admits
    rw [play, sameFrame awaited holds]
    exact ⟨unlocked, admits⟩
  forfeit := by
    intro critical holds
    rw [play, unlocked] at holds
    cases holds

theorem frame_of_advanceLive {current : GameLiveState} {frame : GameMoveFrame} :
    ∀ awaited ∈ (board.advanceLive current frame).relaying, awaited.frame = frame := by
  intro awaited holds
  unfold advanceLive at holds
  split at holds
  · cases holds
  split at holds
  · obtain ⟨next, _, rfl⟩ := Option.map_eq_some_iff.mp holds
    rfl
  · cases holds

theorem advanceLive_play (current : GameLiveState) (frame : GameMoveFrame) :
    (board.advanceLive current frame).play = board.play := by
  unfold advanceLive
  split
  · rfl
  · split <;> rfl

theorem guarded_stepRelay (guarded : board.Guarded) {awaited : RelaySection}
    (relays : board.relaying = some awaited) : (board.stepRelay awaited).Guarded := by
  obtain ⟨unlocked, admits⟩ := guarded.relay awaited relays
  cases awaited with
  | loading frame =>
      unfold stepRelay
      dsimp only
      split
      · exact guarded_of_frame (advanceLive_play _ _) unlocked admits frame_of_advanceLive
      · refine guarded_of_frame rfl unlocked admits ?_
        intro awaited holds
        cases holds
        rfl
  | reinitialising frame =>
      exact guarded_of_frame (advanceLive_play _ _) unlocked admits frame_of_advanceLive
  | storing frame next =>
      refine guarded_of_frame rfl unlocked admits ?_
      intro awaited holds
      cases holds

theorem guarded_step (guarded : board.Guarded) (event : BoardEvent)
    (permits : board.Permits event) : (board.step event).Guarded := by
  have aside : ∀ {after : Board}, after.relaying = board.relaying → after.play = board.play →
      after.Guarded := by
    intro after relaying play
    exact guarded_of_undisturbed guarded relaying
      (MatchPlay.undisturbed_of_session (congrArg _ play) (congrArg _ play))
  cases event with
  | play event now keepsLive =>
      rcases step_play_cases board event now keepsLive with refused | ⟨stepped, mayEnter⟩
      · rw [refused]
        exact guarded
      · rw [stepped]
        exact guarded_stepPlay guarded permits mayEnter
  | relayMove input =>
      change (board.relayMove input).Guarded
      unfold relayMove
      split
      · exact guarded
      · split
        · exact guarded
        · exact aside rfl rfl
  | resume position fails now =>
      unfold step
      dsimp only
      split
      · exact guarded
      rename_i call found
      split
      · exact aside rfl rfl
      rename_i goesOn
      cases call with
      | checking input =>
          unfold resumeRelay
          dsimp only
          split
          · exact aside rfl rfl
          · exact aside rfl rfl
      | waiting frame =>
          unfold resumeRelay
          dsimp only
          split
          · rename_i unlocked
            have admits := permits (.waiting frame) found (eq_false_of_ne_true goesOn) unlocked
            refine guarded_of_frame rfl unlocked.2 admits ?_
            intro awaited holds
            cases holds
            rfl
          · exact guarded
  | relay fails =>
      unfold step
      dsimp only
      split
      · exact guarded
      · rename_i awaited relays
        split
        · obtain ⟨unlocked, admits⟩ := guarded.relay awaited relays
          refine guarded_of_frame rfl unlocked admits ?_
          intro awaited holds
          cases holds
        · exact guarded_stepRelay guarded relays
  | expire => exact aside rfl rfl

/-! ### What a permitted step writes -/

/-- Only a forfeit that goes on makes a live state where there was none. -/
theorem active_of_liveAfter (guarded : board.Guarded) {event : MatchEvent} {now : Int}
    {keepsLive : Bool} (missing : board.live = none)
    (made : board.liveAfter event now keepsLive ≠ none) : board.play.session.status = .active := by
  unfold liveAfter at made
  split at made
  · split at made
    · exact absurd missing made
    · exact absurd rfl made
  · rename_i holds
    exact guarded.forfeit _ holds rfl
  · exact absurd missing made

theorem clean_of_guarded (guarded : board.Guarded) (event : BoardEvent) : board.Clean event where
  accepted := by
    rintro frame ⟨_, next, relays⟩
    exact (guarded.relay _ relays).2
  created := by
    intro missing made
    cases event with
    | play event now keepsLive =>
        rcases step_play_cases board event now keepsLive with refused | ⟨stepped, _⟩
        · rw [refused] at made
          exact absurd missing made
        · rw [stepped] at made
          exact active_of_liveAfter guarded missing made
    | relayMove input =>
        change (board.relayMove input).live ≠ none at made
        unfold relayMove at made
        split at made
        · exact absurd missing made
        · split at made <;> exact absurd missing made
    | resume position fails now =>
        unfold step at made
        dsimp only at made
        split at made
        · exact absurd missing made
        rename_i call found
        split at made
        · exact absurd missing made
        cases call with
        | checking input =>
            unfold resumeRelay at made
            dsimp only at made
            split at made <;> exact absurd missing made
        | waiting frame =>
            unfold resumeRelay at made
            dsimp only at made
            split at made <;> exact absurd missing made
    | relay fails =>
        unfold step at made
        dsimp only at made
        split at made
        · exact absurd missing made
        · rename_i awaited relays
          exact (guarded.relay _ relays).2.1
    | expire => exact absurd rfl made

/-! ### Runs -/

/-- Any relays, forfeits, settlements and cancellations of a session, in any order: when
each relay finds the session ACTIVE and its mover not LOST as it takes the lock, each
forfeit finds the session ACTIVE, and no failing start closes it under their feet, no
move lands on a finished match and no closed session gets a live state. -/
theorem clean_of_permits (opening : Board) (unlocked : opening.Unlocked)
    (events : List BoardEvent) (permits : Runs.Each step Permits opening events) :
    Runs.Each step Clean opening events := by
  have kept : ∀ (board : Board) (event : BoardEvent), board.Guarded → board.Permits event →
      (board.step event).Guarded := fun _ event guarded permits => guarded_step guarded event permits
  have clean : ∀ (board : Board) (event : BoardEvent), board.Guarded → board.Permits event →
      board.Clean event := fun _ event guarded _ => clean_of_guarded guarded event
  exact Runs.each_of_each kept clean opening (guarded_of_unlocked unlocked) events permits

end Board

def friends : List GameLobbyMember :=
  [{ userId := "alice" }, { userId := "bob" }, { userId := "carol" }]

theorem friends_distinct : ((classicSeats (friends.map GameLobbyMember.userId)).map
    SeatAssignment.userId).Nodup := by
  decide

/-- A friendly match of three. -/
def friendlyBoard : Board :=
  { play := (ludoMatch "alice" 0 friends friends_distinct).play
    startedAtMs := 0
    live := none
    relays := []
    relaying := none }

def rollDice (actor : UserId) : BoardEvent :=
  .relayMove
    { actor := actor
      moveData := [("action", .string "roll_dice")] }

def inOrder : List MatchEvent → List BoardEvent :=
  List.map fun event => .play event 9 false

/-- Alice moves, carol forfeits, and the match is cancelled before bob moves. -/
def oneByOne : List BoardEvent :=
  [rollDice "alice", .resume 0 false 5, .resume 0 false 6, .relay false, .relay false,
    .relay false] ++
  inOrder
    [.request (.forfeit "carol"), .enter 0 {}, .inside {}, .inside {}, .inside {},
      .request (.abortSession .cancelled), .enter 0 {}, .inside {}, .inside {}] ++
  [rollDice "bob"]

theorem clean_oneByOne : Runs.Each Board.step Board.Clean friendlyBoard oneByOne :=
  Board.clean_of_permits friendlyBoard ⟨rfl, rfl⟩ oneByOne (by decide +kernel)

/-- Alice is let through, and the match is cancelled before she gets the lock. -/
def cancelledMeanwhile : List BoardEvent :=
  [rollDice "alice", .resume 0 false 5] ++
  inOrder [.request (.abortSession .cancelled), .enter 0 {}, .inside {}, .inside {}] ++
  [.resume 0 false 6, .relay false, .relay false]

/-- Her move is accepted, and the deleted live state is there again. -/
theorem clean_fails_when_cancelledMeanwhile :
    ¬Runs.Each Board.step Board.Clean friendlyBoard (cancelledMeanwhile ++ [.relay false]) := by
  intro each
  have created := each.last.created
  have closed : (Runs.run Board.step friendlyBoard cancelledMeanwhile).live = none ∧
      ((Runs.run Board.step friendlyBoard cancelledMeanwhile).step (.relay false)).live ≠ none ∧
        (Runs.run Board.step friendlyBoard cancelledMeanwhile).play.session.status ≠ .active := by
    decide +kernel
  exact closed.2.2 (created closed.1 closed.2.1)

end Soulzaa.Games
