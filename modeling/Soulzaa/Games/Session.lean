/-
One session from its creation on: the start that escrows its stakes, and the calls
that cancel it, settle it, forfeit it, report it or move its host role.

A call runs up to its next `await`, and any other call may run in between.  The
session lock admits one critical section at a time; the start does not take it.  The
wallet moves money at most once for each kind of movement and user.
-/

import Soulzaa.Games.Lobby
import Soulzaa.Games.Match
import Soulzaa.Lib.UniqueTable

namespace Soulzaa.Games

/-! ### The wallet, as one session uses it -/

/-- The idempotency keys of a session are `game-stake`, `game-refund` and
`game-payout`, each with the user. -/
inductive MovementKind where
  | stake
  | refund
  | payout
  deriving DecidableEq, Repr

structure Movement where
  kind : MovementKind
  userId : UserId
  amount : Int
  deriving DecidableEq, Repr

def Movement.key (movement : Movement) : MovementKind × UserId :=
  (movement.kind, movement.userId)

abbrev Journal := UniqueTable Movement.key

def transactionIdIn (journal : Journal) (key : MovementKind × UserId) : TransactionId :=
  journal.rows.findIdx fun posted => posted.key = key

/-! ### Calls -/

structure MatchResult where
  payoutTotal : Int
  rakeAmount : Int
  winners : List UserId
  deriving DecidableEq, Repr

structure PendingMatchResult where
  winners : List UserId
  reportedBy : UserId
  deriving DecidableEq, Repr

/-- The statuses `abortSession` is called with. -/
inductive ClosingStatus where
  | cancelled
  | aborted
  deriving DecidableEq, Repr

def ClosingStatus.toStatus : ClosingStatus → GameSessionStatus
  | .cancelled => .cancelled
  | .aborted => .aborted

/-- Where `startSessionFromLobby` has got to, after the session row. -/
inductive StartPhase where
  /-- `wallet.debit` of the first of `rest` -/
  | escrow (rest escrowed : List GameParticipant)
  /-- the writes that record a debit -/
  | staked (participant : GameParticipant) (stakeTxnId : TransactionId)
      (rest escrowed : List GameParticipant)
  /-- `refundParticipants`, after a throw: `wallet.credit` of the first of `rest` -/
  | unwind (rest : List GameParticipant)
  | unwound (participant : GameParticipant) (refundTxnId : TransactionId)
      (rest : List GameParticipant)
  /-- `closeSession`, as ABORTED -/
  | abandon
  /-- `setSessionPot` -/
  | fixPot
  | returned
  | thrown
  deriving DecidableEq, Repr

/-- What the holder of the session lock awaits. -/
inductive Critical where
  /-- `abortSession`: `listParticipants` -/
  | aborting (status : ClosingStatus)
  /-- `wallet.credit` of the first of `rest`, or `closeSession` at the end -/
  | refunding (status : ClosingStatus) (rest : List GameParticipant)
  | refunded (status : ClosingStatus) (participant : GameParticipant)
      (refundTxnId : TransactionId) (rest : List GameParticipant)
  /-- `settleResult`: `listParticipants` -/
  | settling (input : SettleResultInput) (fresh : GameSession)
  /-- the settlement transaction -/
  | paying (input : SettleResultInput) (fresh : GameSession)
      (participants : List GameParticipant)
  /-- `forfeit`: `listParticipants` -/
  | forfeiting (session : GameSession) (actor : UserId)
  /-- `updateParticipant`, as LOST -/
  | leaving (session : GameSession) (actor : UserId) (participants : List GameParticipant)
  /-- the live state without the seat -/
  | withdrawing (session : GameSession) (actor : UserId) (participants : List GameParticipant)
  /-- `reportMatchResult`: `listParticipants` -/
  | reporting (actor : UserId) (winners : List UserId)
  /-- `confirmMatchResult`: `getParticipant` -/
  | confirming (session : GameSession) (actor : UserId)
  /-- `disputeMatchResult`: `getParticipant` -/
  | disputing (actor : UserId)

/-- A call outside the lock.  `session` is the row as it was read before the lock. -/
inductive Call where
  | abort (status : ClosingStatus)
  | settle (input : SettleResultInput)
  /-- `settleToHumanWinners`: `listParticipants` -/
  | resolve (session : GameSession) (winners : List UserId)
  | forfeit (session : GameSession) (actor : UserId)
  /-- A team report before its lock: `listParticipants` -/
  | expand (actor : UserId) (winningTeam : GameTeam)
  | report (actor : UserId) (winners : List UserId)
  | confirm (session : GameSession) (actor : UserId)
  | dispute (actor : UserId)
  /-- `sweepPendingResults`, for this session -/
  | sweep
  /-- `handOverHost`: `updateSessionHost` -/
  | handOver (newHostId : UserId)
  /-- `repointRoomGameHost`: `listParticipants` -/
  | repoint (session : GameSession) (newOwnerId : UserId)

/-- A request, with what the caller sends. -/
inductive Request where
  | abortSession (status : ClosingStatus)
  | settleResult (input : SettleResultInput)
  | forfeit (actor : UserId)
  | reportMatchResult (actor : UserId) (winners : List UserId) (winningTeam : Option GameTeam)
  | confirmMatchResult (actor : UserId)
  | disputeMatchResult (actor : UserId)
  | sweepPendingResults
  | repointRoomGameHost (newOwnerId : UserId)

/-- What the awaited call comes back with, as far as it is read. -/
structure Reply where
  fails : Bool := false
  /-- The confirm window of the pending result is over. -/
  due : Bool := true
  houseRakeBps : Nat := 0

/-- `forfeiters` records whose forfeit was decided while someone else was playing. -/
structure MatchPlay where
  session : GameSession
  humanCount : Nat
  matchResult : Option MatchResult
  pending : Option PendingMatchResult
  journal : Journal
  start : StartPhase
  critical : Option Critical
  calls : List Call
  forfeiters : List UserId

inductive MatchEvent where
  | request (request : Request)
  /-- The start goes on. -/
  | start (reply : Reply)
  /-- A waiting call takes the lock. -/
  | enter (position : Nat) (reply : Reply)
  /-- The critical section goes on. -/
  | inside (reply : Reply)
  /-- A call outside the lock goes on; a waiting one gives up. -/
  | outside (position : Nat) (reply : Reply)
  /-- The pending result outlives its time in the cache. -/
  | lapse

namespace MatchPlay

/-! ### Writes -/

def updateParticipant (play : MatchPlay) (userId : UserId)
    (update : GameParticipant → GameParticipant) : MatchPlay :=
  { play with
    session :=
      { play.session with
        participants := play.session.participants.map fun participant =>
          if participant.userId = userId then update participant else participant } }

def closeSession (play : MatchPlay) (status : GameSessionStatus) : MatchPlay :=
  { play with session := { play.session with status := status } }

def setSessionPot (play : MatchPlay) (potAmount : Nat) : MatchPlay :=
  { play with session := { play.session with potAmount := potAmount } }

def updateSessionHost (play : MatchPlay) (hostId : UserId) : MatchPlay :=
  { play with session := { play.session with hostId := hostId } }

def move (play : MatchPlay) (movement : Movement) : MatchPlay :=
  { play with journal := play.journal.ensure movement }

/-- The transaction that a movement has once it is posted. -/
def transactionOf (play : MatchPlay) (movement : Movement) : TransactionId :=
  transactionIdIn (play.journal.ensure movement) movement.key

def spawn (play : MatchPlay) (call : Call) : MatchPlay :=
  { play with calls := play.calls ++ [call] }

/-- The lock is released. -/
def leave (play : MatchPlay) : MatchPlay :=
  { play with critical := none }

def within (play : MatchPlay) (critical : Critical) : MatchPlay :=
  { play with critical := some critical }

def starting (play : MatchPlay) (start : StartPhase) : MatchPlay :=
  { play with start := start }

def drop (play : MatchPlay) (position : Nat) : MatchPlay :=
  { play with calls := play.calls.eraseIdx position }

def forfeited (play : MatchPlay) (actor : UserId) : MatchPlay :=
  { play with forfeiters := actor :: play.forfeiters }

def refundOf (participant : GameParticipant) : Movement :=
  { kind := .refund
    userId := participant.userId
    amount := participant.stake }

def markRefunded (refundTxnId : TransactionId) (participant : GameParticipant) :
    GameParticipant :=
  { participant with
    status := .refunded
    refundTxnId := some refundTxnId }

/-! ### The start -/

def stakeOf (play : MatchPlay) (participant : GameParticipant) : Movement :=
  { kind := .stake
    userId := participant.userId
    amount := play.session.stake }

def stepStart (play : MatchPlay) (reply : Reply) : MatchPlay :=
  match play.start with
  | .escrow [] _ => play.starting .fixPot
  | .escrow (participant :: rest) escrowed =>
      if participant.isBot = true ∨ play.session.stake = 0 then
        play.starting (.escrow rest escrowed)
      else if reply.fails then play.starting (.unwind escrowed)
      else
        (play.move (play.stakeOf participant)).starting
          (.staked participant (play.transactionOf (play.stakeOf participant)) rest
            (escrowed ++ [participant]))
  | .staked participant stakeTxnId rest escrowed =>
      if reply.fails then play.starting (.unwind escrowed)
      else
        (play.updateParticipant participant.userId fun row =>
          { row with stakeTxnId := some stakeTxnId }).starting (.escrow rest escrowed)
  | .unwind [] => play.starting .abandon
  | .unwind (participant :: rest) =>
      -- A refund that fails is logged and left out.
      if reply.fails then play.starting (.unwind rest)
      else
        (play.move (refundOf participant)).starting
          (.unwound participant (play.transactionOf (refundOf participant)) rest)
  | .unwound participant refundTxnId rest =>
      if reply.fails then play.starting (.unwind rest)
      else
        (play.updateParticipant participant.userId (markRefunded refundTxnId)).starting
          (.unwind rest)
  | .abandon =>
      if reply.fails then play.starting .thrown
      else (play.closeSession .aborted).starting .thrown
  | .fixPot =>
      if reply.fails then play.starting .thrown
      else (play.setSessionPot (potOf play.session play.humanCount)).starting .returned
  | .returned => play
  | .thrown => play

/-! ### Under the lock -/

/-- A call takes the lock and makes its first read. -/
def enter (play : MatchPlay) (reply : Reply) : Call → MatchPlay
  | .abort status =>
      match assertActive play.session with
      | .error _ => play
      | .ok _ => play.within (.aborting status)
  | .settle input =>
      match assertActive play.session, play.matchResult with
      | .ok _, none => play.within (.settling input play.session)
      | _, _ => play
  | .forfeit session actor =>
      match requirePlaying play.session.participants actor with
      | .error _ => play
      | .ok _ => play.within (.forfeiting session actor)
  | .report actor winners =>
      match assertActive play.session, play.pending with
      | .ok _, none => play.within (.reporting actor winners)
      | _, _ => play
  | .confirm session actor =>
      match assertActive play.session with
      | .error _ => play
      | .ok _ => play.within (.confirming session actor)
  | .dispute actor =>
      match assertActive play.session with
      | .error _ => play
      | .ok _ => play.within (.disputing actor)
  | .sweep =>
      match play.pending with
      | none => play
      | some pending =>
          if reply.due then
            match assertActive play.session with
            | .error _ => { play with pending := none }
            | .ok _ =>
                ({ play with pending := none } : MatchPlay).spawn
                  (.resolve play.session pending.winners)
          else play
  | .resolve .. => play
  | .expand .. => play
  | .handOver _ => play
  | .repoint .. => play

/-- Credits of a settlement, in seat order. -/
def payoutsTo (payouts : List PayoutEntry) (participants : List GameParticipant) :
    List Movement :=
  (participants.map fun participant =>
    { kind := .payout
      userId := participant.userId
      amount := payoutOf payouts participant.userId }).filter fun movement =>
    0 < movement.amount

def postAll (journal : Journal) (movements : List Movement) : Journal :=
  movements.foldl UniqueTable.ensure journal

def settleRow (journal : Journal) (input : SettleResultInput) (participant : GameParticipant) :
    GameParticipant :=
  let payout := payoutOf input.payouts participant.userId
  { participant with
    status := if participant.userId ∈ input.winners then .won else .lost
    payoutAmount := payout.toNat
    payoutTxnId :=
      if 0 < payout then some (transactionIdIn journal (.payout, participant.userId)) else none }

/-- The settlement transaction. -/
def pay (play : MatchPlay) (input : SettleResultInput) (fresh : GameSession)
    (participants : List GameParticipant) : MatchPlay :=
  let journal := postAll play.journal (payoutsTo input.payouts participants)
  { play with
    journal := journal
    session :=
      { play.session with
        status := .completed
        participants := play.session.participants.map (settleRow journal input) }
    matchResult :=
      some
        { payoutTotal := payoutTotal input.payouts
          rakeAmount := fresh.potAmount - payoutTotal input.payouts
          winners := input.winners } }

/-- The forfeit is decided; the match goes on or is settled after the lock. -/
def decideLeave (play : MatchPlay) (session : GameSession) (actor : UserId) : MatchPlay :=
  let participants := play.session.participants
  match decide session.mode actor (remainingBeside participants actor) with
  | .proceed => play.within (.leaving session actor participants)
  | .settle winners =>
      let decided :=
        if remainingBeside participants actor = [] then play else play.forfeited actor
      decided.leave.spawn (.resolve session winners)

def handOverTo (play : MatchPlay) (hostId : UserId) : Option UserId → MatchPlay
  | none => play
  | some newHostId => if newHostId = hostId then play else play.spawn (.handOver newHostId)

/-- A second `withLock` on the session lock, which its holder cannot pass. -/
def reenter (play : MatchPlay) : MatchPlay :=
  play.leave

def confirmed (play : MatchPlay) (actor : UserId) : Option PendingMatchResult :=
  match requirePlaying play.session.participants actor with
  | .error _ => none
  | .ok _ => play.pending.filter fun pending => pending.reportedBy ≠ actor

def stepInside (play : MatchPlay) (reply : Reply) : Critical → MatchPlay
  | .aborting status =>
      if reply.fails then play.leave
      else
        play.within
          (.refunding status (play.session.participants.filter GameParticipant.refundable))
  | .refunding status [] =>
      if reply.fails then play.leave else (play.closeSession status.toStatus).leave
  | .refunding status (participant :: rest) =>
      if reply.fails then play.within (.refunding status rest)
      else
        (play.move (refundOf participant)).within
          (.refunded status participant (play.transactionOf (refundOf participant)) rest)
  | .refunded status participant refundTxnId rest =>
      if reply.fails then play.within (.refunding status rest)
      else
        (play.updateParticipant participant.userId (markRefunded refundTxnId)).within
          (.refunding status rest)
  | .settling input fresh =>
      if reply.fails then play.leave
      else
        match validateSettlement fresh.potAmount play.session.participants input with
        | .error _ => play.leave
        | .ok _ => play.within (.paying input fresh play.session.participants)
  | .paying input fresh participants =>
      if reply.fails then play.leave else (play.pay input fresh participants).leave
  | .forfeiting session actor =>
      if reply.fails then play.leave else play.decideLeave session actor
  | .leaving session actor participants =>
      if reply.fails then play.leave
      else
        ((play.updateParticipant actor fun row => { row with status := .lost }).forfeited
          actor).within (.withdrawing session actor participants)
  | .withdrawing session actor participants =>
      if reply.fails then play.leave
      else if session.hostId = actor then
        play.leave.handOverTo session.hostId (pickSessionHost participants none (some actor))
      else play.leave
  | .reporting actor winners =>
      if reply.fails then play.leave
      else if otherActive play.session.participants actor = [] then play.reenter
      else
        ({ play with
          pending := some
            { winners := winners
              reportedBy := actor } } : MatchPlay).leave
  | .confirming session actor =>
      match play.confirmed actor with
      | none => play.leave
      | some pending =>
          if reply.fails then play.leave
          else
            ({ play with pending := none } : MatchPlay).leave.spawn
              (.resolve session pending.winners)
  | .disputing actor =>
      match play.confirmed actor with
      | none => play.leave
      | some _ => if reply.fails then play.leave else ({ play with pending := none } : MatchPlay).leave

/-! ### Outside the lock -/

/-- A call that waits for the lock. -/
def Waits : Call → Bool
  | .resolve .. => false
  | .expand .. => false
  | .handOver _ => false
  | .repoint .. => false
  | _ => true

def stepOutside (play : MatchPlay) (reply : Reply) : Call → MatchPlay
  | .resolve session winners =>
      match settleToHumanWinners session.stake session.potAmount play.session.participants
          reply.houseRakeBps winners with
      | .refund => play.spawn (.abort .cancelled)
      | .settle input => play.spawn (.settle input)
  | .expand actor winningTeam =>
      match expandTeamWinners play.session.participants winningTeam with
      | [] => play
      | winner :: winners => play.spawn (.report actor (winner :: winners))
  | .handOver newHostId => play.updateSessionHost newHostId
  | .repoint session newOwnerId =>
      let participants := play.session.participants
      let currentHostStillPlaying := participants.any fun participant =>
        participant.userId = session.hostId && participant.mayHost
      let next := pickSessionHost participants (some newOwnerId) none
      if currentHostStillPlaying = false ∨ next = some newOwnerId then
        play.handOverTo session.hostId next
      else play
  | _ => play

/-! ### Requests -/

/-- Games against the house, which have no host. -/
def houseGames : List GameCode := [.greedyFood, .luckyFruit]

/-- The reads and checks before the lock. -/
def accept (play : MatchPlay) : Request → MatchPlay
  | .abortSession status => play.spawn (.abort status)
  | .settleResult input => play.spawn (.settle input)
  | .forfeit actor =>
      match assertActive play.session with
      | .error _ => play
      | .ok _ => play.spawn (.forfeit play.session actor)
  | .reportMatchResult actor winners winningTeam =>
      if play.session.hostId = actor ∧ play.session.status = .active then
        match play.session.mode, winningTeam with
        | .team2v2, some team => play.spawn (.expand actor team)
        | .team2v2, none => play
        | .classic, _ => if winners = [] then play else play.spawn (.report actor winners)
      else play
  | .confirmMatchResult actor => play.spawn (.confirm play.session actor)
  | .disputeMatchResult actor => play.spawn (.dispute actor)
  | .sweepPendingResults => play.spawn .sweep
  | .repointRoomGameHost newOwnerId =>
      match assertActive play.session with
      | .error _ => play
      | .ok _ =>
          if play.session.roomId = none ∨ play.session.code ∈ houseGames then play
          else play.spawn (.repoint play.session newOwnerId)

def step (play : MatchPlay) : MatchEvent → MatchPlay
  | .request request => play.accept request
  | .start reply => play.stepStart reply
  | .enter position reply =>
      match play.critical, play.calls[position]? with
      | none, some call =>
          if Waits call then (play.drop position).enter reply call else play
      | _, _ => play
  | .inside reply =>
      match play.critical with
      | none => play
      | some critical => play.stepInside reply critical
  | .outside position reply =>
      match play.calls[position]? with
      | none => play
      | some call =>
          if reply.fails then play.drop position
          else if Waits call then play
          else (play.drop position).stepOutside reply call
  | .lapse => { play with pending := none }

/-- What a call that takes the lock can do, and when. -/
inductive Enters (play : MatchPlay) : Call → MatchPlay → Prop where
  | refused (call : Call) : Enters play call play
  | abort (status : ClosingStatus) (active : play.session.status = .active) :
      Enters play (.abort status) (play.within (.aborting status))
  | settle (input : SettleResultInput) (active : play.session.status = .active)
      (unsettled : play.matchResult = none) :
      Enters play (.settle input) (play.within (.settling input play.session))
  | forfeit (session : GameSession) {actor : UserId} {participant : GameParticipant}
      (playing : requirePlaying play.session.participants actor = .ok participant) :
      Enters play (.forfeit session actor) (play.within (.forfeiting session actor))
  | report (actor : UserId) (winners : List UserId) (active : play.session.status = .active)
      (unreported : play.pending = none) :
      Enters play (.report actor winners) (play.within (.reporting actor winners))
  | confirm (session : GameSession) (actor : UserId)
      (active : play.session.status = .active) :
      Enters play (.confirm session actor) (play.within (.confirming session actor))
  | dispute (actor : UserId) (active : play.session.status = .active) :
      Enters play (.dispute actor) (play.within (.disputing actor))
  | forget : Enters play .sweep { play with pending := none }
  | sweep {pending : PendingMatchResult} (stored : play.pending = some pending)
      (active : play.session.status = .active) :
      Enters play .sweep
        (({ play with pending := none } : MatchPlay).spawn
          (.resolve play.session pending.winners))

theorem enters_enter (play : MatchPlay) (reply : Reply) (call : Call) :
    play.Enters call (play.enter reply call) := by
  unfold enter
  cases call with
  | abort status =>
      dsimp only
      split
      · exact .refused _
      · rename_i checked
        exact .abort status (require_eq_ok.mp checked)
  | settle input =>
      dsimp only
      split
      · rename_i checked unsettled
        exact .settle input (require_eq_ok.mp checked) unsettled
      · exact .refused _
  | forfeit session actor =>
      dsimp only
      split
      · exact .refused _
      · rename_i playing
        exact .forfeit session playing
  | report actor winners =>
      dsimp only
      split
      · rename_i checked unreported
        exact .report actor winners (require_eq_ok.mp checked) unreported
      · exact .refused _
  | confirm session actor =>
      dsimp only
      split
      · exact .refused _
      · rename_i checked
        exact .confirm session actor (require_eq_ok.mp checked)
  | dispute actor =>
      dsimp only
      split
      · exact .refused _
      · rename_i checked
        exact .dispute actor (require_eq_ok.mp checked)
  | sweep =>
      dsimp only
      split
      · exact .refused _
      · rename_i stored
        split
        · split
          · exact .forget
          · rename_i checked
            exact .sweep stored (require_eq_ok.mp checked)
        · exact .refused _
  | resolve | expand | handOver | repoint => exact .refused _

/-- What a request can lead to, and when. -/
inductive Accepts (play : MatchPlay) : Request → MatchPlay → Prop where
  | refused (request : Request) : Accepts play request play
  | abort (status : ClosingStatus) :
      Accepts play (.abortSession status) (play.spawn (.abort status))
  | settle (input : SettleResultInput) :
      Accepts play (.settleResult input) (play.spawn (.settle input))
  | forfeit (actor : UserId) :
      Accepts play (.forfeit actor) (play.spawn (.forfeit play.session actor))
  | expand (actor : UserId) (winners : List UserId) (team : GameTeam) :
      Accepts play (.reportMatchResult actor winners (some team))
        (play.spawn (.expand actor team))
  | report (actor : UserId) (winners : List UserId) (winningTeam : Option GameTeam)
      (isHost : play.session.hostId = actor) (active : play.session.status = .active)
      (classic : play.session.mode = .classic) :
      Accepts play (.reportMatchResult actor winners winningTeam)
        (play.spawn (.report actor winners))
  | confirm (actor : UserId) :
      Accepts play (.confirmMatchResult actor) (play.spawn (.confirm play.session actor))
  | dispute (actor : UserId) :
      Accepts play (.disputeMatchResult actor) (play.spawn (.dispute actor))
  | sweep : Accepts play .sweepPendingResults (play.spawn .sweep)
  | repoint (newOwnerId : UserId) :
      Accepts play (.repointRoomGameHost newOwnerId)
        (play.spawn (.repoint play.session newOwnerId))

theorem accepts_accept (play : MatchPlay) (request : Request) :
    play.Accepts request (play.accept request) := by
  unfold accept
  cases request with
  | abortSession status => exact .abort status
  | settleResult input => exact .settle input
  | forfeit actor =>
      dsimp only
      split
      · exact .refused _
      · exact .forfeit actor
  | reportMatchResult actor winners winningTeam =>
      dsimp only
      split
      · rename_i accepted
        split
        · exact .expand actor winners _
        · exact .refused _
        · rename_i classic
          split
          · exact .refused _
          · exact .report actor winners _ accepted.1 accepted.2 classic
      · exact .refused _
  | confirmMatchResult actor => exact .confirm actor
  | disputeMatchResult actor => exact .dispute actor
  | sweepPendingResults => exact .sweep
  | repointRoomGameHost newOwnerId =>
      dsimp only
      split
      · exact .refused _
      · split
        · exact .refused _
        · exact .repoint newOwnerId

/-- What a step can do, and when. -/
inductive Steps (play : MatchPlay) : MatchEvent → MatchPlay → Prop where
  | idle (event : MatchEvent) : Steps play event play
  | request (request : Request) : Steps play (.request request) (play.accept request)
  | start (reply : Reply) : Steps play (.start reply) (play.stepStart reply)
  | enter {position : Nat} {call : Call} (reply : Reply) (empty : play.critical = none)
      (found : play.calls[position]? = some call) (waits : Waits call = true) :
      Steps play (.enter position reply) ((play.drop position).enter reply call)
  | inside {critical : Critical} (reply : Reply) (holds : play.critical = some critical) :
      Steps play (.inside reply) (play.stepInside reply critical)
  | gaveUp {position : Nat} {call : Call} {reply : Reply}
      (found : play.calls[position]? = some call) (fails : reply.fails = true) :
      Steps play (.outside position reply) (play.drop position)
  | outside {position : Nat} {call : Call} {reply : Reply}
      (found : play.calls[position]? = some call) (succeeds : reply.fails = false)
      (goes : Waits call = false) :
      Steps play (.outside position reply) ((play.drop position).stepOutside reply call)
  | lapse : Steps play .lapse { play with pending := none }

theorem steps_step (play : MatchPlay) (event : MatchEvent) :
    play.Steps event (play.step event) := by
  cases event with
  | request request => exact .request request
  | start reply => exact .start reply
  | enter position reply =>
      unfold step
      dsimp only
      split
      · rename_i call empty found
        split
        · rename_i waits
          exact .enter reply empty found waits
        · exact .idle _
      · exact .idle _
  | inside reply =>
      unfold step
      dsimp only
      split
      · exact .idle _
      · rename_i holds
        exact .inside reply holds
  | outside position reply =>
      unfold step
      dsimp only
      split
      · exact .idle _
      · rename_i found
        split
        · rename_i fails
          exact .gaveUp found fails
        · rename_i succeeds
          split
          · exact .idle _
          · rename_i goes
            exact .outside found (eq_false_of_ne_true succeeds) (eq_false_of_ne_true goes)
  | lapse => exact .lapse

/-! ### Beginnings and ends -/

/-- All calls have finished. -/
def Idle (play : MatchPlay) : Prop :=
  (play.start = .returned ∨ play.start = .thrown) ∧ play.critical = none ∧ play.calls = []

end MatchPlay

/-- A session as its row and its participants are written, in one transaction. -/
structure OpenedSession where
  session : GameSession
  humanCount : Nat
  active : session.status = .active
  noPot : session.potAmount = 0
  distinct : (userIds session.participants).Nodup
  fresh : ∀ participant ∈ session.participants,
    participant.status = .playing ∧ participant.stakeTxnId = none ∧
      participant.payoutTxnId = none ∧ participant.refundTxnId = none
  stakes : ∀ participant ∈ session.participants,
    participant.stake = if participant.isBot then 0 else session.stake

def OpenedSession.play (opened : OpenedSession) : MatchPlay :=
  { session := opened.session
    humanCount := opened.humanCount
    matchResult := none
    pending := none
    journal := UniqueTable.empty
    start := .escrow opened.session.participants []
    critical := none
    calls := []
    forfeiters := [] }

/-- The session of a lobby's start.  Participants are unique for each session and user. -/
def OpenedSession.ofLobby (lobbyId : LobbyId) (lobby : GameLobby) (definition : GameDefinition)
    (carrom : String × Option String) (seats : List SeatAssignment)
    (distinct : (seats.map SeatAssignment.userId).Nodup) : OpenedSession where
  session := sessionRow lobbyId lobby definition carrom seats
  humanCount := lobby.listMemberIds.length - lobby.botIds.length
  active := rfl
  noPot := rfl
  distinct := by
    unfold userIds sessionRow
    rw [List.map_map]
    exact distinct
  fresh := by
    intro participant member
    obtain ⟨seat, _, rfl⟩ := List.mem_map.mp member
    exact ⟨rfl, rfl, rfl, rfl⟩
  stakes := by
    intro participant member
    obtain ⟨seat, _, rfl⟩ := List.mem_map.mp member
    change (if seat.userId ∈ lobby.botIds then 0 else lobby.stake) =
      if Decidable.decide (seat.userId ∈ lobby.botIds) = true then 0 else lobby.stake
    simp

/-- A classic ludo match between the given members, for the example runs. -/
def ludoMatch (hostId : UserId) (stake : Nat) (members : List GameLobbyMember)
    (distinct : ((classicSeats (members.map GameLobbyMember.userId)).map
      SeatAssignment.userId).Nodup) : OpenedSession :=
  OpenedSession.ofLobby 0
    { definitionCode := .ludo
      code := "ABCDEF"
      hostId := hostId
      roomId := some "lounge"
      currency := .free
      stake := stake
      maxPlayers := 4
      status := .opened
      sessionId := none
      mode := .classic
      passwordHash := none
      carromMode := none
      teamCoinAssignment := none
      members := members }
    gameCatalogSeed.boardGame ("open_score", none)
    (classicSeats (members.map GameLobbyMember.userId)) distinct

end Soulzaa.Games
