/-
Who collects after a forfeit.

A winner list is fixed by a report, by a forfeit that ends the match or by a direct
settlement, and is paid later, in another critical section.  Nobody compares it with
the forfeits decided in between.  The proof follows the lists that are fixed and not
yet paid, and keeps them apart from the forfeiters.
-/

import Soulzaa.Games.Postings
import Soulzaa.Lib.Runs
import Mathlib.Data.List.Dedup

namespace Soulzaa.Games

/-! ### Lists in flight -/

/-- Everyone a settlement records as a winner or pays. -/
def SettleResultInput.names (input : SettleResultInput) : List UserId :=
  input.winners ++ input.payouts.map PayoutEntry.userId

def Call.names : Call → List UserId
  | .settle input => input.names
  | .resolve _ winners => winners
  | .report _ winners => winners
  | _ => []

def Critical.names : Critical → List UserId
  | .settling input _ => input.names
  | .paying input _ _ => input.names
  | .reporting _ winners => winners
  | _ => []

/-- The user is on a winner list that is fixed and not paid yet. -/
def MatchPlay.Named (play : MatchPlay) (userId : UserId) : Prop :=
  (∃ pending ∈ play.pending, userId ∈ pending.winners) ∨
    (∃ call ∈ play.calls, userId ∈ call.names) ∨
    ∃ critical ∈ play.critical, userId ∈ critical.names

instance (play : MatchPlay) (userId : UserId) : Decidable (play.Named userId) := by
  unfold MatchPlay.Named
  infer_instance

/-- No forfeiter is paid out or recorded as a winner. -/
def MatchPlay.NoForfeiterCollects (play : MatchPlay) : Prop :=
  ∀ userId ∈ play.forfeiters, ¬Posted play.journal .payout userId ∧
    ∀ participant ∈ play.session.participants, participant.userId = userId →
      participant.status ≠ .won

/-- When a step is in order: a winner list names nobody who forfeited before it is fixed,
and nobody forfeits who is on a list that is fixed. -/
def MatchPlay.SparesForfeiters (play : MatchPlay) : MatchEvent → Prop
  | .request (.reportMatchResult actor winners _) =>
      play.session.hostId = actor → play.session.status = .active →
        play.session.mode = .classic → ∀ winner ∈ winners, winner ∉ play.forfeiters
  | .request (.settleResult input) => ∀ winner ∈ input.names, winner ∉ play.forfeiters
  | .outside position reply =>
      match play.calls[position]? with
      | some (.expand _ winningTeam) =>
          reply.fails = false →
            ∀ winner ∈ expandTeamWinners play.session.participants winningTeam,
              winner ∉ play.forfeiters
      | _ => True
  | .inside reply =>
      match play.critical with
      | some (.forfeiting session actor) =>
          reply.fails = false →
            decide session.mode actor (remainingBeside play.session.participants actor) ≠
              .proceed →
            if remainingBeside play.session.participants actor = [] then
              actor ∉ play.forfeiters
            else
              ¬play.Named actor ∧
                ∀ participant ∈ remainingBeside play.session.participants actor,
                  participant.userId ∉ play.forfeiters
      | some (.leaving _ actor _) => reply.fails = false → ¬play.Named actor
      | _ => True
  | _ => True

instance (play : MatchPlay) (event : MatchEvent) : Decidable (play.SparesForfeiters event) :=
  match event with
  | .request (.reportMatchResult ..) => instDecidableForall
  | .request (.settleResult input) =>
      inferInstanceAs (Decidable (∀ winner ∈ input.names, winner ∉ play.forfeiters))
  | .outside position _ => by
      dsimp only [MatchPlay.SparesForfeiters]
      exact match play.calls[position]? with
        | some (.expand ..) => instDecidableForall
        | none | some (.abort _) | some (.settle _) | some (.resolve ..) | some (.forfeit ..)
        | some (.report ..) | some (.confirm ..) | some (.dispute _) | some .sweep
        | some (.handOver _) | some (.repoint ..) => instDecidableTrue
  | .inside _ => by
      dsimp only [MatchPlay.SparesForfeiters]
      exact match play.critical with
        | some (.forfeiting ..) | some (.leaving ..) => instDecidableForall
        | none | some (.aborting _) | some (.refunding ..) | some (.refunded ..)
        | some (.settling ..) | some (.paying ..) | some (.withdrawing ..)
        | some (.reporting ..) | some (.confirming ..) | some (.disputing _) =>
            instDecidableTrue
  | .request (.abortSession _) | .request (.forfeit _) | .request (.confirmMatchResult _)
  | .request (.disputeMatchResult _) | .request .sweepPendingResults
  | .request (.repointRoomGameHost _) | .start _ | .enter .. | .lapse => instDecidableTrue

/-! ### The invariant -/

/-- A forfeit is being decided or written. -/
def Critical.Leaves : Critical → Prop
  | .forfeiting _ _ => True
  | .leaving _ _ _ => True
  | _ => False

/-- Somebody was paid out or has won. -/
def MatchPlay.Paid (play : MatchPlay) : Prop :=
  (∃ userId, Posted play.journal .payout userId) ∨
    ∃ participant ∈ play.session.participants, participant.status = .won

structure MatchPlay.Spared (play : MatchPlay) : Prop where
  clean : play.NoForfeiterCollects
  apart : ∀ userId, play.Named userId → userId ∉ play.forfeiters
  /-- After a settlement nobody plays. -/
  finished : play.Paid → ∀ participant ∈ play.session.participants, participant.status ≠ .playing
  unpaid : ∀ critical ∈ play.critical, critical.Leaves → ¬play.Paid

namespace MatchPlay.Spared

theorem call {play : MatchPlay} (spared : play.Spared) {call : Call}
    (member : call ∈ play.calls) : ∀ userId ∈ call.names, userId ∉ play.forfeiters :=
  fun userId named => spared.apart userId (Or.inr (Or.inl ⟨call, member, named⟩))

theorem critical {play : MatchPlay} (spared : play.Spared) {critical : Critical}
    (holds : play.critical = some critical) :
    ∀ userId ∈ critical.names, userId ∉ play.forfeiters :=
  fun userId named => spared.apart userId (Or.inr (Or.inr ⟨critical, holds, named⟩))

theorem pending {play : MatchPlay} (spared : play.Spared) {pending : PendingMatchResult}
    (found : play.pending = some pending) :
    ∀ userId ∈ pending.winners, userId ∉ play.forfeiters :=
  fun userId named => spared.apart userId (Or.inl ⟨pending, found, named⟩)

/-! ### What a step may write -/

theorem spawn {play : MatchPlay} (spared : play.Spared) {call : Call}
    (names : ∀ userId ∈ call.names, userId ∉ play.forfeiters) : (play.spawn call).Spared where
  clean := spared.clean
  apart := by
    rintro userId (pending | ⟨other, member, named⟩ | critical)
    · exact spared.apart userId (Or.inl pending)
    · rcases List.mem_append.mp member with before | last
      · exact spared.call before userId named
      · cases List.mem_singleton.mp last
        exact names userId named
    · exact spared.apart userId (Or.inr (Or.inr critical))
  finished := spared.finished
  unpaid := spared.unpaid

theorem leave {play : MatchPlay} (spared : play.Spared) : play.leave.Spared where
  clean := spared.clean
  apart := by
    rintro userId (pending | call | ⟨critical, holds, _⟩)
    · exact spared.apart userId (Or.inl pending)
    · exact spared.apart userId (Or.inr (Or.inl call))
    · cases holds
  finished := spared.finished
  unpaid := fun critical holds => by cases holds

theorem within {play : MatchPlay} (spared : play.Spared) {critical : Critical}
    (names : ∀ userId ∈ critical.names, userId ∉ play.forfeiters)
    (leaves : critical.Leaves → ¬play.Paid) : (play.within critical).Spared where
  clean := spared.clean
  apart := by
    rintro userId (pending | call | ⟨other, holds, named⟩)
    · exact spared.apart userId (Or.inl pending)
    · exact spared.apart userId (Or.inr (Or.inl call))
    · cases holds
      exact names userId named
  finished := spared.finished
  unpaid := fun other holds => by
    cases holds
    exact leaves

theorem drop {play : MatchPlay} (spared : play.Spared) (position : Nat) :
    (play.drop position).Spared where
  clean := spared.clean
  apart := by
    rintro userId (pending | ⟨call, member, named⟩ | critical)
    · exact spared.apart userId (Or.inl pending)
    · exact spared.call (List.mem_of_mem_eraseIdx member) userId named
    · exact spared.apart userId (Or.inr (Or.inr critical))
  finished := spared.finished
  unpaid := spared.unpaid

/-- The pending result is stored, replaced or gone. -/
theorem report {play : MatchPlay} (spared : play.Spared) {pending : Option PendingMatchResult}
    (names : ∀ stored ∈ pending, ∀ userId ∈ stored.winners, userId ∉ play.forfeiters) :
    ({ play with pending := pending } : MatchPlay).Spared where
  clean := spared.clean
  apart := by
    rintro userId (⟨stored, found, named⟩ | call | critical)
    · exact names stored found userId named
    · exact spared.apart userId (Or.inr (Or.inl call))
    · exact spared.apart userId (Or.inr (Or.inr critical))
  finished := spared.finished
  unpaid := spared.unpaid

theorem forget {play : MatchPlay} (spared : play.Spared) :
    ({ play with pending := none } : MatchPlay).Spared :=
  spared.report fun _ found => by cases found

/-- Rows and money move, but nobody starts to play or to win and nobody is paid out. -/
theorem write {before after : MatchPlay} (spared : before.Spared)
    (pending : after.pending = before.pending) (calls : after.calls = before.calls)
    (critical : after.critical = before.critical)
    (forfeiters : after.forfeiters = before.forfeiters)
    (payouts : ∀ userId, Posted after.journal .payout userId →
      Posted before.journal .payout userId)
    (rows : ∀ row ∈ after.session.participants, ∃ earlier ∈ before.session.participants,
      earlier.userId = row.userId ∧ (row.status = .won → earlier.status = .won) ∧
        (row.status = .playing → earlier.status = .playing)) : after.Spared := by
  have paid : after.Paid → before.Paid := by
    rintro (⟨userId, posted⟩ | ⟨row, member, won⟩)
    · exact Or.inl ⟨userId, payouts userId posted⟩
    · obtain ⟨earlier, inside, _, wins, _⟩ := rows row member
      exact Or.inr ⟨earlier, inside, wins won⟩
  refine ⟨fun userId member => ?_, fun userId named => ?_, fun done row member playing => ?_, ?_⟩
  · rw [forfeiters] at member
    obtain ⟨unpaid, notWon⟩ := spared.clean userId member
    refine ⟨fun posted => unpaid (payouts userId posted), fun row inside same won => ?_⟩
    obtain ⟨earlier, stored, user, wins, _⟩ := rows row inside
    exact notWon earlier stored (user.trans same) (wins won)
  · rw [forfeiters]
    refine spared.apart userId ?_
    unfold MatchPlay.Named at named ⊢
    rw [← pending, ← calls, ← critical]
    exact named
  · obtain ⟨earlier, inside, _, _, plays⟩ := rows row member
    exact spared.finished (paid done) earlier inside (plays playing)
  · rw [critical]
    exact fun holder holds leaves done => spared.unpaid holder holds leaves (paid done)

/-- A step that leaves the rows alone and pays nobody out. -/
theorem same {before after : MatchPlay} (spared : before.Spared)
    (pending : after.pending = before.pending) (calls : after.calls = before.calls)
    (critical : after.critical = before.critical)
    (forfeiters : after.forfeiters = before.forfeiters)
    (participants : after.session.participants = before.session.participants)
    (payouts : ∀ userId, Posted after.journal .payout userId →
      Posted before.journal .payout userId) : after.Spared :=
  spared.write pending calls critical forfeiters payouts fun row member =>
    ⟨row, by rw [← participants]; exact member, rfl, id, id⟩

/-- One row is written, with a status nobody wins or plays by. -/
theorem update {play : MatchPlay} (spared : play.Spared) (userId : UserId)
    {update : GameParticipant → GameParticipant} (keeps : ∀ row, (update row).userId = row.userId)
    (notWon : ∀ row, (update row).status = .won → row.status = .won)
    (notPlaying : ∀ row, (update row).status = .playing → row.status = .playing) :
    (play.updateParticipant userId update).Spared := by
  refine spared.write rfl rfl rfl rfl (fun _ => id) fun row member => ?_
  obtain ⟨earlier, inside, rfl⟩ := List.mem_map.mp member
  refine ⟨earlier, inside, ?_⟩
  split
  · exact ⟨(keeps earlier).symm, notWon earlier, notPlaying earlier⟩
  · exact ⟨rfl, id, id⟩

theorem markRefunded {play : MatchPlay} (spared : play.Spared) (userId : UserId)
    (refundTxnId : TransactionId) :
    (play.updateParticipant userId (MatchPlay.markRefunded refundTxnId)).Spared :=
  spared.update userId (fun _ => rfl) (fun _ won => by cases won) fun _ playing => by
    cases playing

theorem move {play : MatchPlay} (spared : play.Spared) {movement : Movement}
    (unpaid : movement.kind ≠ .payout) : (play.move movement).Spared :=
  spared.same rfl rfl rfl rfl rfl fun userId => (posted_ensure_of_ne unpaid userId).mp

theorem starting {play : MatchPlay} (spared : play.Spared) (start : StartPhase) :
    (play.starting start).Spared :=
  spared.same rfl rfl rfl rfl rfl fun _ => id

theorem closeSession {play : MatchPlay} (spared : play.Spared) (status : GameSessionStatus) :
    (play.closeSession status).Spared :=
  spared.same rfl rfl rfl rfl rfl fun _ => id

theorem updateSessionHost {play : MatchPlay} (spared : play.Spared) (hostId : UserId) :
    (play.updateSessionHost hostId).Spared :=
  spared.same rfl rfl rfl rfl rfl fun _ => id

/-- A forfeit that is decided before anyone is paid, by someone on no list. -/
theorem forfeited {play : MatchPlay} (spared : play.Spared) {actor : UserId}
    (unpaid : ¬play.Paid) (unnamed : ¬play.Named actor) : (play.forfeited actor).Spared where
  clean := fun userId _ =>
    ⟨fun posted => unpaid (Or.inl ⟨userId, posted⟩),
      fun row member _ won => unpaid (Or.inr ⟨row, member, won⟩)⟩
  apart := fun userId named forfeits => by
    rcases List.mem_cons.mp forfeits with rfl | before
    · exact unnamed named
    · exact spared.apart userId named before
  finished := spared.finished
  unpaid := spared.unpaid

/-! ### Steps -/

theorem stepStart {play : MatchPlay} (spared : play.Spared) (reply : Reply) :
    (play.stepStart reply).Spared := by
  unfold MatchPlay.stepStart
  cases play.start with
  | escrow rest escrowed =>
      cases rest with
      | nil => exact spared.starting _
      | cons participant rest =>
          dsimp only
          split
          · exact spared.starting _
          · split
            · exact spared.starting _
            · exact (spared.move (by intro impossible; cases impossible)).starting _
  | staked participant stakeTxnId rest escrowed =>
      dsimp only
      split
      · exact spared.starting _
      · apply MatchPlay.Spared.starting
        exact spared.update _ (fun _ => rfl) (fun _ => id) fun _ => id
  | unwind rest =>
      cases rest with
      | nil => exact spared.starting _
      | cons participant rest =>
          dsimp only
          split
          · exact spared.starting _
          · exact (spared.move (by intro impossible; cases impossible)).starting _
  | unwound participant refundTxnId rest =>
      dsimp only
      split
      · exact spared.starting _
      · exact (spared.markRefunded _ _).starting _
  | abandon =>
      dsimp only
      split
      · exact spared.starting _
      · exact (spared.closeSession _).starting _
  | fixPot =>
      dsimp only
      split
      · exact spared.starting _
      · exact spared.same rfl rfl rfl rfl rfl fun _ => id
  | returned => exact spared
  | thrown => exact spared

/-- A participant who is playing has not been paid, and neither has anyone else. -/
theorem unpaid_of_requirePlaying {play : MatchPlay} (spared : play.Spared) {actor : UserId}
    {participant : GameParticipant}
    (playing : requirePlaying play.session.participants actor = .ok participant) :
    ¬play.Paid := by
  obtain ⟨found, isPlaying⟩ := Option.filter_eq_some_iff.mp (orThrow_eq_ok.mp playing)
  intro paid
  refine spared.finished paid participant (List.mem_of_find?_eq_some found) ?_
  unfold GameParticipant.isPlaying at isPlaying
  simpa using isPlaying

theorem enter {play : MatchPlay} (spared : play.Spared) {call : Call} {position : Nat}
    (found : play.calls[position]? = some call) (reply : Reply) :
    ((play.drop position).enter reply call).Spared := by
  have names := spared.call (List.mem_of_getElem? found)
  have dropped := spared.drop position
  have nobody : ∀ userId ∈ ([] : List UserId), userId ∉ (play.drop position).forfeiters :=
    fun _ member => absurd member List.not_mem_nil
  have enters := (play.drop position).enters_enter reply call
  generalize (play.drop position).enter reply call = after at enters
  cases enters with
  | refused => exact dropped
  | abort => exact dropped.within nobody False.elim
  | settle => exact dropped.within names False.elim
  | forfeit session playing =>
      exact dropped.within nobody fun _ => dropped.unpaid_of_requirePlaying playing
  | report => exact dropped.within names False.elim
  | confirm => exact dropped.within nobody False.elim
  | dispute => exact dropped.within nobody False.elim
  | forget => exact dropped.forget
  | sweep stored => exact dropped.forget.spawn (spared.pending stored)

theorem handOverTo {play : MatchPlay} (spared : play.Spared) (hostId : UserId)
    (next : Option UserId) : (play.handOverTo hostId next).Spared := by
  unfold MatchPlay.handOverTo
  split
  · exact spared
  · split
    · exact spared
    · exact spared.spawn fun _ member => absurd member List.not_mem_nil

/-- The winners that a forfeit decides on are others still playing, or the last one to
leave. -/
theorem mem_winners {mode : GameMode} {actor : UserId} {remaining : List GameParticipant}
    {winners : List UserId} (decided : decide mode actor remaining = .settle winners)
    {userId : UserId} (member : userId ∈ winners) :
    (remaining = [] ∧ userId = actor) ∨ userId ∈ userIds remaining := by
  have classic : decideForfeit actor remaining = .settle winners →
      (remaining = [] ∧ userId = actor) ∨ userId ∈ userIds remaining := by
    intro settles
    unfold decideForfeit at settles
    split at settles
    · cases settles
      exact Or.inl ⟨rfl, List.mem_singleton.mp member⟩
    · cases settles
      exact Or.inr member
    · split at settles
      · cases settles
        exact Or.inr member
      · cases settles
  have team : decideTeamForfeit actor remaining = .settle winners →
      (remaining = [] ∧ userId = actor) ∨ userId ∈ userIds remaining := by
    intro settles
    unfold decideTeamForfeit at settles
    split at settles
    · rename_i noTeam
      cases settles
      refine Or.inl ⟨?_, List.mem_singleton.mp member⟩
      unfold teamsLeft at noTeam
      exact List.map_eq_nil_iff.mp ((List.dedup_eq_nil _).mp noTeam)
    · cases settles
      exact Or.inr member
    · split at settles
      · cases settles
        exact Or.inr member
      · cases settles
  unfold decide at decided
  split at decided
  · exact team decided
  · exact classic decided

theorem decideLeave {play : MatchPlay} (spared : play.Spared) {session : GameSession}
    {actor : UserId} (holds : play.critical = some (.forfeiting session actor))
    (inOrder : decide session.mode actor (remainingBeside play.session.participants actor) ≠
        .proceed →
      if remainingBeside play.session.participants actor = [] then actor ∉ play.forfeiters
      else ¬play.Named actor ∧
        ∀ participant ∈ remainingBeside play.session.participants actor,
          participant.userId ∉ play.forfeiters) : (play.decideLeave session actor).Spared := by
  have unpaid : ¬play.Paid := spared.unpaid _ holds trivial
  unfold MatchPlay.decideLeave
  dsimp only
  split
  · exact spared.within (fun _ member => absurd member List.not_mem_nil) fun _ => unpaid
  · rename_i winners decided
    have allowed := inOrder (by rw [decided]; intro impossible; cases impossible)
    have listed : ∀ userId ∈ winners, (remainingBeside play.session.participants actor = [] ∧
        userId = actor) ∨ userId ∈ userIds (remainingBeside play.session.participants actor) :=
      fun userId member => mem_winners decided member
    split
    · rename_i nobody
      rw [if_pos nobody] at allowed
      refine spared.leave.spawn fun userId member => ?_
      rcases listed userId member with ⟨_, rfl⟩ | remains
      · exact allowed
      · rw [nobody] at remains
        exact absurd remains List.not_mem_nil
    · rename_i others
      rw [if_neg others] at allowed
      obtain ⟨unnamed, fresh⟩ := allowed
      refine (spared.forfeited unpaid unnamed).leave.spawn fun userId member forfeits => ?_
      have remains := (listed userId member).resolve_left fun last => others last.1
      obtain ⟨participant, inside, rfl⟩ := List.mem_map.mp remains
      rcases List.mem_cons.mp forfeits with isActor | before
      · have apart := (List.mem_filter.mp inside).2
        rw [isActor] at apart
        simp at apart
      · exact fresh participant inside before

/-- What is posted is an accepted payout or was posted before. -/
theorem posted_postAll {journal : Journal} {movements : List Movement} {kind : MovementKind}
    {userId : UserId} (posted : Posted (MatchPlay.postAll journal movements) kind userId) :
    Posted journal kind userId ∨ ∃ movement ∈ movements, movement.key = (kind, userId) := by
  induction movements generalizing journal with
  | nil => exact Or.inl posted
  | cons movement rest ih =>
      rcases ih posted with before | ⟨later, member, key⟩
      · rcases (posted_ensure_iff _ _ _ _).mp before with earlier | same
        · exact Or.inl earlier
        · exact Or.inr ⟨movement, List.mem_cons_self, same.symm⟩
      · exact Or.inr ⟨later, List.mem_cons_of_mem _ member, key⟩

theorem named_of_payoutsTo {payouts : List PayoutEntry} {participants : List GameParticipant}
    {movement : Movement} (member : movement ∈ MatchPlay.payoutsTo payouts participants) :
    movement.userId ∈ payouts.map PayoutEntry.userId := by
  obtain ⟨listed, positive⟩ := List.mem_filter.mp member
  obtain ⟨participant, _, rfl⟩ := List.mem_map.mp listed
  by_contra absent
  have nothing := payoutOf_eq_zero absent
  dsimp only at nothing positive
  rw [nothing] at positive
  simp at positive

theorem pay {play : MatchPlay} (spared : play.Spared) {input : SettleResultInput}
    {fresh : GameSession} {participants : List GameParticipant}
    (holds : play.critical = some (.paying input fresh participants)) :
    (play.pay input fresh participants).leave.Spared where
  clean := by
    intro userId forfeits
    have unlisted : userId ∉ input.names :=
      fun named => spared.critical holds userId named forfeits
    refine ⟨fun posted => ?_, fun row member same won => ?_⟩
    · rcases posted_postAll posted with before | ⟨movement, member, key⟩
      · exact (spared.clean userId forfeits).1 before
      · have user : movement.userId = userId := congrArg Prod.snd key
        refine unlisted (List.mem_append_right _ ?_)
        rw [← user]
        exact named_of_payoutsTo member
    · obtain ⟨earlier, _, rfl⟩ := List.mem_map.mp member
      refine unlisted (List.mem_append_left _ ?_)
      rw [← same]
      by_contra unlucky
      have loses : earlier.userId ∉ input.winners := unlucky
      change (if earlier.userId ∈ input.winners then GameParticipantStatus.won else .lost) =
        .won at won
      rw [if_neg loses] at won
      cases won
  apart := by
    rintro userId (pending | call | ⟨critical, none, _⟩)
    · exact spared.apart userId (Or.inl pending)
    · exact spared.apart userId (Or.inr (Or.inl call))
    · cases none
  finished := by
    intro _ row member playing
    obtain ⟨earlier, _, rfl⟩ := List.mem_map.mp member
    change (if earlier.userId ∈ input.winners then GameParticipantStatus.won else .lost) =
      .playing at playing
    split at playing <;> cases playing
  unpaid := fun critical none => by cases none

theorem lost {play : MatchPlay} (spared : play.Spared) (actor : UserId) :
    (play.updateParticipant actor fun row => { row with status := .lost }).Spared :=
  spared.update actor (fun _ => rfl) (fun _ won => by cases won) fun _ playing => by
    cases playing

theorem paid_of_lost {play : MatchPlay} {actor : UserId}
    (paid : (play.updateParticipant actor fun row => { row with status := .lost }).Paid) :
    play.Paid := by
  refine paid.imp_right ?_
  rintro ⟨row, member, won⟩
  obtain ⟨earlier, inside, rfl⟩ := List.mem_map.mp member
  split at won
  · cases won
  · exact ⟨earlier, inside, won⟩

theorem pending_of_confirmed {play : MatchPlay} {actor : UserId} {pending : PendingMatchResult}
    (confirmed : play.confirmed actor = some pending) : play.pending = some pending := by
  unfold MatchPlay.confirmed at confirmed
  split at confirmed
  · cases confirmed
  · exact (Option.filter_eq_some_iff.mp confirmed).1

theorem stepInside {play : MatchPlay} (spared : play.Spared) {critical : Critical}
    (holds : play.critical = some critical) (reply : Reply)
    (inOrder : play.SparesForfeiters (.inside reply)) :
    (play.stepInside reply critical).Spared := by
  have names := spared.critical holds
  unfold MatchPlay.SparesForfeiters at inOrder
  rw [holds] at inOrder
  unfold MatchPlay.stepInside
  cases critical with
  | aborting status =>
      dsimp only
      split
      · exact spared.leave
      · exact spared.within names False.elim
  | refunding status rest =>
      cases rest with
      | nil =>
          dsimp only
          split
          · exact spared.leave
          · exact (spared.closeSession _).leave
      | cons participant rest =>
          dsimp only
          split
          · exact spared.within names False.elim
          · exact (spared.move (by intro impossible; cases impossible)).within names False.elim
  | refunded status participant refundTxnId rest =>
      dsimp only
      split
      · exact spared.within names False.elim
      · exact (spared.markRefunded _ _).within names False.elim
  | settling input fresh =>
      dsimp only
      split
      · exact spared.leave
      · split
        · exact spared.leave
        · exact spared.within names False.elim
  | paying input fresh participants =>
      dsimp only
      split
      · exact spared.leave
      · exact spared.pay holds
  | forfeiting session actor =>
      dsimp only
      split
      · exact spared.leave
      · rename_i reads
        exact spared.decideLeave holds (inOrder (by simpa using reads))
  | leaving session actor participants =>
      dsimp only
      split
      · exact spared.leave
      · rename_i writes
        have unpaid : ¬play.Paid := spared.unpaid _ holds trivial
        have unnamed := inOrder (by simpa using writes)
        refine ((spared.lost _).forfeited ?_ unnamed).within
          (fun _ member => absurd member List.not_mem_nil) False.elim
        exact fun paid => unpaid (paid_of_lost paid)
  | withdrawing session actor participants =>
      dsimp only
      split
      · exact spared.leave
      · split
        · exact spared.leave.handOverTo _ _
        · exact spared.leave
  | reporting actor winners =>
      dsimp only
      split
      · exact spared.leave
      · split
        · exact spared.leave
        · refine MatchPlay.Spared.leave (spared.report ?_)
          intro stored found
          cases found
          exact names
  | confirming session actor =>
      dsimp only
      split
      · exact spared.leave
      · rename_i pending stored
        split
        · exact spared.leave
        · exact spared.forget.leave.spawn (spared.pending (pending_of_confirmed stored))
  | disputing actor =>
      dsimp only
      split
      · exact spared.leave
      · split
        · exact spared.leave
        · exact spared.forget.leave

/-- A settlement names nobody whom the resolved list does not. -/
theorem names_of_settle {stake potAmount rakeBps : Nat} {participants : List GameParticipant}
    {winners : List UserId} {input : SettleResultInput}
    (resolved : settleToHumanWinners stake potAmount participants rakeBps winners =
      .settle input) {userId : UserId} (member : userId ∈ input.names) : userId ∈ winners := by
  unfold settleToHumanWinners at resolved
  dsimp only at resolved
  split at resolved
  · split at resolved
    · cases resolved
    · cases resolved
      exact (List.mem_append.mp member).elim id fun none => absurd none List.not_mem_nil
  · cases resolved
    rcases List.mem_append.mp member with wins | paid
    · exact (List.mem_filter.mp wins).1
    · obtain ⟨entry, inside, rfl⟩ := List.mem_map.mp paid
      obtain ⟨indexed, listed, rfl⟩ := List.mem_map.mp inside
      exact (List.mem_filter.mp (List.fst_mem_of_mem_zipIdx listed)).1

theorem stepOutside {play : MatchPlay} (spared : play.Spared) {call : Call} {position : Nat}
    (found : play.calls[position]? = some call) (reply : Reply) (succeeds : reply.fails = false)
    (inOrder : play.SparesForfeiters (.outside position reply)) :
    ((play.drop position).stepOutside reply call).Spared := by
  have names := spared.call (List.mem_of_getElem? found)
  have dropped := spared.drop position
  dsimp only [MatchPlay.SparesForfeiters] at inOrder
  rw [found] at inOrder
  unfold MatchPlay.stepOutside
  cases call with
  | resolve session winners =>
      dsimp only
      split
      · exact dropped.spawn fun _ member => absurd member List.not_mem_nil
      · rename_i resolved
        exact dropped.spawn fun userId member => names userId (names_of_settle resolved member)
  | expand actor winningTeam =>
      have spares := inOrder succeeds
      dsimp only
      split
      · exact dropped
      · rename_i expanded
        refine dropped.spawn fun userId member => spares userId ?_
        change expandTeamWinners play.session.participants _ = _ at expanded
        rw [expanded]
        exact member
  | handOver newHostId => exact dropped.updateSessionHost _
  | repoint session newOwnerId =>
      dsimp only
      split
      · exact dropped.handOverTo _ _
      · exact dropped
  | abort | settle | forfeit | report | confirm | dispute | sweep => exact dropped

theorem accept {play : MatchPlay} (spared : play.Spared) {request : Request}
    (inOrder : play.SparesForfeiters (.request request)) : (play.accept request).Spared := by
  have nobody : ∀ userId ∈ ([] : List UserId), userId ∉ play.forfeiters :=
    fun _ member => absurd member List.not_mem_nil
  have accepts := play.accepts_accept request
  generalize play.accept request = after at accepts
  cases accepts with
  | refused => exact spared
  | settle => exact spared.spawn inOrder
  | report actor winners winningTeam isHost active classic =>
      exact spared.spawn (inOrder isHost active classic)
  | abort | forfeit | expand | confirm | dispute | sweep | repoint => exact spared.spawn nobody

theorem step (play : MatchPlay) (event : MatchEvent) (spared : play.Spared)
    (inOrder : play.SparesForfeiters event) : (play.step event).Spared := by
  have steps := play.steps_step event
  generalize play.step event = after at steps
  cases steps with
  | idle => exact spared
  | request request => exact spared.accept inOrder
  | start reply => exact spared.stepStart reply
  | enter reply empty found waits => exact spared.enter found reply
  | inside reply holds => exact spared.stepInside holds reply inOrder
  | gaveUp found fails => exact spared.drop _
  | outside found succeeds goes => exact spared.stepOutside found _ succeeds inOrder
  | lapse => exact spared.forget

theorem opened (opened : OpenedSession) : opened.play.Spared where
  clean := fun _ member => absurd member List.not_mem_nil
  apart := fun _ _ member => absurd member List.not_mem_nil
  finished := by
    rintro (⟨userId, posted⟩ | ⟨row, member, won⟩)
    · exact absurd posted (not_posted_empty .payout userId)
    · have playing := (opened.fresh row member).1
      rw [playing] at won
      cases won
  unpaid := fun _ holds => by cases holds

end MatchPlay.Spared

/-! ### Runs -/

/-- No run whose steps are in order pays a forfeiter or records one as a winner. -/
theorem noForfeiterCollects_of_spares (opened : OpenedSession) (events : List MatchEvent)
    (inOrder : Runs.Each MatchPlay.step MatchPlay.SparesForfeiters opened.play events) :
    Runs.Always MatchPlay.step MatchPlay.NoForfeiterCollects opened.play events := by
  have kept : Runs.Always MatchPlay.step MatchPlay.Spared opened.play events :=
    Runs.always_of_each MatchPlay.Spared.step opened.play (MatchPlay.Spared.opened opened) events
      inOrder
  exact kept.imp fun _ spared => spared.clean

namespace Trio

def opened : OpenedSession :=
  ludoMatch "alice" 100 [{ userId := "alice" }, { userId := "bob" }, { userId := "carol" }]
    (by decide)

/-- Three stakes and the pot. -/
def start : List MatchEvent := List.replicate 8 (.start {})

def forfeit (userId : UserId) : List MatchEvent :=
  [.request (.forfeit userId), .enter 0 {}, .inside {}, .inside {}, .inside {}]

def report (winner : UserId) : List MatchEvent :=
  [.request (.reportMatchResult "alice" [winner] none), .enter 0 {}, .inside {}]

/-- Bob confirms, and the settlement that follows runs to its end. -/
def confirmation : List MatchEvent :=
  [.request (.confirmMatchResult "bob"), .enter 0 {}, .inside {}, .outside 0 {}, .enter 0 {},
    .inside {}, .inside {}]

end Trio

open Trio in
theorem noForfeiterCollects_of_late_report :
    Runs.Always MatchPlay.step MatchPlay.NoForfeiterCollects opened.play
      (start ++ forfeit "carol" ++ report "alice" ++ confirmation) := by
  apply noForfeiterCollects_of_spares
  decide +kernel

open Trio in
/-- Carol is reported as the winner, forfeits, and is paid once bob confirms. -/
theorem noForfeiterCollects_fails_on_early_report :
    (Runs.run MatchPlay.step opened.play
        (start ++ report "carol" ++ forfeit "carol" ++ confirmation)).forfeiters = ["carol"] ∧
      { kind := .payout, userId := "carol", amount := 300 } ∈
        (Runs.run MatchPlay.step opened.play
          (start ++ report "carol" ++ forfeit "carol" ++ confirmation)).journal.rows ∧
      ¬Runs.Always MatchPlay.step MatchPlay.NoForfeiterCollects opened.play
        (start ++ report "carol" ++ forfeit "carol" ++ confirmation) := by
  have forfeiters : (Runs.run MatchPlay.step opened.play
      (start ++ report "carol" ++ forfeit "carol" ++ confirmation)).forfeiters = ["carol"] := by
    decide +kernel
  have paid : { kind := .payout, userId := "carol", amount := 300 } ∈
      (Runs.run MatchPlay.step opened.play
        (start ++ report "carol" ++ forfeit "carol" ++ confirmation)).journal.rows := by
    decide +kernel
  refine ⟨forfeiters, paid, fun always => ?_⟩
  have clean := always.final "carol" (by rw [forfeiters]; exact List.mem_singleton_self _)
  exact clean.1 (posted_of_mem paid)

end Soulzaa.Games
