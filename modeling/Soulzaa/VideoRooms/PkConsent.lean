/-
Consent to a video PK.

Runs of answers, cancellations, expiry sweeps and starts.  While an invitation is outstanding
the battle waits, and afterwards it is ACCEPTED or CANCELLED.  Which of the two it is follows
the last answer alone.
-/

import Soulzaa.Lib.Runs
import Soulzaa.VideoRooms.PkInvitations

namespace Soulzaa.VideoRooms

open Runs

namespace Challenge

/-! ### What is promised -/

/-- A battle starts by consent of everybody invited, and waits for nobody in vain. -/
structure Consented (battle : Challenge) : Prop where
  unanimous : battle.status = .accepted ∨ battle.status = .countdown →
    ∀ row ∈ battle.invitations, row.status = .accepted
  refused : battle.outstanding = false →
    (∃ row ∈ battle.invitations, row.status = .rejected ∨ row.status = .expired) →
      battle.status = .cancelled
  waiting : battle.status = .invited ∨ battle.status = .pending → battle.outstanding = true

/-- The last answer is not an acceptance after a refusal. -/
def Undecided (battle : Challenge) : Call → Prop
  | .accept actorId _ _ =>
      ∀ invitation, battle.findActionable actorId = some invitation →
        (∃ row ∈ battle.invitations, isActionable row.status ∧ row.id ≠ invitation.id) ∨
          ∀ row ∈ battle.invitations, row.status ≠ .rejected ∧ row.status ≠ .expired
  | _ => True

/-- The status follows the rows. -/
structure Settled (battle : Challenge) : Prop where
  waits : battle.outstanding = true ↔ battle.status = .invited ∨ battle.status = .pending
  decided : battle.status = .invited ∨ battle.status = .pending ∨ battle.status = .accepted ∨
    battle.status = .countdown ∨ battle.status = .cancelled
  unanimous : battle.status = .accepted ∨ battle.status = .countdown →
    ∀ row ∈ battle.invitations, row.status = .accepted
  withdrawn : ∀ row ∈ battle.invitations, row.status = .cancelled → battle.status = .cancelled

variable {battle after : Challenge} {target : VideoRoomPkInvitationStatus}

theorem Settled.consented (settled : battle.Settled) : battle.Consented where
  unanimous := settled.unanimous
  waiting := settled.waits.mpr
  refused := by
    rintro none ⟨row, member, refused⟩
    have closed : ¬(battle.status = .invited ∨ battle.status = .pending) := fun isOpen =>
      Bool.false_ne_true (none.symm.trans (settled.waits.mpr isOpen))
    have agreed : ¬(battle.status = .accepted ∨ battle.status = .countdown) := by
      intro accepted
      have isAccepted := settled.unanimous accepted row member
      rcases refused with rejected | expired
      · exact nomatch isAccepted.symm.trans rejected
      · exact nomatch isAccepted.symm.trans expired
    rcases settled.decided with isOpen | isOpen | accepted | accepted | cancelled
    · exact absurd (.inl isOpen) closed
    · exact absurd (.inr isOpen) closed
    · exact absurd (.inl accepted) agreed
    · exact absurd (.inr accepted) agreed
    · exact cancelled

/-! ### Rows that are answered -/

theorem outstanding_iff :
    battle.outstanding = true ↔ ∃ row ∈ battle.invitations, isActionable row.status = true := by
  unfold outstanding
  rw [List.any_eq_true]

/-- Some rows have the new status, and nothing else changes. -/
structure Answers (target : VideoRoomPkInvitationStatus) (battle after : Challenge) : Prop where
  status : after.status = battle.status
  rows : ∀ row ∈ after.invitations, row ∈ battle.invitations ∨ row.status = target

theorem answers_refl : Answers target battle battle := ⟨rfl, fun _ => .inl⟩

theorem answers_of_update {id : String} {source : VideoRoomPkInvitationStatus} {now : Nat}
    (updated : battle.updateStatus id source (respond target now) = some after) :
    Answers target battle after := by
  unfold updateStatus at updated
  split at updated
  · obtain rfl := Option.some.inj updated
    refine ⟨rfl, fun row member => ?_⟩
    obtain ⟨before, inside, rfl⟩ := List.mem_map.mp member
    by_cases matched : before.id = id ∧ before.status = source
    · rw [if_pos matched]
      exact .inr rfl
    · rw [if_neg matched]
      exact .inl inside
  · cases updated

/-- A row that did not match is as it was. -/
theorem stays_of_update {id : String} {source : VideoRoomPkInvitationStatus} {now : Nat}
    {row : VideoRoomPkInvitation} (member : row ∈ battle.invitations) (other : row.id ≠ id)
    (updated : battle.updateStatus id source (respond target now) = some after) :
    row ∈ after.invitations := by
  unfold updateStatus at updated
  split at updated
  · obtain rfl := Option.some.inj updated
    exact List.mem_map.mpr ⟨row, member, if_neg fun matched => other matched.1⟩
  · cases updated

theorem updateStatus_of_mem {row : VideoRoomPkInvitation} {now : Nat}
    (member : row ∈ battle.invitations) :
    ∃ after, battle.updateStatus row.id row.status (respond target now) = some after := by
  unfold updateStatus
  rw [if_pos]
  · exact ⟨_, rfl⟩
  · exact List.any_eq_true.mpr ⟨row, member, by rw [decide_eq_true rfl, decide_eq_true rfl]; rfl⟩

theorem mem_of_findActionable {userId : UserId} {invitation : VideoRoomPkInvitation}
    (found : battle.findActionable userId = some invitation) :
    invitation ∈ battle.invitations ∧ isActionable invitation.status = true := by
  have sorted := List.mem_of_head? found
  have member := (List.perm_insertionSort _ _).mem_iff.mp sorted
  obtain ⟨inside, condition⟩ := List.mem_filter.mp member
  exact ⟨inside, (Bool.and_eq_true_iff.mp condition).2⟩

/-- Every row that is still in the status it was read in gets the new one. -/
theorem updateEach_spec (target : VideoRoomPkInvitationStatus) (now : Nat)
    (rows : List VideoRoomPkInvitation) (battle : Challenge) :
    Answers target battle (updateEach target now rows battle).1 ∧
      (∀ row ∈ (updateEach target now rows battle).1.invitations, row.status ≠ target →
        ∀ read ∈ rows, ¬(row.id = read.id ∧ row.status = read.status)) ∧
      ((updateEach target now rows battle).2 = false →
        (updateEach target now rows battle).1 = battle) := by
  induction rows generalizing battle with
  | nil => exact ⟨answers_refl, fun _ _ _ _ => nofun, fun _ => rfl⟩
  | cons read rest ih =>
      unfold updateEach
      cases found : battle.updateStatus read.id read.status (respond target now) with
      | none =>
          obtain ⟨answers, read_of, same⟩ := ih battle
          refine ⟨answers, fun row member apart other isRead => ?_, same⟩
          rcases List.mem_cons.mp isRead with rfl | later
          · rintro ⟨sameId, sameStatus⟩
            have inside := (answers.rows row member).resolve_right apart
            obtain ⟨after, isSome⟩ := @updateStatus_of_mem battle target row now inside
            rw [sameId, sameStatus] at isSome
            exact nomatch found.symm.trans isSome
          · exact read_of row member apart other later
      | some updated =>
          obtain ⟨answers, read_of, -⟩ := ih updated
          have first := answers_of_update found
          refine ⟨⟨answers.status.trans first.status, fun row member => ?_⟩,
            fun row member apart other isRead => ?_, nofun⟩
          · rcases answers.rows row member with inside | changed
            · exact first.rows row inside
            · exact .inr changed
          · rcases List.mem_cons.mp isRead with rfl | later
            · rintro ⟨sameId, sameStatus⟩
              have inside := (answers.rows row member).resolve_right apart
              unfold updateStatus at found
              split at found
              · obtain rfl := Option.some.inj found
                obtain ⟨before, -, isRow⟩ := List.mem_map.mp inside
                by_cases matched : before.id = other.id ∧ before.status = other.status
                · rw [if_pos matched] at isRow
                  exact apart (isRow ▸ rfl)
                · rw [if_neg matched] at isRow
                  exact matched (isRow ▸ ⟨sameId, sameStatus⟩)
              · cases found
            · exact read_of row member apart other later

/-! ### One call -/

theorem settled_cancelled (status : battle.status = .cancelled)
    (none : battle.outstanding = false) : battle.Settled where
  waits := by
    rw [none, status]
    decide
  decided := .inr (.inr (.inr (.inr status)))
  unanimous := by
    rw [status]
    exact nofun
  withdrawn := fun _ _ _ => status

theorem settled_accepted (status : battle.status = .accepted ∨ battle.status = .countdown)
    (all : ∀ row ∈ battle.invitations, row.status = .accepted) : battle.Settled where
  waits := by
    rw [outstanding_iff]
    constructor
    · rintro ⟨row, member, actionable⟩
      rw [all row member] at actionable
      cases actionable
    · intro isOpen
      rcases status with status | status
      · rw [status] at isOpen
        exact absurd isOpen (by decide)
      · rw [status] at isOpen
        exact absurd isOpen (by decide)
  decided := by
    rcases status with status | status
    · exact .inr (.inr (.inl status))
    · exact .inr (.inr (.inr (.inl status)))
  unanimous := fun _ => all
  withdrawn := fun row member cancelled => nomatch (all row member).symm.trans cancelled

/-- As long as something is outstanding the battle still waits. -/
theorem Settled.of_outstanding (settled : battle.Settled) (answers : Answers target battle after)
    (resolved : isActionable target = false) (kept : target ≠ .cancelled)
    (more : after.outstanding = true) : after.Settled := by
  obtain ⟨row, member, actionable⟩ := outstanding_iff.mp more
  have inside : row ∈ battle.invitations := by
    refine (answers.rows row member).resolve_right fun changed => ?_
    rw [changed, resolved] at actionable
    exact Bool.false_ne_true actionable
  have isOpen := settled.waits.mp (outstanding_iff.mpr ⟨row, inside, actionable⟩)
  rw [← answers.status] at isOpen
  refine ⟨⟨fun _ => isOpen, fun _ => more⟩, ?_, ?_, ?_⟩
  · rw [answers.status]
    exact settled.decided
  · intro accepted
    rcases isOpen with status | status
    · rw [status] at accepted
      exact absurd accepted (by decide)
    · rw [status] at accepted
      exact absurd accepted (by decide)
  · intro other otherMember cancelled
    rw [answers.status]
    have before := (answers.rows other otherMember).resolve_right fun changed =>
      kept (changed.symm.trans cancelled)
    exact settled.withdrawn other before cancelled

section Transitions

variable {source last : VideoRoomPkStatus} {patch : Challenge → Challenge}

theorem transition_of_status (status : battle.status = source)
    (legal : assertTransition source last = none) :
    battle.transition source last patch = ({ patch battle with status := last }, none) := by
  unfold transition
  rw [legal]
  exact if_pos status

theorem transition_of_ne (raced : battle.status ≠ source)
    (legal : assertTransition source last = none) :
    battle.transition source last patch = (battle, some .raced) := by
  unfold transition
  rw [legal]
  exact if_neg raced

theorem assertTransition_of_open {status : VideoRoomPkStatus}
    (isOpen : status = .invited ∨ status = .pending)
    (known : last = .accepted ∨ last = .cancelled) : assertTransition status last = none := by
  rcases isOpen with rfl | rfl
  · rcases known with rfl | rfl <;> rfl
  · rcases known with rfl | rfl <;> rfl

theorem assertTransition_cancelled {status : VideoRoomPkStatus}
    (current : isPkTerminal status = false) : assertTransition status .cancelled = none := by
  cases status <;> first | rfl | cases current

end Transitions

/-- An answer changes nothing, is one of several or is the last one. -/
theorem answer_cases (battle : Challenge) (actorId : UserId) (byId : Bool) (now : Nat)
    (target : VideoRoomPkInvitationStatus) (last : VideoRoomPkStatus)
    (patch : Challenge → Challenge) :
    (battle.answer actorId byId now target last patch).1 = battle ∨
      ∃ invitation updated, battle.findActionable actorId = some invitation ∧
        battle.updateStatus invitation.id invitation.status (respond target now) = some updated ∧
          ((updated.outstanding = true ∧
              (battle.answer actorId byId now target last patch).1 = updated) ∨
            (updated.outstanding = false ∧
              (battle.answer actorId byId now target last patch).1 =
                (updated.transition battle.status last patch).1)) := by
  unfold answer resolveBattle
  by_cases current : (byId || !isPkTerminal battle.status) = true
  · rw [if_pos current]
    dsimp only
    cases found : battle.findActionable actorId with
    | none => exact .inl rfl
    | some invitation =>
        dsimp only
        cases updating :
            battle.updateStatus invitation.id invitation.status (respond target now) with
        | none => exact .inl rfl
        | some updated =>
            refine .inr ⟨invitation, updated, rfl, updating, ?_⟩
            dsimp only
            cases more : updated.outstanding with
            | true => exact .inl ⟨rfl, rfl⟩
            | false => exact .inr ⟨rfl, rfl⟩
  · rw [if_neg current]
    exact .inl rfl

theorem settled_answer {actorId : UserId} {byId : Bool} {now : Nat} {last : VideoRoomPkStatus}
    {patch : Challenge → Challenge} (settled : battle.Settled)
    (resolved : isActionable target = false) (kept : target ≠ .cancelled)
    (known : last = .accepted ∨ last = .cancelled)
    (rowsStay : ∀ battle, (patch battle).invitations = battle.invitations)
    (agreed : last = .accepted → target = .accepted ∧
      ∀ invitation, battle.findActionable actorId = some invitation →
        (∃ row ∈ battle.invitations, isActionable row.status ∧ row.id ≠ invitation.id) ∨
          ∀ row ∈ battle.invitations, row.status ≠ .rejected ∧ row.status ≠ .expired) :
    (battle.answer actorId byId now target last patch).1.Settled := by
  rcases answer_cases battle actorId byId now target last patch with
    same | ⟨invitation, updated, found, updating, ⟨more, same⟩ | ⟨none, same⟩⟩
  · rw [same]
    exact settled
  · rw [same]
    exact settled.of_outstanding (answers_of_update updating) resolved kept more
  · have answers := answers_of_update updating
    obtain ⟨member, actionable⟩ := mem_of_findActionable found
    have isOpen := settled.waits.mp (outstanding_iff.mpr ⟨invitation, member, actionable⟩)
    rw [same, transition_of_status answers.status (assertTransition_of_open isOpen known)]
    have sameRows := rowsStay updated
    rcases known with rfl | rfl
    · obtain ⟨rfl, undecided⟩ := agreed rfl
      apply settled_accepted (.inl rfl)
      intro row rowMember
      dsimp only at rowMember
      rw [sameRows] at rowMember
      rcases answers.rows row rowMember with inside | accepted
      · have closed : isActionable row.status ≠ true := fun isActionable =>
          Bool.false_ne_true (none.symm.trans (outstanding_iff.mpr ⟨row, rowMember, isActionable⟩))
        have notCancelled : row.status ≠ .cancelled := by
          intro cancelled
          have status := settled.withdrawn row inside cancelled
          rw [status] at isOpen
          exact absurd isOpen (by decide)
        have notRefused : row.status ≠ .rejected ∧ row.status ≠ .expired := by
          rcases undecided invitation found with ⟨other, otherMember, waits, apart⟩ | nobody
          · have stays := stays_of_update otherMember apart updating
            exact absurd (outstanding_iff.mpr ⟨other, stays, waits⟩) (by rw [none]; decide)
          · exact nobody row inside
        cases status : row.status with
        | sent => exact absurd (status ▸ rfl) closed
        | delivered => exact absurd (status ▸ rfl) closed
        | accepted => rfl
        | rejected => exact absurd status notRefused.1
        | cancelled => exact absurd status notCancelled
        | expired => exact absurd status notRefused.2
      · exact accepted
    · apply settled_cancelled rfl
      unfold outstanding
      dsimp only
      rw [sameRows]
      exact none

theorem settled_cancel {reason : String} {now : Nat} (settled : battle.Settled) :
    (battle.cancel reason now).1.Settled := by
  unfold cancel resolveBattle
  cases current : isPkTerminal battle.status with
  | true => exact settled
  | false =>
      have found : (false || !false) = true := rfl
      rw [if_pos found]
      dsimp only
      unfold cancelAll
      obtain ⟨answers, read, -⟩ := updateEach_spec .cancelled now
        (battle.invitations.filter fun row => isActionable row.status) battle
      rw [transition_of_status answers.status (assertTransition_cancelled current)]
      apply settled_cancelled rfl
      apply eq_false_of_ne_true
      intro more
      obtain ⟨row, member, actionable⟩ := outstanding_iff.mp more
      have notCancelled : row.status ≠ .cancelled := by
        intro cancelled
        rw [cancelled] at actionable
        cases actionable
      have inside := (answers.rows row member).resolve_right notCancelled
      have isRead : row ∈ battle.invitations.filter fun row => isActionable row.status :=
        List.mem_filter.mpr ⟨inside, actionable⟩
      exact read row member notCancelled row isRead ⟨rfl, rfl⟩

theorem settled_expireDue {now : Nat} {page : List String} (settled : battle.Settled) :
    (battle.expireDue now page).Settled := by
  unfold expireDue
  obtain ⟨answers, -, same⟩ := updateEach_spec .expired now (battle.findExpired now page) battle
  cases expiring : updateEach .expired now (battle.findExpired now page) battle with
  | mk expired touched =>
      rw [expiring] at answers same
      dsimp only at answers same ⊢
      cases touched with
      | false =>
          rw [same rfl]
          exact settled
      | true =>
          cases more : expired.outstanding with
          | true => exact settled.of_outstanding answers rfl (by decide) more
          | false =>
              have isOpen : battle.status = .invited ∨ battle.status = .pending := by
                cases found : battle.findExpired now page with
                | nil =>
                    rw [found] at expiring
                    exact nomatch (Prod.mk.inj expiring).2
                | cons row rest =>
                    have member : row ∈ battle.findExpired now page := by
                      rw [found]
                      exact List.mem_cons_self
                    obtain ⟨inside, overdue⟩ := List.mem_filter.mp member
                    have isDue := (Bool.and_eq_true_iff.mp overdue).1
                    have actionable := (Bool.and_eq_true_iff.mp isDue).1
                    exact settled.waits.mp (outstanding_iff.mpr ⟨row, inside, actionable⟩)
              rw [← answers.status] at isOpen
              have isLast : ¬(decide (true = false) || false) = true := nofun
              rw [if_neg isLast]
              rcases isOpen with status | status
              · rw [transition_of_status status rfl]
                exact settled_cancelled rfl more
              · rw [transition_of_ne (by rw [status]; decide) rfl]
                dsimp only
                rw [transition_of_status status rfl]
                exact settled_cancelled rfl more

/-- Rows that stay to be answered, and others that stay as they are. -/
theorem Settled.map {change : VideoRoomPkInvitation → VideoRoomPkInvitation}
    (settled : battle.Settled)
    (waits : ∀ row, isActionable (change row).status = isActionable row.status)
    (stays : ∀ row, isActionable row.status = false → change row = row) :
    Settled { battle with invitations := battle.invitations.map change } where
  waits := by
    have same : outstanding { battle with invitations := battle.invitations.map change } =
        battle.outstanding := by
      unfold outstanding
      rw [List.any_map]
      congr 1
      funext row
      exact waits row
    rw [same]
    exact settled.waits
  decided := settled.decided
  unanimous := by
    intro accepted row member
    obtain ⟨before, inside, rfl⟩ := List.mem_map.mp member
    have isAccepted := settled.unanimous accepted before inside
    rw [stays before (by rw [isAccepted]; rfl)]
    exact isAccepted
  withdrawn := by
    intro row member cancelled
    obtain ⟨before, inside, rfl⟩ := List.mem_map.mp member
    have closed : isActionable before.status = false := by
      rw [← waits before, cancelled]
      rfl
    rw [stays before closed] at cancelled
    exact settled.withdrawn before inside cancelled

theorem Settled.deliver (settled : battle.Settled) (id : String) (now : Nat) :
    ((battle.updateStatus id .sent fun row =>
      { row with
        status := .delivered
        deliveredAt := some now }).getD battle).Settled ∧
      ((battle.updateStatus id .sent fun row =>
        { row with
          status := .delivered
          deliveredAt := some now }).getD battle).status = battle.status := by
  unfold updateStatus
  split
  · refine ⟨settled.map ?_ ?_, rfl⟩
    · intro row
      by_cases matched : row.id = id ∧ row.status = .sent
      · rw [if_pos matched, matched.2]
        rfl
      · rw [if_neg matched]
    · intro row closed
      apply if_neg
      rintro ⟨-, isSent⟩
      rw [isSent] at closed
      cases closed
  · exact ⟨settled, rfl⟩

theorem Settled.pending (settled : battle.Settled) (invited : battle.status = .invited) :
    Settled { battle with status := .pending } where
  waits := ⟨fun _ => .inr rfl, fun _ => settled.waits.mpr (.inl invited)⟩
  decided := .inr (.inl rfl)
  unanimous := by
    rintro (never | never)
    · cases never
    · cases never
  withdrawn := fun row member cancelled =>
    nomatch invited.symm.trans (settled.withdrawn row member cancelled)

theorem settled_markDelivered {userId : UserId} {now : Nat} (settled : battle.Settled) :
    (battle.markDelivered userId now).1.Settled := by
  have finish : ∀ delivered : Challenge, delivered.Settled → delivered.status = battle.status →
      (if battle.status = .invited then delivered.transition .invited .pending id
        else (delivered, none)).1.Settled := by
    intro delivered settledNow same
    by_cases invited : battle.status = .invited
    · rw [if_pos invited, transition_of_status (same.trans invited) rfl]
      exact settledNow.pending (same.trans invited)
    · rw [if_neg invited]
      exact settledNow
  unfold markDelivered
  apply finish
  · split
    · exact settled
    · split
      · exact (settled.deliver _ now).1
      · exact settled
  · split
    · rfl
    · split
      · exact (settled.deliver _ now).2
      · rfl

theorem settled_start (settled : battle.Settled) : battle.start.1.Settled := by
  unfold start resolveBattle
  cases isPkTerminal battle.status with
  | true => exact settled
  | false =>
      have found : (false || !false) = true := rfl
      rw [if_pos found]
      dsimp only
      by_cases accepted : battle.status = .accepted
      · rw [if_neg (not_not_intro accepted), transition_of_status accepted rfl]
        exact settled_accepted (.inr rfl) (settled.unanimous (.inl accepted))
      · rw [if_pos accepted]
        exact settled

theorem settled_step (settled : battle.Settled) {call : Call} (undecided : battle.Undecided call) :
    (battle.step call).Settled := by
  cases call with
  | markDelivered userId now => exact settled_markDelivered settled
  | accept actorId byId now =>
      have rowsStay : ∀ battle : Challenge, (id battle).invitations = battle.invitations :=
        fun _ => rfl
      exact settled_answer settled rfl (by decide) (.inl rfl) rowsStay fun _ => ⟨rfl, undecided⟩
  | reject actorId byId now =>
      unfold step reject
      refine settled_answer settled rfl (by decide) (.inr rfl) ?_ nofun
      intro battle
      rfl
  | cancel reason now => exact settled_cancel settled
  | expireDue now page => exact settled_expireDue settled
  | start => exact settled_start settled

theorem settled_invite {red blue : List Invitee} {expiresAt : Nat} (someone : red ≠ []) :
    (invite red blue expiresAt).Settled := by
  have allSent : ∀ row ∈ (invite red blue expiresAt).invitations, row.status = .sent := by
    intro row member
    rcases List.mem_append.mp member with isRed | isBlue
    · obtain ⟨invitee, -, rfl⟩ := List.mem_map.mp isRed
      rfl
    · obtain ⟨invitee, -, rfl⟩ := List.mem_map.mp isBlue
      rfl
  refine ⟨⟨fun _ => .inl rfl, fun _ => ?_⟩, .inl rfl, ?_, ?_⟩
  · obtain ⟨first, rest, rfl⟩ := List.exists_cons_of_ne_nil someone
    exact outstanding_iff.mpr ⟨_, List.mem_cons_self, rfl⟩
  · rintro (never | never)
    · cases never
    · cases never
  · intro row member cancelled
    exact nomatch (allSent row member).symm.trans cancelled

end Challenge

/-- Where no acceptance is the last answer after a refusal, a battle starts by consent alone,
is CANCELLED after a refusal and never waits for nobody. -/
theorem consented_of_undecided (red blue : List Invitee) (expiresAt : Nat) (someone : red ≠ [])
    (calls : List Call)
    (undecided : Each Challenge.step Challenge.Undecided (invite red blue expiresAt) calls) :
    Always Challenge.step Challenge.Consented (invite red blue expiresAt) calls := by
  have kept : ∀ (battle : Challenge) (call : Call), battle.Settled → battle.Undecided call →
      (battle.step call).Settled := fun _ _ settled undecided =>
    Challenge.settled_step settled undecided
  exact (always_of_each kept _ (Challenge.settled_invite someone) calls undecided).imp
    fun _ => Challenge.Settled.consented

def anna : Invitee where
  id := "invitation-anna"
  userId := "anna"

def bert : Invitee where
  id := "invitation-bert"
  userId := "bert"

theorem consented_bothAccept :
    Always Challenge.step Challenge.Consented (invite [anna] [bert] 100)
      [.accept "anna" true 1, .accept "bert" true 2, .start] := by
  apply consented_of_undecided [anna] [bert] 100 (by decide)
  refine ⟨?_, ?_, trivial, trivial⟩
  · intro invitation found
    exact .inr (by decide)
  · intro invitation found
    exact .inr (by decide)

/-- Anna refuses and Bert accepts: the battle is ACCEPTED and starts. -/
theorem not_consented_refused :
    ¬Always Challenge.step Challenge.Consented (invite [anna] [bert] 100)
      [.reject "anna" true 1, .accept "bert" true 2, .start] := by
  intro always
  have unanimous := always.final.unanimous (.inr (by decide))
  exact absurd unanimous (by decide)

end Soulzaa.VideoRooms
