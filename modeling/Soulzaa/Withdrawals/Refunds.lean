/-
Refunds of a withdrawal request.  While every status write finds the status that its
call has last read or written, and a refund is followed by its status, a request is
refunded at most once and never when it is completed.
-/

import Soulzaa.Withdrawals.Resolution

namespace Soulzaa.Withdrawals

/-! ### The two refunds -/

/-- The columns of a request that never change. -/
structure Reads (request read : WithdrawalRequest) : Prop where
  id : read.id = request.id
  userId : read.userId = request.userId
  amountCoins : read.amountCoins = request.amountCoins

namespace Resolution

structure Unpaid (state : Resolution) (kind : RefundKind) : Prop where
  rows : state.refundsOf kind = []
  key : state.db.transactions.Absent (kind.key state.request.id)

structure Paid (state : Resolution) (kind : RefundKind) : Prop where
  rows : ∃ entry, state.refundsOf kind = [entry] ∧
    IsRefund state.request.userId state.heldCoins entry
  key : ¬state.db.transactions.Absent (kind.key state.request.id)

/-- The refund of the kind is the same before and after. -/
structure SameRefund (state after : Resolution) (kind : RefundKind) : Prop where
  request : Reads state.request after.request
  rows : after.refundsOf kind = state.refundsOf kind
  key : after.db.transactions.Absent (kind.key state.request.id) ↔
    state.db.transactions.Absent (kind.key state.request.id)

variable {state after : Resolution} {kind other : RefundKind}

theorem Unpaid.not_paid (unpaid : state.Unpaid kind) : ¬state.Paid kind :=
  fun paid => paid.key unpaid.key

theorem Unpaid.of_same (unpaid : state.Unpaid kind) (same : state.SameRefund after kind) :
    after.Unpaid kind where
  rows := same.rows.trans unpaid.rows
  key := by
    rw [same.request.id]
    exact same.key.mpr unpaid.key

theorem Paid.of_same (paid : state.Paid kind) (same : state.SameRefund after kind) :
    after.Paid kind where
  rows := by
    obtain ⟨entry, rows, isRefund⟩ := paid.rows
    refine ⟨entry, same.rows.trans rows, ?_⟩
    unfold heldCoins at isRefund ⊢
    rw [same.request.userId, same.request.amountCoins]
    exact isRefund
  key := by
    rw [same.request.id]
    exact fun absent => paid.key (same.key.mp absent)

theorem SameRefund.symm (same : state.SameRefund after kind) : after.SameRefund state kind where
  request := ⟨same.request.id.symm, same.request.userId.symm, same.request.amountCoins.symm⟩
  rows := same.rows.symm
  key := by
    rw [same.request.id]
    exact same.key.symm

/-- Statuses and calls have no part in a refund. -/
theorem sameRefund_of_db (request : Reads state.request after.request) (db : after.db = state.db)
    (kind : RefundKind) : state.SameRefund after kind := by
  refine ⟨request, ?_, ?_⟩
  · unfold refundsOf
    rw [db, request.id]
  · rw [db]

end Resolution

theorem reads_refl (request : WithdrawalRequest) : Reads request request := ⟨rfl, rfl, rfl⟩

theorem rejectionKey_ne_failureKey (id : RequestId) :
    RefundKind.rejection.key id ≠ RefundKind.failure.key id := by
  have rejection : RefundKind.rejection.key id = "withdrawal-refund:" ++ id := rfl
  have failure : RefundKind.failure.key id = "withdrawal-failure-refund:" ++ id := rfl
  rw [rejection, failure]
  intro same
  have spelled := congrArg String.toList same
  simp at spelled

theorem key_ne_of_kind {kind other : RefundKind} (different : kind ≠ other) (id : RequestId) :
    kind.key id ≠ other.key id := by
  cases kind <;> cases other
  · exact absurd rfl different
  · exact rejectionKey_ne_failureKey id
  · exact (rejectionKey_ne_failureKey id).symm
  · exact absurd rfl different

theorem referenceType_ne_of_kind {kind other : RefundKind} (different : kind ≠ other) :
    kind.referenceType ≠ other.referenceType := by
  cases kind <;> cases other <;> first | exact absurd rfl different | decide

section Credit

variable {state : Resolution} {kind : RefundKind} {platform : Platform} {db : Db}
  {read : WithdrawalRequest}

theorem refundCredit_eq (reads : Reads state.request read) :
    refundCredit kind read = refundCredit kind state.request := by
  unfold refundCredit
  rw [reads.id, reads.userId, reads.amountCoins]

theorem paid_of_credit {result : WalletMovementResult} (reads : Reads state.request read)
    (moved : WalletService.credit platform state.db (refundCredit kind read) = (db, .ok result))
    (unpaid : state.Unpaid kind) : ({ state with db := db } : Resolution).Paid kind := by
  rw [refundCredit_eq reads] at moved
  have selected : ∀ entry,
      WalletService.IsMovementOf .credit (refundCredit kind state.request) entry →
        isRefundOf kind state.request.id entry = true :=
    fun entry isRefund => decide_eq_true ⟨isRefund.referenceType, isRefund.referenceId⟩
  obtain ⟨taken, entry, isRefund, rows⟩ := WalletService.row_of_move_ok moved unpaid.key selected
  refine ⟨⟨entry, ?_, ?_⟩, taken⟩
  · unfold Resolution.refundsOf
    dsimp only
    rw [rows, show List.filter _ state.db.ledger = [] from unpaid.rows, List.nil_append]
  · exact ⟨isRefund.type, isRefund.walletId, isRefund.currency, isRefund.amount⟩

/-- The credit of one kind leaves the other. -/
theorem sameRefund_of_credit {result : Except Failure WalletMovementResult}
    (reads : Reads state.request read)
    (moved : WalletService.credit platform state.db (refundCredit kind read) = (db, result))
    {other : RefundKind} (different : kind ≠ other) :
    state.SameRefund { state with db := db } other := by
  rw [refundCredit_eq reads] at moved
  have unselected : ∀ entry, WalletService.IsCausedBy (refundCredit kind state.request) entry →
      isRefundOf other state.request.id entry = false := by
    intro entry causedBy
    unfold isRefundOf
    rw [causedBy.referenceType, decide_eq_false_iff_not]
    rintro ⟨sameType, _⟩
    exact referenceType_ne_of_kind different (Option.some_inj.mp sameType)
  obtain ⟨rows, key⟩ := WalletService.leaves_of_move moved
    (key_ne_of_kind different state.request.id) unselected
  exact ⟨reads_refl _, rows, key⟩

end Credit

/-! ### The invariant -/

/-- The call has given the coins back and has yet to say so. -/
def Review.Owes : Review → Prop
  | .counting _ _ => True
  | .deciding _ newStatus => newStatus.refunds = true
  | _ => False

def Payout.Owes : Payout → Prop
  | .failing _ => True
  | _ => False

def Review.Sound (state : Resolution) : Review → Prop
  | .refunding read newStatus =>
      (Reads state.request read ∧ read.status.terminal = false) ∧ newStatus.refunds = true ∧
        state.Unpaid .rejection
  | .counting read newStatus =>
      (Reads state.request read ∧ read.status.terminal = false) ∧ newStatus.refunds = true ∧
        state.Paid .rejection
  | .deciding read newStatus =>
      (Reads state.request read ∧ read.status.terminal = false) ∧
        (newStatus.refunds = true ∧ state.Paid .rejection ∨
          newStatus.terminal = false ∧ state.Unpaid .rejection)
  | .recording => True

def Payout.Sound (state : Resolution) : Payout → Prop
  | .processing read =>
      (Reads state.request read ∧ read.status.terminal = false) ∧ state.Unpaid .failure
  | .announcing read => Reads state.request read ∧ state.Unpaid .failure
  | .completing read => Reads state.request read ∧ state.Unpaid .failure
  | .finishing read => Reads state.request read ∧ state.Unpaid .failure
  | .refunding read => Reads state.request read ∧ state.Unpaid .failure
  | .failing _ => state.Paid .failure
  | .recording => True

/-- A refund stands behind its status, or the call that made it is on its way to it. -/
structure Resolution.Safe (state : Resolution) : Prop where
  resolved : ∀ kind, state.Unpaid kind ∨ state.Paid kind
  rejected : state.Paid .rejection →
    state.request.status.refunds = true ∨ ∃ call ∈ state.review, call.Owes
  failed : state.Paid .failure →
    state.request.status = .failed ∨ ∃ call ∈ state.payout, call.Owes
  backsRejection : state.request.status.refunds = true → state.Paid .rejection
  backsFailure : state.request.status = .failed → state.Paid .failure
  review : ∀ call ∈ state.review, call.Sound state
  payout : ∀ call ∈ state.payout, call.Sound state

variable {state after : Resolution}

theorem Reads.of_same {request next read : WithdrawalRequest} (reads : Reads request read)
    (same : Reads request next) : Reads next read :=
  ⟨reads.id.trans same.id.symm, reads.userId.trans same.userId.symm,
    reads.amountCoins.trans same.amountCoins.symm⟩

theorem Review.Sound.of_same {call : Review} (sound : call.Sound state)
    (same : state.SameRefund after .rejection) : call.Sound after := by
  cases call with
  | refunding read newStatus =>
      obtain ⟨⟨reads, isOpen⟩, refunds, unpaid⟩ := sound
      exact ⟨⟨reads.of_same same.request, isOpen⟩, refunds, unpaid.of_same same⟩
  | counting read newStatus =>
      obtain ⟨⟨reads, isOpen⟩, refunds, paid⟩ := sound
      exact ⟨⟨reads.of_same same.request, isOpen⟩, refunds, paid.of_same same⟩
  | deciding read newStatus =>
      obtain ⟨⟨reads, isOpen⟩, ⟨refunds, paid⟩ | ⟨stays, unpaid⟩⟩ := sound
      · exact ⟨⟨reads.of_same same.request, isOpen⟩, Or.inl ⟨refunds, paid.of_same same⟩⟩
      · exact ⟨⟨reads.of_same same.request, isOpen⟩, Or.inr ⟨stays, unpaid.of_same same⟩⟩
  | recording => trivial

theorem Payout.Sound.of_same {call : Payout} (sound : call.Sound state)
    (same : state.SameRefund after .failure) : call.Sound after := by
  cases call with
  | processing read =>
      obtain ⟨⟨reads, isOpen⟩, unpaid⟩ := sound
      exact ⟨⟨reads.of_same same.request, isOpen⟩, unpaid.of_same same⟩
  | announcing read => exact ⟨sound.1.of_same same.request, sound.2.of_same same⟩
  | completing read => exact ⟨sound.1.of_same same.request, sound.2.of_same same⟩
  | finishing read => exact ⟨sound.1.of_same same.request, sound.2.of_same same⟩
  | refunding read => exact ⟨sound.1.of_same same.request, sound.2.of_same same⟩
  | failing read => exact Resolution.Paid.of_same sound same
  | recording => trivial

/-- A step that moves no coins: what it has to keep of statuses and calls. -/
theorem safe_of_same (safe : state.Safe) (same : ∀ kind, state.SameRefund after kind)
    (rejected : state.Paid .rejection →
      after.request.status.refunds = true ∨ ∃ call ∈ after.review, call.Owes)
    (failed : state.Paid .failure →
      after.request.status = .failed ∨ ∃ call ∈ after.payout, call.Owes)
    (backsRejection : after.request.status.refunds = true → state.Paid .rejection)
    (backsFailure : after.request.status = .failed → state.Paid .failure)
    (review : ∀ call ∈ after.review, call.Sound state)
    (payout : ∀ call ∈ after.payout, call.Sound state) : after.Safe where
  resolved := fun kind => (safe.resolved kind).imp (fun unpaid => unpaid.of_same (same kind))
    fun paid => paid.of_same (same kind)
  rejected := fun paid => rejected (paid.of_same (same .rejection).symm)
  failed := fun paid => failed (paid.of_same (same .failure).symm)
  backsRejection := fun refunds => (backsRejection refunds).of_same (same .rejection)
  backsFailure := fun isFailed => (backsFailure isFailed).of_same (same .failure)
  review := fun call member => (review call member).of_same (same .rejection)
  payout := fun call member => (payout call member).of_same (same .failure)

/-! ### Steps -/

theorem terminal_of_refunds {status : WithdrawalStatus} (refunds : status.refunds = true) :
    status.terminal = true := by
  cases status <;> first | rfl | cases refunds

theorem newStatus_cases (action : ReviewAction) :
    action.newStatus.refunds = true ∨ action.newStatus.terminal = false := by
  cases action <;> decide

theorem safe_of_status (safe : state.Safe) {status : WithdrawalStatus} {review : Option Review}
    {payout : Option Payout} {payoutTxnId : Option String}
    (rejected : state.Paid .rejection → status.refunds = true ∨ ∃ call ∈ review, call.Owes)
    (failed : state.Paid .failure → status = .failed ∨ ∃ call ∈ payout, call.Owes)
    (backsRejection : status.refunds = true → state.Paid .rejection)
    (backsFailure : status = .failed → state.Paid .failure)
    (reviewSound : ∀ call ∈ review, call.Sound state)
    (payoutSound : ∀ call ∈ payout, call.Sound state) :
    ({ state with
       request :=
        { state.request with
          status := status
          payoutTxnId := payoutTxnId }
       review := review
       payout := payout } : Resolution).Safe :=
  safe_of_same safe (Resolution.sameRefund_of_db ⟨rfl, rfl, rfl⟩ rfl) rejected failed backsRejection
    backsFailure reviewSound payoutSound

/-- While no review is past its lock, an open request has no rejection to its name. -/
theorem rejection_unpaid_of_open (safe : state.Safe) (noReview : state.review = none)
    (isOpen : state.request.status.terminal = false) : state.Unpaid .rejection := by
  apply (safe.resolved .rejection).resolve_right
  intro paid
  rcases safe.rejected paid with refunds | ⟨call, member, _⟩
  · rw [terminal_of_refunds refunds] at isOpen
    cases isOpen
  · rw [noReview] at member
    cases member

theorem failure_unpaid_of_open (safe : state.Safe) (noPayout : state.payout = none)
    (isOpen : state.request.status.terminal = false) : state.Unpaid .failure := by
  apply (safe.resolved .failure).resolve_right
  intro paid
  rcases safe.failed paid with isFailed | ⟨call, member, _⟩
  · rw [isFailed] at isOpen
    cases isOpen
  · rw [noPayout] at member
    cases member

theorem startReview_sound (safe : state.Safe) (noReview : state.review = none)
    (input : ReviewWithdrawalInput) :
    ∀ call ∈ startReview state.request input, call.Sound state := by
  intro call member
  unfold startReview at member
  split at member
  · cases member
  split at member
  · cases member
  rename_i isOpen
  have isOpen := eq_false_of_ne_true isOpen
  have unpaid := rejection_unpaid_of_open safe noReview isOpen
  dsimp only at member
  split at member
  · rename_i refunds
    cases member
    exact ⟨⟨reads_refl _, isOpen⟩, refunds, unpaid⟩
  · rename_i keeps
    cases member
    exact ⟨⟨reads_refl _, isOpen⟩,
      Or.inr ⟨(newStatus_cases input.action).resolve_left keeps, unpaid⟩⟩

theorem startPayout_sound (safe : state.Safe) (noPayout : state.payout = none) :
    ∀ call ∈ startPayout state.request, call.Sound state := by
  intro call member
  unfold startPayout at member
  split at member
  · cases member
  · rename_i executable
    cases member
    have isOpen : state.request.status.terminal = false := by
      rw [not_and_or, not_not, not_not] at executable
      rcases executable with approved | processing
      · rw [approved]
        rfl
      · rw [processing]
        rfl
    exact ⟨⟨reads_refl _, isOpen⟩, failure_unpaid_of_open safe noPayout isOpen⟩

/-- A review goes on, or ends, with what it owes. -/
theorem safe_of_review (safe : state.Safe) {call : Review} (isReview : state.review = some call)
    {next : Option Review} (owes : call.Owes → ∃ other ∈ next, other.Owes)
    (sound : ∀ other ∈ next, other.Sound state) :
    ({ state with review := next } : Resolution).Safe := by
  apply safe_of_status safe _ safe.failed safe.backsRejection safe.backsFailure sound safe.payout
  intro paid
  rcases safe.rejected paid with refunds | ⟨other, member, otherOwes⟩
  · exact Or.inl refunds
  · rw [isReview] at member
    cases member
    exact Or.inr (owes otherOwes)

theorem safe_of_payout (safe : state.Safe) {call : Payout} (isPayout : state.payout = some call)
    {next : Option Payout} (free : ¬call.Owes) (sound : ∀ other ∈ next, other.Sound state) :
    ({ state with payout := next } : Resolution).Safe := by
  apply safe_of_status safe safe.rejected _ safe.backsRejection safe.backsFailure safe.review sound
  intro paid
  rcases safe.failed paid with isFailed | ⟨other, member, owes⟩
  · exact Or.inl isFailed
  · rw [isPayout] at member
    cases member
    exact absurd owes free

theorem forall_mem_none {Call : Type} {holds : Call → Prop} :
    ∀ call ∈ (none : Option Call), holds call := by
  intro call member
  cases member

theorem forall_mem_some {Call : Type} {holds : Call → Prop} {call : Call} (held : holds call) :
    ∀ other ∈ some call, holds other := by
  intro other member
  cases member
  exact held

/-- A credit pays its kind and leaves the other, whoever is past the locks. -/
theorem paid_and_same_of_credit {kind : RefundKind} {platform : Platform} {db : Db}
    {result : WalletMovementResult} {read : WithdrawalRequest} (reads : Reads state.request read)
    (moved : WalletService.credit platform state.db (refundCredit kind read) = (db, .ok result))
    (unpaid : state.Unpaid kind) (after : Resolution) (request : after.request = state.request)
    (isDb : after.db = db) :
    after.Paid kind ∧ ∀ other, kind ≠ other → state.SameRefund after other := by
  have reread : Reads state.request after.request := by
    rw [request]
    exact reads_refl state.request
  have sameAfter : ∀ other, ({ state with db := db } : Resolution).SameRefund after other :=
    Resolution.sameRefund_of_db reread isDb
  refine ⟨(paid_of_credit reads moved unpaid).of_same (sameAfter kind), ?_⟩
  intro other different
  have same := sameRefund_of_credit reads moved different
  exact ⟨reread, (sameAfter other).rows.trans same.rows, (sameAfter other).key.trans same.key⟩

theorem safe_of_rejection (safe : state.Safe) {platform : Platform} {db : Db}
    {result : WalletMovementResult} {read : WithdrawalRequest} {newStatus : WithdrawalStatus}
    (sound : (Review.refunding read newStatus).Sound state)
    (moved : WalletService.credit platform state.db (refundCredit .rejection read) =
      (db, .ok result)) :
    ({ state with
       db := db
       review := some (.counting read newStatus) } : Resolution).Safe := by
  obtain ⟨⟨reads, isOpen⟩, refunds, unpaid⟩ := sound
  obtain ⟨paid, same⟩ := paid_and_same_of_credit reads moved unpaid
    { state with
      db := db
      review := some (.counting read newStatus) } rfl rfl
  have sameFailure := same .failure (by decide)
  exact
    { resolved := fun kind =>
        match kind with
        | .rejection => Or.inr paid
        | .failure => (safe.resolved .failure).imp (fun unpaid => unpaid.of_same sameFailure)
            fun paid => paid.of_same sameFailure
      rejected := fun _ => Or.inr ⟨.counting read newStatus, rfl, trivial⟩
      failed := fun paid => safe.failed (paid.of_same sameFailure.symm)
      backsRejection := fun _ => paid
      backsFailure := fun isFailed => (safe.backsFailure isFailed).of_same sameFailure
      review := forall_mem_some ⟨⟨reads, isOpen⟩, refunds, paid⟩
      payout := fun call member => (safe.payout call member).of_same sameFailure }

theorem safe_of_failure (safe : state.Safe) {platform : Platform} {db : Db}
    {result : WalletMovementResult} {read : WithdrawalRequest}
    (sound : (Payout.refunding read).Sound state)
    (moved : WalletService.credit platform state.db (refundCredit .failure read) =
      (db, .ok result)) :
    ({ state with
       db := db
       payout := some (.failing read) } : Resolution).Safe := by
  obtain ⟨reads, unpaid⟩ := sound
  obtain ⟨paid, same⟩ := paid_and_same_of_credit reads moved unpaid
    { state with
      db := db
      payout := some (.failing read) } rfl rfl
  have sameRejection := same .rejection (by decide)
  exact
    { resolved := fun kind =>
        match kind with
        | .rejection => (safe.resolved .rejection).imp (fun unpaid => unpaid.of_same sameRejection)
            fun paid => paid.of_same sameRejection
        | .failure => Or.inr paid
      rejected := fun paid => safe.rejected (paid.of_same sameRejection.symm)
      failed := fun _ => Or.inr ⟨.failing read, rfl, trivial⟩
      backsRejection := fun refunds => (safe.backsRejection refunds).of_same sameRejection
      backsFailure := fun _ => paid
      review := fun call member => (safe.review call member).of_same sameRejection
      payout := forall_mem_some paid }

/-! ### The condition -/

/-- A status write finds the status its review has read, and after a refund nothing
fails before the status is written. -/
def Review.Permits (status : WithdrawalStatus) (reply : StepReply) : Review → Prop
  | .refunding _ _ => reply.lost = false
  | .counting _ _ => reply.fails = false
  | .deciding read newStatus =>
      (newStatus.refunds = true → reply.fails = false) ∧
        (reply.fails = false → status = read.status)
  | .recording => True

instance (status : WithdrawalStatus) (reply : StepReply) :
    (call : Review) → Decidable (call.Permits status reply)
  | .refunding _ _ => inferInstanceAs (Decidable (_ = _))
  | .counting _ _ => inferInstanceAs (Decidable (_ = _))
  | .deciding _ _ => inferInstanceAs (Decidable (_ ∧ _))
  | .recording => inferInstanceAs (Decidable True)

/-- A status write finds the status its payout has read or written last. -/
def Payout.Permits (status : WithdrawalStatus) (reply : StepReply) : Payout → Prop
  | .processing read => reply.fails = false → status = read.status
  | .completing _ => reply.fails = false → status = .processing
  | .refunding _ => reply.lost = false
  | .failing _ => reply.fails = false ∧ (status = .processing ∨ status = .completed)
  | _ => True

instance (status : WithdrawalStatus) (reply : StepReply) :
    (call : Payout) → Decidable (call.Permits status reply)
  | .processing _ => inferInstanceAs (Decidable (_ → _))
  | .completing _ => inferInstanceAs (Decidable (_ → _))
  | .refunding _ => inferInstanceAs (Decidable (_ = _))
  | .failing _ => inferInstanceAs (Decidable (_ ∧ _))
  | .announcing _ => inferInstanceAs (Decidable True)
  | .finishing _ => inferInstanceAs (Decidable True)
  | .recording => inferInstanceAs (Decidable True)

def Resolution.Permits (state : Resolution) : ResolutionEvent → Prop
  | .resumeReview reply => ∀ call ∈ state.review, call.Permits state.request.status reply
  | .resumePayout reply => ∀ call ∈ state.payout, call.Permits state.request.status reply
  | _ => True

instance (state : Resolution) : (event : ResolutionEvent) → Decidable (state.Permits event)
  | .resumeReview _ => inferInstanceAs (Decidable (∀ call ∈ state.review, _))
  | .resumePayout _ => inferInstanceAs (Decidable (∀ call ∈ state.payout, _))
  | .reviewWithdrawal _ => inferInstanceAs (Decidable True)
  | .executePayout => inferInstanceAs (Decidable True)

/-- No permitted failure leaves a refund without its status. -/
theorem Review.not_owes_of_fails {call : Review} {status : WithdrawalStatus} {reply : StepReply}
    (permits : call.Permits status reply) (fails : reply.fails = true) : ¬call.Owes := by
  intro owes
  cases call with
  | refunding read newStatus => exact owes
  | counting read newStatus =>
      rw [show reply.fails = false from permits] at fails
      cases fails
  | deciding read newStatus =>
      rw [permits.1 owes] at fails
      cases fails
  | recording => exact owes

theorem Payout.not_owes_of_fails {call : Payout} {status : WithdrawalStatus} {reply : StepReply}
    (permits : call.Permits status reply) (fails : reply.fails = true) : ¬call.Owes := by
  intro owes
  cases call with
  | failing read =>
      rw [permits.1] at fails
      cases fails
  | processing read => exact owes
  | announcing read => exact owes
  | completing read => exact owes
  | finishing read => exact owes
  | refunding read => exact owes
  | recording => exact owes

theorem caught_sound {call : Payout} (sound : call.Sound state) :
    ∀ other ∈ Resolution.caught call, other.Sound state := by
  intro other member
  cases call with
  | completing read =>
      cases member
      exact sound
  | finishing read =>
      cases member
      exact sound
  | processing read => cases member
  | announcing read => cases member
  | refunding read => cases member
  | failing read => cases member
  | recording => cases member

/-- On an open request a rejection is still on its way to its status. -/
theorem owes_of_open (safe : state.Safe) (isOpen : state.request.status.terminal = false)
    (paid : state.Paid .rejection) : ∃ call ∈ state.review, call.Owes := by
  apply (safe.rejected paid).resolve_left
  intro refunds
  rw [terminal_of_refunds refunds] at isOpen
  cases isOpen

theorem safe_resumeReview_call (safe : state.Safe) {call : Review}
    (isReview : state.review = some call) {reply : StepReply} (goesOn : reply.fails = false)
    (permits : call.Permits state.request.status reply) :
    (state.resumeReview reply call).Safe := by
  have sound := safe.review call isReview
  cases call with
  | refunding read newStatus =>
      unfold Resolution.resumeReview
      dsimp only
      split
      · rename_i db failure moved
        rw [WalletService.unmoved_of_error moved]
        exact safe_of_review safe isReview False.elim forall_mem_none
      · rename_i db result moved
        rw [show reply.lost = false from permits]
        exact safe_of_rejection safe sound moved
  | counting read newStatus =>
      obtain ⟨reads, refunds, paid⟩ := sound
      refine safe_of_review safe isReview ?_ (forall_mem_some ⟨reads, Or.inl ⟨refunds, paid⟩⟩)
      exact fun _ => ⟨.deciding read newStatus, rfl, refunds⟩
  | deciding read newStatus =>
      obtain ⟨⟨_, isOpen⟩, decided⟩ := sound
      rw [← permits.2 goesOn] at isOpen
      refine safe_of_status safe ?_ ?_ ?_ ?_ (forall_mem_some trivial) safe.payout
      · intro paid
        rcases decided with ⟨refunds, _⟩ | ⟨_, unpaid⟩
        · exact Or.inl refunds
        · exact absurd paid unpaid.not_paid
      · intro paid
        apply Or.inr
        apply (safe.failed paid).resolve_left
        intro isFailed
        rw [isFailed] at isOpen
        cases isOpen
      · intro refunds
        rcases decided with ⟨_, paid⟩ | ⟨stays, _⟩
        · exact paid
        · rw [terminal_of_refunds refunds] at stays
          cases stays
      · intro isFailed
        rw [isFailed] at decided
        rcases decided with ⟨refunds, _⟩ | ⟨stays, _⟩
        · cases refunds
        · cases stays
  | recording => exact safe_of_review safe isReview False.elim forall_mem_none

theorem safe_resumePayout_call (safe : state.Safe) {call : Payout}
    (isPayout : state.payout = some call) {reply : StepReply} (goesOn : reply.fails = false)
    (permits : call.Permits state.request.status reply) :
    (state.resumePayout reply call).Safe := by
  have sound := safe.payout call isPayout
  cases call with
  | processing read =>
      obtain ⟨⟨reads, isOpen⟩, unpaid⟩ := sound
      rw [← permits goesOn] at isOpen
      have owed := owes_of_open safe isOpen
      refine safe_of_status safe ?_ ?_ ?_ ?_ safe.review (forall_mem_some ⟨reads, unpaid⟩)
      · exact fun paid => Or.inr (owed paid)
      · exact fun paid => absurd paid unpaid.not_paid
      · exact nofun
      · exact nofun
  | announcing read => exact safe_of_payout safe isPayout id (forall_mem_some sound)
  | completing read =>
      have isOpen : state.request.status.terminal = false := by
        rw [permits goesOn]
        rfl
      refine safe_of_status safe ?_ ?_ ?_ ?_ safe.review (forall_mem_some sound)
      · exact fun paid => Or.inr (owes_of_open safe isOpen paid)
      · exact fun paid => absurd paid sound.2.not_paid
      · exact nofun
      · exact nofun
  | finishing read => exact safe_of_payout safe isPayout id forall_mem_none
  | refunding read =>
      unfold Resolution.resumePayout
      dsimp only
      split
      · rename_i db failure moved
        rw [WalletService.unmoved_of_error moved]
        exact safe_of_payout safe isPayout id forall_mem_none
      · rename_i db result moved
        rw [show reply.lost = false from permits]
        exact safe_of_failure safe sound moved
  | failing read =>
      refine safe_of_status safe ?_ (fun _ => Or.inl rfl) nofun (fun _ => sound) safe.review
        (forall_mem_some trivial)
      intro paid
      apply Or.inr
      apply (safe.rejected paid).resolve_left
      rcases permits.2 with processing | completed
      · rw [processing]
        exact nofun
      · rw [completed]
        exact nofun
  | recording => exact safe_of_payout safe isPayout id forall_mem_none

theorem safe_step (safe : state.Safe) (event : ResolutionEvent) (permits : state.Permits event) :
    (state.step event).Safe := by
  cases event with
  | reviewWithdrawal input =>
      unfold Resolution.step
      dsimp only
      split
      · exact safe
      · rename_i noReview
        refine safe_of_status safe ?_ safe.failed safe.backsRejection safe.backsFailure
          (startReview_sound safe noReview input) safe.payout
        intro paid
        apply Or.inl
        apply (safe.rejected paid).resolve_right
        rintro ⟨call, member, _⟩
        rw [noReview] at member
        cases member
  | executePayout =>
      unfold Resolution.step
      dsimp only
      split
      · exact safe
      · rename_i noPayout
        refine safe_of_status safe safe.rejected ?_ safe.backsRejection safe.backsFailure
          safe.review (startPayout_sound safe noPayout)
        intro paid
        apply Or.inl
        apply (safe.failed paid).resolve_right
        rintro ⟨call, member, _⟩
        rw [noPayout] at member
        cases member
  | resumeReview reply =>
      unfold Resolution.step
      dsimp only
      split
      · exact safe
      · rename_i call isReview
        have permitsCall := permits call isReview
        split
        · rename_i fails
          have free := Review.not_owes_of_fails permitsCall fails
          exact safe_of_review safe isReview (fun owes => absurd owes free) forall_mem_none
        · rename_i goesOn
          exact safe_resumeReview_call safe isReview (eq_false_of_ne_true goesOn) permitsCall
  | resumePayout reply =>
      unfold Resolution.step
      dsimp only
      split
      · exact safe
      · rename_i call isPayout
        have permitsCall := permits call isPayout
        split
        · rename_i fails
          exact safe_of_payout safe isPayout (Payout.not_owes_of_fails permitsCall fails)
            (caught_sound (safe.payout call isPayout))
        · rename_i goesOn
          exact safe_resumePayout_call safe isPayout (eq_false_of_ne_true goesOn) permitsCall

/-! ### Runs -/

theorem heldCoins_step (state : Resolution) (event : ResolutionEvent) :
    (state.step event).heldCoins = state.heldCoins := by
  cases event with
  | reviewWithdrawal input =>
      unfold Resolution.step
      dsimp only
      split <;> rfl
  | executePayout =>
      unfold Resolution.step
      dsimp only
      split <;> rfl
  | resumeReview reply =>
      unfold Resolution.step
      dsimp only
      split
      · rfl
      split
      · rfl
      rename_i call _ _
      cases call with
      | refunding read newStatus =>
          unfold Resolution.resumeReview
          dsimp only
          split <;> rfl
      | counting read newStatus => rfl
      | deciding read newStatus => rfl
      | recording => rfl
  | resumePayout reply =>
      unfold Resolution.step
      dsimp only
      split
      · rfl
      split
      · rfl
      rename_i call _ _
      cases call with
      | refunding read =>
          unfold Resolution.resumePayout
          dsimp only
          split <;> rfl
      | processing read => rfl
      | announcing read => rfl
      | completing read => rfl
      | finishing read => rfl
      | failing read => rfl
      | recording => rfl

theorem safe_of_opening {debit : LedgerEntry} (opening : state.Opening debit) : state.Safe := by
  obtain ⟨rejections, failures⟩ := List.append_eq_nil_iff.mp opening.unrefunded
  have unpaid : ∀ kind, state.Unpaid kind := fun kind =>
    match kind with
    | .rejection => ⟨rejections, opening.keys .rejection⟩
    | .failure => ⟨failures, opening.keys .failure⟩
  have isOpen := opening.isOpen
  exact
    { resolved := fun kind => Or.inl (unpaid kind)
      rejected := fun paid => absurd paid (unpaid .rejection).not_paid
      failed := fun paid => absurd paid (unpaid .failure).not_paid
      backsRejection := by
        intro refunds
        rw [terminal_of_refunds refunds] at isOpen
        cases isOpen
      backsFailure := by
        intro isFailed
        rw [isFailed] at isOpen
        cases isOpen
      review := by
        rw [opening.calls.1]
        exact forall_mem_none
      payout := by
        rw [opening.calls.2]
        exact forall_mem_none }

/-- Without calls the status names the refund there is. -/
theorem settledOnce_of_safe (safe : state.Safe) (noReview : state.review = none)
    (noPayout : state.payout = none) : state.SettledOnce state.heldCoins := by
  have rejected : state.Paid .rejection → state.request.status.refunds = true := by
    intro paid
    apply (safe.rejected paid).resolve_right
    rintro ⟨call, member, _⟩
    rw [noReview] at member
    cases member
  have failed : state.Paid .failure → state.request.status = .failed := by
    intro paid
    apply (safe.failed paid).resolve_right
    rintro ⟨call, member, _⟩
    rw [noPayout] at member
    cases member
  have unpaid_of_not : ∀ kind, ¬state.Paid kind → state.refundsOf kind = [] :=
    fun kind unpaid => ((safe.resolved kind).resolve_right unpaid).rows
  by_cases refunds : state.request.status.refunds = true
  · have notFailed : state.request.status ≠ .failed := by
      intro isFailed
      rw [isFailed] at refunds
      cases refunds
    have failures := unpaid_of_not .failure fun paid => notFailed (failed paid)
    obtain ⟨entry, rejections, isRefund⟩ := (safe.backsRejection refunds).rows
    have one : state.refunds = [entry] := by
      unfold Resolution.refunds
      rw [rejections, failures, List.append_nil]
    refine ⟨(congrArg List.length one).le, ?_, fun _ => ⟨entry, one, isRefund⟩⟩
    intro isCompleted
    rw [isCompleted] at refunds
    cases refunds
  · have rejections := unpaid_of_not .rejection fun paid => refunds (rejected paid)
    by_cases isFailed : state.request.status = .failed
    · obtain ⟨entry, failures, isRefund⟩ := (safe.backsFailure isFailed).rows
      have one : state.refunds = [entry] := by
        unfold Resolution.refunds
        rw [rejections, failures, List.nil_append]
      refine ⟨(congrArg List.length one).le, ?_, fun _ => ⟨entry, one, isRefund⟩⟩
      intro isCompleted
      rw [isCompleted] at isFailed
      cases isFailed
    · have failures := unpaid_of_not .failure fun paid => isFailed (failed paid)
      have none : state.refunds = [] := List.append_eq_nil_iff.mpr ⟨rejections, failures⟩
      refine ⟨?_, fun _ => none, ?_⟩
      · rw [none]
        exact Nat.zero_le 1
      · rintro (isRejected | isCancelled | failedNow)
        · rw [isRejected] at refunds
          exact absurd rfl refunds
        · rw [isCancelled] at refunds
          exact absurd rfl refunds
        · exact absurd failedNow isFailed

/-- Reviews and payouts of one request in any order: when every status write finds the
status its call has last read or written, and nothing fails between a refund and its
status, the coins go one way once no call is under way. -/
theorem settledOnce_of_permits (opening : Resolution) (debit : LedgerEntry)
    (isOpening : opening.Opening debit) (events : List ResolutionEvent)
    (permits : Runs.Each Resolution.step Resolution.Permits opening events) :
    Runs.Always Resolution.step
      (fun state => state.review = none → state.payout = none → state.SettledOnce debit.amount)
      opening events := by
  have kept : ∀ (state : Resolution) (event : ResolutionEvent),
      state.Safe ∧ state.heldCoins = debit.amount → state.Permits event →
        (state.step event).Safe ∧ (state.step event).heldCoins = debit.amount := by
    rintro state event ⟨safe, held⟩ permits
    exact ⟨safe_step safe event permits, (heldCoins_step state event).trans held⟩
  have held : opening.heldCoins = debit.amount :=
    isOpening.isNumber.trans (congrArg Hold.coins isOpening.holds).symm
  have always := Runs.always_of_each kept opening ⟨safe_of_opening isOpening, held⟩ events permits
  refine always.imp ?_
  rintro state ⟨safe, held⟩ noReview noPayout
  rw [← held]
  exact settledOnce_of_safe safe noReview noPayout

theorem thousand_isNumber : toNumber 1000 = 1000 := by decide

/-- 1000 coins alice has asked for, approved. -/
def approvedRequest : WithdrawalRequest :=
  { id := "wd-5"
    userId := "alice"
    amountCoins := 1000
    netPayoutAmountCoins := 1000
    status := .approved }

def approvedResolution : Resolution :=
  { request := approvedRequest
    db := (WalletService.debit Platform.normal
      (Db.empty.putWallet "alice" { userId := "alice", diamondBalance := 5000 })
      (holdDebit { userId := "alice", amountCoins := 1000, isNumber := thousand_isNumber }
        "wd-5")).1 }

def approvedDebit : LedgerEntry :=
  { transactionId := 0
    walletId := "alice"
    currency := .diamond
    type := .debit
    reason := .diamondWithdrawalReserve
    amount := 1000
    balanceBefore := 5000
    balanceAfter := 4000
    referenceType := some "withdrawal_request"
    referenceId := some "wd-5"
    actorId := some "alice" }

theorem opening_approvedResolution : approvedResolution.Opening approvedDebit where
  debited := by decide +kernel
  holds := rfl
  isNumber := thousand_isNumber
  isOpen := rfl
  calls := ⟨rfl, rfl⟩
  unrefunded := by decide +kernel
  keys := fun kind => by cases kind <;> decide +kernel

/-- The payout fails when it writes COMPLETED; alice is too late to cancel. -/
def failedPayout : List ResolutionEvent :=
  [.executePayout, .resumePayout {}, .resumePayout {}, .resumePayout { fails := true },
    .resumePayout {}, .resumePayout {}, .resumePayout {},
    .reviewWithdrawal { reviewerId := "alice", action := .cancel }]

theorem settledOnce_failedPayout : Runs.Always Resolution.step
    (fun state => state.review = none → state.payout = none → state.SettledOnce 1000)
    approvedResolution failedPayout :=
  settledOnce_of_permits approvedResolution approvedDebit opening_approvedResolution failedPayout
    (by decide +kernel)

/-- Alice cancels, from PROCESSING, between the two writes of the payout. -/
def cancelledPayout : List ResolutionEvent :=
  [.executePayout, .resumePayout {}, .reviewWithdrawal { reviewerId := "alice", action := .cancel },
    .resumeReview {}, .resumeReview {}, .resumeReview {}, .resumeReview {}, .resumePayout {},
    .resumePayout {}, .resumePayout {}]

/-- Alice has her coins back, and the request is COMPLETED. -/
theorem settledOnce_fails_in_cancelledPayout : ¬Runs.Always Resolution.step
    (fun state => state.review = none → state.payout = none → state.SettledOnce 1000)
    approvedResolution cancelledPayout := by
  intro always
  have ended : (Runs.run Resolution.step approvedResolution cancelledPayout).review = none ∧
      (Runs.run Resolution.step approvedResolution cancelledPayout).payout = none ∧
      (Runs.run Resolution.step approvedResolution cancelledPayout).request.status = .completed ∧
      (Runs.run Resolution.step approvedResolution cancelledPayout).refunds ≠ [] := by
    decide +kernel
  obtain ⟨noReview, noPayout, isCompleted, refunded⟩ := ended
  exact refunded ((always.final noReview noPayout).completed isCompleted)

end Soulzaa.Withdrawals
