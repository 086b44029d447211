/-
What becomes of a withdrawal request: reviews, under the review lock of the request,
and payouts, under its exec lock.

Each lock lets one call in, so the state has the review and the payout that are past
their locks.  Neither looks at the status again before it writes it.
-/

import Soulzaa.Withdrawals.Requests

namespace Soulzaa.Withdrawals

inductive ReviewAction where
  | approve
  | reject
  | underReview
  | cancel
  deriving DecidableEq, Repr

structure ReviewWithdrawalInput where
  reviewerId : UserId
  action : ReviewAction
  deriving DecidableEq, Repr

def WithdrawalStatus.terminal : WithdrawalStatus → Bool
  | .completed | .rejected | .cancelled | .failed => true
  | _ => false

def ReviewAction.newStatus : ReviewAction → WithdrawalStatus
  | .approve => .approved
  | .reject => .rejected
  | .underReview => .underReview
  | .cancel => .cancelled

/-- The status gives the held coins back. -/
def WithdrawalStatus.refunds : WithdrawalStatus → Bool
  | .rejected | .cancelled => true
  | _ => false

inductive RefundKind where
  | rejection
  | failure
  deriving DecidableEq, Repr

def RefundKind.key (kind : RefundKind) (id : RequestId) : String :=
  match kind with
  | .rejection => s!"withdrawal-refund:{id}"
  | .failure => s!"withdrawal-failure-refund:{id}"

def RefundKind.referenceType : RefundKind → String
  | .rejection => "withdrawal_rejection"
  | .failure => "withdrawal_failure"

def refundCredit (kind : RefundKind) (read : WithdrawalRequest) : WalletMovementInput :=
  { userId := read.userId
    currency := .diamond
    amount := toNumber read.amountCoins
    reason := .diamondWithdrawalReversed
    idempotencyKey := kind.key read.id
    referenceType := some kind.referenceType
    referenceId := some read.id }

/-- What a review past its lock awaits; `read` is the request as it was read. -/
inductive Review where
  /-- the refund -/
  | refunding (read : WithdrawalRequest) (newStatus : WithdrawalStatus)
  /-- the statistics of a refund -/
  | counting (read : WithdrawalRequest) (newStatus : WithdrawalStatus)
  /-- the status -/
  | deciding (read : WithdrawalRequest) (newStatus : WithdrawalStatus)
  /-- the review row, the history and the audit -/
  | recording
  deriving DecidableEq, Repr

/-- What a payout past its lock awaits. -/
inductive Payout where
  /-- the status PROCESSING -/
  | processing (read : WithdrawalRequest)
  /-- history and audit -/
  | announcing (read : WithdrawalRequest)
  /-- the status COMPLETED -/
  | completing (read : WithdrawalRequest)
  /-- history, statistics and audit, where a failure is still caught -/
  | finishing (read : WithdrawalRequest)
  /-- the refund of a failed payout -/
  | refunding (read : WithdrawalRequest)
  /-- the status FAILED -/
  | failing (read : WithdrawalRequest)
  /-- the failure row, the history and the audit -/
  | recording
  deriving DecidableEq, Repr

structure Resolution where
  request : WithdrawalRequest
  db : Db
  review : Option Review := none
  payout : Option Payout := none

structure StepReply where
  fails : Bool := false
  /-- The credit is made, and its event cannot be published. -/
  lost : Bool := false
  payoutTxnId : String := ""
  platform : Platform := Platform.normal

inductive ResolutionEvent where
  /-- A review gets the lock and reads the request. -/
  | reviewWithdrawal (input : ReviewWithdrawalInput)
  | resumeReview (reply : StepReply)
  /-- A payout gets the lock and reads the request. -/
  | executePayout
  | resumePayout (reply : StepReply)

/-- The checks of a review. -/
def startReview (read : WithdrawalRequest) (input : ReviewWithdrawalInput) : Option Review :=
  if input.action = .cancel ∧ read.userId ≠ input.reviewerId then none
  else if read.status.terminal then none
  else
    let newStatus := input.action.newStatus
    if newStatus.refunds then some (.refunding read newStatus) else some (.deciding read newStatus)

/-- The check of a payout. -/
def startPayout (read : WithdrawalRequest) : Option Payout :=
  if read.status ≠ .approved ∧ read.status ≠ .processing then none else some (.processing read)

namespace Resolution

def withStatus (state : Resolution) (status : WithdrawalStatus) : Resolution :=
  { state with request := { state.request with status := status } }

def resumeReview (state : Resolution) (reply : StepReply) : Review → Resolution
  | .refunding read newStatus =>
      match WalletService.credit reply.platform state.db (refundCredit .rejection read) with
      | (db, .error _) => { state with db := db, review := none }
      | (db, .ok _) =>
          { state with
            db := db
            review := if reply.lost then none else some (.counting read newStatus) }
  | .counting read newStatus => { state with review := some (.deciding read newStatus) }
  | .deciding _ newStatus => { state.withStatus newStatus with review := some .recording }
  | .recording => { state with review := none }

/-- What throws after PROCESSING has been announced ends in the refund. -/
def caught : Payout → Option Payout
  | .completing read => some (.refunding read)
  | .finishing read => some (.refunding read)
  | _ => none

def resumePayout (state : Resolution) (reply : StepReply) : Payout → Resolution
  | .processing read =>
      { state.withStatus .processing with payout := some (.announcing read) }
  | .announcing read => { state with payout := some (.completing read) }
  | .completing read =>
      { state with
        request :=
          { state.request with
            status := .completed
            payoutTxnId := some reply.payoutTxnId }
        payout := some (.finishing read) }
  | .finishing _ => { state with payout := none }
  | .refunding read =>
      match WalletService.credit reply.platform state.db (refundCredit .failure read) with
      | (db, .error _) => { state with db := db, payout := none }
      | (db, .ok _) =>
          { state with
            db := db
            payout := if reply.lost then none else some (.failing read) }
  | .failing _ => { state.withStatus .failed with payout := some .recording }
  | .recording => { state with payout := none }

def step (state : Resolution) : ResolutionEvent → Resolution
  | .reviewWithdrawal input =>
      match state.review with
      | some _ => state
      | none => { state with review := startReview state.request input }
  | .resumeReview reply =>
      match state.review with
      | none => state
      | some call =>
          if reply.fails then { state with review := none } else state.resumeReview reply call
  | .executePayout =>
      match state.payout with
      | some _ => state
      | none => { state with payout := startPayout state.request }
  | .resumePayout reply =>
      match state.payout with
      | none => state
      | some call =>
          if reply.fails then { state with payout := caught call }
          else state.resumePayout reply call

end Resolution

/-! ### Refunds -/

def isRefundOf (kind : RefundKind) (id : RequestId) (entry : LedgerEntry) : Bool :=
  entry.referenceType = some kind.referenceType ∧ entry.referenceId = some id

/-- So many coins of the held currency, on the wallet of the user. -/
structure IsRefund (userId : UserId) (coins : Int) (entry : LedgerEntry) : Prop where
  type : entry.type = .credit
  walletId : entry.walletId = userId
  currency : entry.currency = .diamond
  amount : entry.amount = coins

namespace Resolution

def refundsOf (state : Resolution) (kind : RefundKind) : List LedgerEntry :=
  state.db.ledger.filter (isRefundOf kind state.request.id)

def refunds (state : Resolution) : List LedgerEntry :=
  state.refundsOf .rejection ++ state.refundsOf .failure

/-- What the refunds of the request credit. -/
def heldCoins (state : Resolution) : Int := toNumber state.request.amountCoins

/-- What the claims of user and house on the coins of the debit come to. -/
structure SettledOnce (state : Resolution) (debited : Int) : Prop where
  once : state.refunds.length ≤ 1
  completed : state.request.status = .completed → state.refunds = []
  refunded : state.request.status = .rejected ∨ state.request.status = .cancelled ∨
    state.request.status = .failed →
      ∃ entry, state.refunds = [entry] ∧ IsRefund state.request.userId debited entry

/-- A stored request with its debit, which nobody reviews or pays out yet. -/
structure Opening (state : Resolution) (debit : LedgerEntry) : Prop where
  debited : debit ∈ state.db.ledger ∧ isHold debit = true
  holds : Hold.ofEntry debit = Hold.ofRequest state.request
  isNumber : toNumber state.request.amountCoins = state.request.amountCoins
  isOpen : state.request.status.terminal = false
  calls : state.review = none ∧ state.payout = none
  unrefunded : state.refunds = []
  keys : ∀ kind : RefundKind, state.db.transactions.Absent (kind.key state.request.id)

end Resolution

end Soulzaa.Withdrawals
