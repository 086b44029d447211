/-
Withdrawal requests.  A request debits the coins it holds and then stores its row.
Its id and the key of the debit are made of the clock, which all users share, while
the lock is the user's own.
-/

import Mathlib.Data.List.Perm.Basic
import Soulzaa.Lib.Interleaving
import Soulzaa.Lib.Runs
import Soulzaa.Wallet.Movement

namespace Soulzaa.Withdrawals

open Interleaving

abbrev RequestId := String

inductive WithdrawalStatus where
  | pending
  | underReview
  | approved
  | processing
  | completed
  | rejected
  | cancelled
  | failed
  deriving DecidableEq, Repr

structure WithdrawalRequest where
  id : RequestId
  userId : UserId
  amountCoins : Int
  processingFeeCoins : Int := 0
  netPayoutAmountCoins : Int
  status : WithdrawalStatus := .pending
  holdTxnId : Option TransactionId := none
  payoutTxnId : Option String := none
  deriving DecidableEq, Repr

/-- `amountCoins` is read from a JSON number. -/
structure CreateWithdrawalInput where
  userId : UserId
  amountCoins : Int
  isNumber : toNumber amountCoins = amountCoins

def requestId (now : Nat) : RequestId := s!"wd-{now}"

def holdKey (id : RequestId) : String := s!"withdrawal-hold:{id}"

def holdDebit (input : CreateWithdrawalInput) (id : RequestId) : WalletMovementInput :=
  { userId := input.userId
    currency := .diamond
    amount := toNumber input.amountCoins
    reason := .diamondWithdrawalReserve
    idempotencyKey := holdKey id
    referenceType := some "withdrawal_request"
    referenceId := some id }

/-- What is left of the amount after the fee, unless the fee takes all of it. -/
def netPayout (amountCoins fee : Int) : Int :=
  if fee < amountCoins then amountCoins - fee else amountCoins

/-! ### Calls -/

/-- What a call awaits. -/
inductive RequestCall where
  /-- the lock of the user -/
  | request (input : CreateWithdrawalInput)
  /-- the validation -/
  | validating (input : CreateWithdrawalInput)
  /-- the debit -/
  | holding (input : CreateWithdrawalInput) (id : RequestId) (fee : Int)
  /-- the row -/
  | creating (input : CreateWithdrawalInput) (id : RequestId) (fee : Int)
      (holdTxnId : TransactionId)
  /-- history, statistics and the audit -/
  | recording (input : CreateWithdrawalInput)
  | ended

/-- The user whose lock a call holds. -/
def RequestCall.locks : RequestCall → List UserId
  | .validating input => [input.userId]
  | .holding input _ _ => [input.userId]
  | .creating input _ _ _ => [input.userId]
  | .recording input => [input.userId]
  | _ => []

/-- What the awaited call comes back with, as far as it is read. -/
structure RequestReply where
  fails : Bool := false
  /-- The debit is made, and its event cannot be published. -/
  lost : Bool := false
  now : Nat := 0
  processingFeeCoins : Int := 0
  platform : Platform := Platform.normal

structure Desk where
  requests : UniqueTable WithdrawalRequest.id
  db : Db
  calls : List RequestCall

inductive DeskEvent where
  | request (input : CreateWithdrawalInput)
  | resume (position : Nat) (reply : RequestReply)

def requestRow (input : CreateWithdrawalInput) (id : RequestId) (fee : Int)
    (holdTxnId : TransactionId) : WithdrawalRequest :=
  { id := id
    userId := input.userId
    amountCoins := input.amountCoins
    processingFeeCoins := fee
    netPayoutAmountCoins := netPayout input.amountCoins fee
    holdTxnId := some holdTxnId }

namespace Desk

def waits (desk : Desk) : RequestCall → Bool
  | .request input => ¬Free RequestCall.locks desk.calls input.userId
  | _ => false

/-- A call whose awaited call has succeeded goes on. -/
def advance (desk : Desk) (reply : RequestReply) : RequestCall → Desk × RequestCall
  | .request input => (desk, .validating input)
  | .validating input => (desk, .holding input (requestId reply.now) reply.processingFeeCoins)
  | .holding input id fee =>
      match WalletService.debit reply.platform desk.db (holdDebit input id) with
      | (db, .error _) => ({ desk with db := db }, .ended)
      | (db, .ok hold) =>
          ({ desk with db := db },
            if reply.lost then .ended else .creating input id fee hold.transactionId)
  | .creating input id fee holdTxnId =>
      match desk.requests.create (requestRow input id fee holdTxnId) with
      | none => (desk, .ended)
      | some requests => ({ desk with requests := requests }, .recording input)
  | .recording _ => (desk, .ended)
  | .ended => (desk, .ended)

def step (desk : Desk) : DeskEvent → Desk
  | .request input => { desk with calls := desk.calls ++ [.request input] }
  | .resume position reply =>
      match desk.calls[position]? with
      | none => desk
      | some call =>
          if reply.fails then { desk with calls := desk.calls.set position .ended }
          else if desk.waits call then desk
          else
            { (desk.advance reply call).1 with
              calls := desk.calls.set position (desk.advance reply call).2 }

end Desk

/-! ### What stands behind a request -/

def isHold (entry : LedgerEntry) : Bool :=
  entry.reason = .diamondWithdrawalReserve ∧ entry.type = .debit ∧ entry.currency = .diamond

/-- Whose coins are held, for which request, and how many. -/
structure Hold where
  userId : UserId
  requestId : Option RequestId
  coins : Int
  deriving DecidableEq, Repr

def Hold.ofEntry (entry : LedgerEntry) : Hold :=
  { userId := entry.walletId
    requestId := entry.referenceId
    coins := entry.amount }

def Hold.ofRequest (request : WithdrawalRequest) : Hold :=
  { userId := request.userId
    requestId := some request.id
    coins := request.amountCoins }

/-- The debit of a call that has yet to store its row. -/
def RequestCall.hold : RequestCall → Option Hold
  | .creating input id _ _ =>
      some
        { userId := input.userId
          requestId := some id
          coins := input.amountCoins }
  | _ => none

/-- The id a call uses. -/
def RequestCall.id : RequestCall → Option RequestId
  | .holding _ id _ => some id
  | .creating _ id _ _ => some id
  | _ => none

namespace Desk

def holds (desk : Desk) : List Hold := (desk.db.ledger.filter isHold).map Hold.ofEntry

def ids (desk : Desk) : List RequestId :=
  desk.requests.rows.map WithdrawalRequest.id ++ desk.calls.filterMap RequestCall.id

end Desk

/-- Fee and payout make up the amount. -/
def WithdrawalRequest.AddsUp (request : WithdrawalRequest) : Prop :=
  request.netPayoutAmountCoins + request.processingFeeCoins = request.amountCoins ∧
    0 ≤ request.netPayoutAmountCoins

structure Desk.Backed (desk : Desk) : Prop where
  holds : desk.holds.Perm
    (desk.requests.rows.map Hold.ofRequest ++ desk.calls.filterMap RequestCall.hold)
  settled : (∀ call ∈ desk.calls, call.hold = none) →
    desk.holds.Perm (desk.requests.rows.map Hold.ofRequest)
  covers : (desk.requests.rows.map WithdrawalRequest.amountCoins).sum ≤
    (desk.holds.map Hold.coins).sum
  addsUp : ∀ request ∈ desk.requests.rows, request.AddsUp

/-! ### The invariant -/

/-- The fee leaves something of the amount, or there is none. -/
def FeeFits (amountCoins fee : Int) : Prop := fee = 0 ∨ fee < amountCoins

instance (amountCoins fee : Int) : Decidable (FeeFits amountCoins fee) :=
  inferInstanceAs (Decidable (_ ∨ _))

def RequestCall.Sound : RequestCall → Prop
  | .holding input _ fee => FeeFits input.amountCoins fee
  | .creating input _ fee _ => FeeFits input.amountCoins fee ∧ 0 < input.amountCoins
  | _ => True

structure Desk.Regular (desk : Desk) : Prop where
  holds : desk.holds.Perm
    (desk.requests.rows.map Hold.ofRequest ++ desk.calls.filterMap RequestCall.hold)
  ids : desk.ids.Nodup
  keys : ∀ id, ¬desk.db.transactions.Absent (holdKey id) →
    id ∈ desk.requests.rows.map WithdrawalRequest.id ∨
      ∃ call ∈ desk.calls, call.hold.isSome = true ∧ call.id = some id
  calls : ∀ call ∈ desk.calls, call.Sound
  addsUp : ∀ request ∈ desk.requests.rows, request.AddsUp

theorem holdKey_injective : Function.Injective holdKey := by
  intro first second same
  unfold holdKey at same
  rw [String.append_right_inj] at same
  exact same

theorem addsUp_of_feeFits {input : CreateWithdrawalInput} {fee : Int}
    (fits : FeeFits input.amountCoins fee) (positive : 0 < input.amountCoins) (id : RequestId)
    (holdTxnId : TransactionId) : (requestRow input id fee holdTxnId).AddsUp := by
  unfold WithdrawalRequest.AddsUp requestRow netPayout
  dsimp only
  rcases fits with free | less
  · split <;> omega
  · rw [if_pos less]
    omega

section Step

variable {desk : Desk} {call next : RequestCall} {calls rest : List RequestCall}

theorem regular_of_perm {earlier : List RequestCall}
    (regular : ({ desk with calls := earlier } : Desk).Regular) (perm : earlier.Perm calls) :
    ({ desk with calls := calls } : Desk).Regular where
  holds := regular.holds.trans ((perm.filterMap RequestCall.hold).append_left _)
  ids := ((perm.filterMap RequestCall.id).append_left _).nodup_iff.mp regular.ids
  keys := by
    intro id taken
    rcases regular.keys id taken with stored | ⟨other, member, hasHold, hasId⟩
    · exact Or.inl stored
    · exact Or.inr ⟨other, perm.mem_iff.mp member, hasHold, hasId⟩
  calls := fun other member => regular.calls other (perm.mem_iff.mpr member)
  addsUp := regular.addsUp

theorem regular_of_new (regular : desk.Regular) (input : CreateWithdrawalInput) :
    ({ desk with calls := .request input :: desk.calls } : Desk).Regular where
  holds := regular.holds
  ids := regular.ids
  keys := by
    intro id taken
    rcases regular.keys id taken with stored | ⟨other, member, hasHold, hasId⟩
    · exact Or.inl stored
    · exact Or.inr ⟨other, List.mem_cons_of_mem _ member, hasHold, hasId⟩
  calls := by
    intro other member
    rcases List.mem_cons.mp member with isNew | earlier
    · rw [isNew]
      trivial
    · exact regular.calls other earlier
  addsUp := regular.addsUp

/-- A call that has no debit to answer for ends, or goes on without an id. -/
theorem regular_of_unheld (regular : ({ desk with calls := call :: rest } : Desk).Regular)
    (noHold : call.hold = none) (nextHold : next.hold = none) (nextId : next.id = none)
    (sound : next.Sound) : ({ desk with calls := next :: rest } : Desk).Regular where
  holds := by
    have holds := regular.holds
    rw [List.filterMap_cons_none noHold] at holds
    rw [List.filterMap_cons_none nextHold]
    exact holds
  ids := by
    have ids := regular.ids
    unfold Desk.ids at ids ⊢
    dsimp only at ids ⊢
    rw [List.filterMap_cons_none nextId]
    refine ids.sublist (List.Sublist.append_left ?_ _)
    rw [List.filterMap_cons]
    split
    · exact List.Sublist.refl _
    · exact List.sublist_cons_self _ _
  keys := by
    intro id taken
    rcases regular.keys id taken with stored | ⟨other, member, hasHold, hasId⟩
    · exact Or.inl stored
    · rcases List.mem_cons.mp member with isCall | inRest
      · rw [isCall, noHold] at hasHold
        cases hasHold
      · exact Or.inr ⟨other, List.mem_cons_of_mem _ inRest, hasHold, hasId⟩
  calls := by
    intro other member
    rcases List.mem_cons.mp member with isNext | inRest
    · rw [isNext]
      exact sound
    · exact regular.calls other (List.mem_cons_of_mem _ inRest)
  addsUp := regular.addsUp

theorem ids_cons {id : RequestId} (uses : call.id = some id) :
    ({ desk with calls := call :: rest } : Desk).ids.Perm
      (id :: ({ desk with calls := rest } : Desk).ids) := by
  unfold Desk.ids
  dsimp only
  rw [List.filterMap_cons_some uses]
  exact List.perm_middle

/-- The id of a call is its own. -/
theorem unused_of_regular {id : RequestId}
    (regular : ({ desk with calls := call :: rest } : Desk).Regular) (uses : call.id = some id) :
    id ∉ ({ desk with calls := rest } : Desk).ids :=
  (List.nodup_cons.mp ((ids_cons uses).nodup_iff.mp regular.ids)).1

theorem regular_of_sampled {input : CreateWithdrawalInput} {id : RequestId} {fee : Int}
    (regular : ({ desk with calls := .validating input :: rest } : Desk).Regular)
    (unused : id ∉ ({ desk with calls := .validating input :: rest } : Desk).ids)
    (fits : FeeFits input.amountCoins fee) :
    ({ desk with calls := .holding input id fee :: rest } : Desk).Regular where
  holds := regular.holds
  ids := (ids_cons rfl).nodup_iff.mpr (List.nodup_cons.mpr ⟨unused, regular.ids⟩)
  keys := by
    intro other taken
    rcases regular.keys other taken with stored | ⟨call, member, hasHold, hasId⟩
    · exact Or.inl stored
    · rcases List.mem_cons.mp member with isCall | inRest
      · rw [isCall] at hasHold
        cases hasHold
      · exact Or.inr ⟨call, List.mem_cons_of_mem _ inRest, hasHold, hasId⟩
  calls := by
    intro call member
    rcases List.mem_cons.mp member with isNext | inRest
    · rw [isNext]
      exact fits
    · exact regular.calls call (List.mem_cons_of_mem _ inRest)
  addsUp := regular.addsUp

/-- The key of an id that has no debit yet is free. -/
theorem absent_of_holding {input : CreateWithdrawalInput} {id : RequestId} {fee : Int}
    (regular : ({ desk with calls := .holding input id fee :: rest } : Desk).Regular) :
    desk.db.transactions.Absent (holdKey id) := by
  by_contra taken
  apply unused_of_regular regular rfl
  rcases regular.keys id taken with stored | ⟨call, member, hasHold, hasId⟩
  · exact List.mem_append_left _ stored
  · rcases List.mem_cons.mp member with isCall | inRest
    · rw [isCall] at hasHold
      cases hasHold
    · exact List.mem_append_right _ (List.mem_filterMap.mpr ⟨call, inRest, hasId⟩)

theorem regular_of_held {input : CreateWithdrawalInput} {id : RequestId} {fee : Int}
    {platform : Platform} {db : Db} {hold : WalletMovementResult}
    (regular : ({ desk with calls := .holding input id fee :: rest } : Desk).Regular)
    (moved : WalletService.debit platform desk.db (holdDebit input id) = (db, .ok hold)) :
    ({ desk with
       db := db
       calls := .creating input id fee hold.transactionId :: rest } : Desk).Regular := by
  have absent := absent_of_holding regular
  have positive : 0 < toNumber input.amountCoins := (WalletService.wrote_of_move_ok moved absent).1
  rw [input.isNumber] at positive
  have selected : ∀ entry, WalletService.IsMovementOf .debit (holdDebit input id) entry →
      isHold entry = true :=
    fun entry isDebit => decide_eq_true ⟨isDebit.reason, isDebit.type, isDebit.currency⟩
  obtain ⟨_, entry, isDebit, rows⟩ := WalletService.row_of_move_ok moved absent selected
  have isHoldOf : Hold.ofEntry entry =
      { userId := input.userId
        requestId := some id
        coins := input.amountCoins } := by
    unfold Hold.ofEntry
    rw [isDebit.walletId, isDebit.referenceId, isDebit.amount]
    unfold holdDebit
    dsimp only
    rw [input.isNumber]
  have isHeld : (RequestCall.creating input id fee hold.transactionId).hold =
      some
        { userId := input.userId
          requestId := some id
          coins := input.amountCoins } := rfl
  constructor
  · unfold Desk.holds
    dsimp only
    rw [rows, List.map_append, List.map_singleton, isHoldOf, List.filterMap_cons_some isHeld]
    exact (List.perm_append_singleton _ _).trans
      ((regular.holds.cons _).trans List.perm_middle.symm)
  · exact regular.ids
  · intro other taken
    by_cases same : other = id
    · exact Or.inr ⟨_, List.mem_cons_self, rfl, by rw [same]; rfl⟩
    · have otherKey : (holdDebit input id).idempotencyKey ≠ holdKey other :=
        fun sameKey => same (holdKey_injective sameKey).symm
      have unselected : ∀ entry, WalletService.IsCausedBy (holdDebit input id) entry →
          (fun _ : LedgerEntry => false) entry = false := fun _ _ => rfl
      have key := (WalletService.leaves_of_move moved otherKey unselected).2
      rcases regular.keys other (fun free => taken (key.mpr free)) with
        stored | ⟨call, member, hasHold, hasId⟩
      · exact Or.inl stored
      · rcases List.mem_cons.mp member with isCall | inRest
        · rw [isCall] at hasHold
          cases hasHold
        · exact Or.inr ⟨call, List.mem_cons_of_mem _ inRest, hasHold, hasId⟩
  · intro call member
    rcases List.mem_cons.mp member with isNext | inRest
    · rw [isNext]
      exact ⟨regular.calls _ List.mem_cons_self, positive⟩
    · exact regular.calls call (List.mem_cons_of_mem _ inRest)
  · exact regular.addsUp

theorem regular_of_created {input : CreateWithdrawalInput} {id : RequestId} {fee : Int}
    {holdTxnId : TransactionId}
    (regular : ({ desk with calls := .creating input id fee holdTxnId :: rest } : Desk).Regular) :
    ∃ requests, desk.requests.create (requestRow input id fee holdTxnId) = some requests ∧
      ({ desk with
         requests := requests
         calls := .recording input :: rest } : Desk).Regular := by
  have unused := unused_of_regular regular rfl
  have absent : desk.requests.Absent (requestRow input id fee holdTxnId).id :=
    fun stored => unused (List.mem_append_left _ stored)
  refine ⟨_, UniqueTable.create_of_absent absent, ?_⟩
  obtain ⟨fits, positive⟩ := regular.calls _ List.mem_cons_self
  have rows : (desk.requests.insert (requestRow input id fee holdTxnId) absent).rows =
      desk.requests.rows ++ [requestRow input id fee holdTxnId] := rfl
  constructor
  · dsimp only
    rw [rows, List.map_append, List.append_assoc]
    exact regular.holds
  · unfold Desk.ids
    dsimp only
    rw [rows, List.map_append, List.append_assoc]
    exact regular.ids
  · intro other taken
    dsimp only
    rw [rows, List.map_append]
    rcases regular.keys other taken with stored | ⟨call, member, hasHold, hasId⟩
    · exact Or.inl (List.mem_append_left _ stored)
    · rcases List.mem_cons.mp member with isCall | inRest
      · rw [isCall] at hasId
        cases hasId
        exact Or.inl (List.mem_append_right _ (List.mem_singleton_self _))
      · exact Or.inr ⟨call, List.mem_cons_of_mem _ inRest, hasHold, hasId⟩
  · intro call member
    rcases List.mem_cons.mp member with isNext | inRest
    · rw [isNext]
      trivial
    · exact regular.calls call (List.mem_cons_of_mem _ inRest)
  · intro request member
    dsimp only at member
    rw [rows] at member
    rcases List.mem_append.mp member with earlier | new
    · exact regular.addsUp request earlier
    · rw [List.mem_singleton.mp new]
      exact addsUp_of_feeFits fits positive id holdTxnId

end Step

/-! ### Runs -/

/-- The clock has not given the id to another request, the fee leaves something of
the amount, and what follows a debit goes through up to the row. -/
def RequestCall.Permits (desk : Desk) (reply : RequestReply) : RequestCall → Prop
  | .validating input =>
      reply.fails = false →
        requestId reply.now ∉ desk.ids ∧ FeeFits input.amountCoins reply.processingFeeCoins
  | .holding _ _ _ => reply.lost = false
  | .creating _ _ _ _ => reply.fails = false
  | _ => True

def Desk.Permits (desk : Desk) : DeskEvent → Prop
  | .request _ => True
  | .resume position reply => ∀ call ∈ desk.calls[position]?, call.Permits desk reply

instance (desk : Desk) (reply : RequestReply) :
    (call : RequestCall) → Decidable (call.Permits desk reply)
  | .validating input =>
      inferInstanceAs (Decidable (reply.fails = false →
        requestId reply.now ∉ desk.ids ∧ FeeFits input.amountCoins reply.processingFeeCoins))
  | .holding _ _ _ => inferInstanceAs (Decidable (reply.lost = false))
  | .creating _ _ _ _ => inferInstanceAs (Decidable (reply.fails = false))
  | .request _ => inferInstanceAs (Decidable True)
  | .recording _ => inferInstanceAs (Decidable True)
  | .ended => inferInstanceAs (Decidable True)

instance (desk : Desk) : (event : DeskEvent) → Decidable (desk.Permits event)
  | .request _ => inferInstanceAs (Decidable True)
  | .resume position reply =>
      inferInstanceAs (Decidable (∀ call ∈ desk.calls[position]?, call.Permits desk reply))

theorem permits_of_perm {desk : Desk} {calls : List RequestCall} (perm : desk.calls.Perm calls)
    {reply : RequestReply} {call : RequestCall} (permits : call.Permits desk reply) :
    call.Permits { desk with calls := calls } reply := by
  cases call with
  | validating input =>
      intro succeeds
      obtain ⟨unused, fits⟩ := permits succeeds
      refine ⟨?_, fits⟩
      intro used
      exact unused (((perm.filterMap RequestCall.id).append_left _).mem_iff.mpr used)
  | _ => exact permits

theorem regular_of_advance {desk : Desk} {call : RequestCall} {rest : List RequestCall}
    {reply : RequestReply} (regular : ({ desk with calls := call :: rest } : Desk).Regular)
    (permits : call.Permits { desk with calls := call :: rest } reply)
    (succeeds : reply.fails = false) :
    ({ (desk.advance reply call).1 with
       calls := (desk.advance reply call).2 :: rest } : Desk).Regular := by
  cases call with
  | request input => exact regular_of_unheld regular rfl rfl rfl trivial
  | validating input =>
      obtain ⟨unused, fits⟩ := permits succeeds
      exact regular_of_sampled regular unused fits
  | holding input id fee =>
      unfold Desk.advance
      dsimp only
      split
      · rename_i failed
        have same := WalletService.unmoved_of_error failed
        subst same
        exact regular_of_unheld regular rfl rfl rfl trivial
      · rename_i moved
        rw [show reply.lost = false from permits]
        have held := regular_of_held regular moved
        exact held
  | creating input id fee holdTxnId =>
      obtain ⟨requests, created, next⟩ := regular_of_created regular
      unfold Desk.advance
      dsimp only
      rw [created]
      exact next
  | recording input => exact regular_of_unheld regular rfl rfl rfl trivial
  | ended => exact regular_of_unheld regular rfl rfl rfl trivial

theorem regular_step {desk : Desk} (regular : desk.Regular) (event : DeskEvent)
    (permits : desk.Permits event) : (desk.step event).Regular := by
  cases event with
  | request input =>
      exact regular_of_perm (regular_of_new regular input) (List.perm_append_singleton _ _).symm
  | resume position reply =>
      unfold Desk.step
      dsimp only
      split
      · exact regular
      · rename_i call found
        have inside := (List.getElem?_eq_some_iff.mp found).1
        have isCall := (List.getElem?_eq_some_iff.mp found).2
        have before : desk.calls.Perm (call :: desk.calls.eraseIdx position) := by
          rw [← isCall]
          exact (List.getElem_cons_eraseIdx_perm inside).symm
        have after : ∀ next, (desk.calls.set position next).Perm
            (next :: desk.calls.eraseIdx position) :=
          fun next => List.set_perm_cons_eraseIdx inside next
        have front := regular_of_perm regular before
        have allowed := permits call found
        split
        · rename_i fails
          apply regular_of_perm _ (after .ended).symm
          cases call with
          | creating input id fee holdTxnId => exact absurd (fails.symm.trans allowed) (by decide)
          | _ => exact regular_of_unheld front rfl rfl rfl trivial
        · rename_i succeeds
          split
          · exact regular
          · have succeeds := eq_false_of_ne_true succeeds
            have same : call.Permits { desk with calls := call :: desk.calls.eraseIdx position }
                reply := permits_of_perm before allowed
            exact regular_of_perm (regular_of_advance front same succeeds)
              (after (desk.advance reply call).2).symm

theorem backed_of_regular {desk : Desk} (regular : desk.Regular) : desk.Backed where
  holds := regular.holds
  settled := by
    intro none
    have noneHeld : desk.calls.filterMap RequestCall.hold = [] :=
      List.filterMap_eq_nil_iff.mpr none
    have holds := regular.holds
    rw [noneHeld, List.append_nil] at holds
    exact holds
  covers := by
    have coins := (regular.holds.map Hold.coins).sum_eq
    have underWay : 0 ≤ ((desk.calls.filterMap RequestCall.hold).map Hold.coins).sum := by
      apply List.sum_nonneg
      intro amount member
      obtain ⟨hold, isHeld, rfl⟩ := List.mem_map.mp member
      obtain ⟨call, inside, holds⟩ := List.mem_filterMap.mp isHeld
      have sound := regular.calls call inside
      cases call with
      | creating input id fee holdTxnId =>
          cases holds
          exact sound.2.le
      | request | validating | holding | recording | ended => cases holds
    rw [List.map_append, List.sum_append, List.map_map] at coins
    have same : (Hold.coins ∘ Hold.ofRequest) = WithdrawalRequest.amountCoins := rfl
    rw [same] at coins
    omega
  addsUp := regular.addsUp

/-- Any users at any times: when the clock gives no id twice, fees leave something of
their amounts and nothing between a debit and its row fails, every request has a debit
of its own and every debit a request. -/
theorem always_backed (opening : Desk) (regular : opening.Regular) (events : List DeskEvent)
    (permits : Runs.Each Desk.step Desk.Permits opening events) :
    Runs.Always Desk.step Desk.Backed opening events := by
  have kept : ∀ (desk : Desk) (event : DeskEvent), desk.Regular → desk.Permits event →
      (desk.step event).Regular := fun _ event regular permits => regular_step regular event permits
  have always := Runs.always_of_each kept opening regular events permits
  exact always.imp fun _ regular => backed_of_regular regular

def openingDesk : Desk :=
  { requests := .empty
    db :=
      (Db.empty.putWallet "alice" { userId := "alice", diamondBalance := 5000 }).putWallet "bob"
        { userId := "bob", diamondBalance := 5000 }
    calls := [] }

theorem regular_openingDesk : openingDesk.Regular where
  holds := List.Perm.refl _
  ids := List.nodup_nil
  keys := fun _ taken => absurd List.not_mem_nil taken
  calls := List.forall_mem_nil _
  addsUp := List.forall_mem_nil _

/-- Two users ask in the milliseconds given, and the debits come before the rows. -/
def askAt (first second : Nat) : List DeskEvent :=
  let alice : CreateWithdrawalInput :=
    { userId := "alice"
      amountCoins := 1000
      isNumber := by decide }
  let bob : CreateWithdrawalInput :=
    { userId := "bob"
      amountCoins := 2000
      isNumber := by decide }
  [.request alice, .request bob, .resume 0 {}, .resume 1 {}, .resume 0 { now := first },
    .resume 1 { now := second }, .resume 0 {}, .resume 1 {}, .resume 1 {}, .resume 0 {},
    .resume 1 {}, .resume 0 {}]

theorem backed_askAt : Runs.Always Desk.step Desk.Backed openingDesk (askAt 5 6) :=
  always_backed openingDesk regular_openingDesk (askAt 5 6) (by decide +kernel)

/-- In one millisecond bob's debit is a replay of alice's, and his row takes her id. -/
theorem backed_fails_in_one_millisecond :
    ¬Runs.Always Desk.step Desk.Backed openingDesk (askAt 5 5) := by
  intro always
  have unbacked : ¬(Runs.run Desk.step openingDesk (askAt 5 5)).holds.Perm
      ((Runs.run Desk.step openingDesk (askAt 5 5)).requests.rows.map Hold.ofRequest ++
        (Runs.run Desk.step openingDesk (askAt 5 5)).calls.filterMap RequestCall.hold) := by
    decide +kernel
  exact unbacked always.final.holds

end Soulzaa.Withdrawals
