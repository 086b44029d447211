/-
Several sends under one client key.

The debit, the credits and the rows derive their keys in three ways, and only the row of
the first receiver is looked for.  A send whose debit is answered as a replay, but which
writes rows, gives what nobody paid.
-/

import Soulzaa.Gifts.Minting
import Soulzaa.Lib.Runs

namespace Soulzaa.Gifts

/-! ### Sends one after the other -/

inductive SendCall where
  | sendGift (surroundings : Surroundings) (dto : SendGiftDto)
  | sendGiftBatch (surroundings : Surroundings) (dto : SendGiftBatchDto)

namespace SendCall

def surroundings : SendCall → Surroundings
  | .sendGift surroundings _ => surroundings
  | .sendGiftBatch surroundings _ => surroundings

/-- What reaches `sendGiftBatch`, under the key. -/
def request (key : String) : SendCall → SendGiftBatchDto
  | .sendGift _ dto =>
      { giftId := dto.giftId
        receiverIds := [dto.receiverId]
        contextType := dto.contextType
        contextId := dto.contextId
        quantity := dto.quantity
        idempotencyKey := key }
  | .sendGiftBatch _ dto => { dto with idempotencyKey := key }

def send (senderId : UserId) (key : String) (call : SendCall) : Except SendFailure GiftSend :=
  sendOf call.surroundings senderId (call.request key)

end SendCall

/-- Each call of the sender comes under the one key. -/
def sendStep (senderId : UserId) (key : String) (state : GiftState) : SendCall → GiftState
  | .sendGift surroundings dto =>
      (sendGift surroundings senderId { dto with idempotencyKey := key } state).1
  | .sendGiftBatch surroundings dto =>
      (sendGiftBatch surroundings senderId { dto with idempotencyKey := key } state).1

variable {senderId : UserId} {key : String} {start state after : GiftState} {send : GiftSend}
  {rows : List GiftTransaction} {call : SendCall}

theorem sendStep_eq (senderId : UserId) (key : String) (state : GiftState) (call : SendCall) :
    sendStep senderId key state call =
      (sendGiftBatch call.surroundings senderId (call.request key) state).1 := by
  cases call with
  | sendGift surroundings dto =>
      unfold sendStep sendGift
      dsimp only
      split <;> rename_i sent <;> exact (congrArg Prod.fst sent).symm
  | sendGiftBatch surroundings dto => rfl

/-! ### What has come under the key -/

def bookedSince (start state : GiftState) : List LedgerEntry :=
  state.db.ledger.drop start.db.ledger.length

def createdSince (start state : GiftState) : List GiftTransaction :=
  state.gifts.rows.drop start.gifts.rows.length

/-- The row pays for the credit, or the credit is what the sender gets back. -/
def Backs (senderId : UserId) (created : List GiftTransaction) (entry : LedgerEntry) : Prop :=
  (∃ row ∈ created, row.receiverId = entry.walletId) ∨
    (entry.reason = .giftRefund ∧ entry.walletId = senderId)

/-- The GOLD debited is the value of the rows, and only their receivers are credited. -/
structure Whole (senderId : UserId) (start state : GiftState) : Prop where
  booked : start.db.ledger <+: state.db.ledger
  created : start.gifts.rows <+: state.gifts.rows
  paid : coins (goldDebits senderId) (bookedSince start state) =
    ((createdSince start state).map GiftTransaction.totalCoinValue).sum
  backed : ∀ entry ∈ bookedSince start state, entry.type = .credit →
    Backs senderId (createdSince start state) entry

/-- One of the rows is there already, or the debit is new and exact. -/
def Clean (senderId : UserId) (key : String) (state : GiftState) (call : SendCall) : Prop :=
  ∀ send, call.send senderId key = .ok send →
    (∃ receiverId ∈ send.receiverIds, ¬state.gifts.Absent (send.ledgerKeyFor receiverId)) ∨
      (state.db.transactions.Absent send.debitInput.idempotencyKey ∧
        send.amounts.Exact send.receiverIds.length)

/-- Once the key has been debited, a further send leaves everything as it is. -/
def LeavesReplayed (senderId : UserId) (key : String) (state : GiftState) (call : SendCall) : Prop :=
  ¬state.db.transactions.Absent s!"gift-debit:{key}" → sendStep senderId key state call = state

theorem whole_start (senderId : UserId) (start : GiftState) : Whole senderId start start where
  booked := List.prefix_refl _
  created := List.prefix_refl _
  paid := by
    unfold bookedSince createdSince
    rw [List.drop_length, List.drop_length]
    rfl
  backed := by
    intro entry member
    unfold bookedSince at member
    rw [List.drop_length] at member
    cases member

/-! ### A send that goes through -/

theorem coins_of_sent (sent : Sent send state after rows) :
    coins (goldDebits send.senderId) after.db.ledger =
      coins (goldDebits send.senderId) state.db.ledger +
        GiftSend.dueNow state.db send.debitInput := by
  obtain ⟨refundAmount, -, books⟩ := sent.movements
  unfold GiftSend.books at books
  cases books with
  | next booked rest =>
      have unselected : ∀ movement ∈ creditOf (send.refundInput refundAmount) ++
          send.receiverIds.flatMap send.receives,
          movement.coins (goldDebits send.senderId) = 0 := by
        intro movement member
        have isCredit : movement.1 = .credit := by
          rcases List.mem_append.mp member with refund | received
          · rw [mem_creditOf refund]
          · obtain ⟨receiverId, -, inside⟩ := List.mem_flatMap.mp received
            rcases List.mem_append.mp inside with earned | cashed
            · rw [mem_creditOf earned]
            · rw [mem_creditOf cashed]
        unfold Movement.coins goldDebits
        rw [isCredit]
        rfl
      have due : Movement.due (goldDebits send.senderId) state.db (.debit, send.debitInput) =
          GiftSend.dueNow state.db send.debitInput := by
        have selected : Movement.coins (goldDebits send.senderId) (.debit, send.debitInput) =
            send.debitInput.amount := if_pos (decide_eq_true ⟨rfl, rfl, rfl⟩)
        unfold Movement.due
        rw [selected]
        rfl
      rw [rest.coins_of_unselected unselected, coins_of_booked booked, due]

theorem values_of_rows {receiverIds : List UserId}
    (areRows : List.Forall₂ (IsRowOf send) receiverIds rows) :
    (rows.map GiftTransaction.totalCoinValue).sum =
      send.amounts.perReceiver * receiverIds.length := by
  induction areRows with
  | nil => simp
  | cons isRow _ ih =>
      rw [List.map_cons, List.sum_cons, ih, isRow.totalCoinValue, List.length_cons]
      push_cast
      rw [mul_add, mul_one, add_comm]

theorem row_of_receiver {receiverIds : List UserId} {receiverId : UserId}
    (areRows : List.Forall₂ (IsRowOf send) receiverIds rows) (member : receiverId ∈ receiverIds) :
    ∃ row ∈ rows, row.receiverId = receiverId := by
  induction areRows with
  | nil => cases member
  | cons isRow _ ih =>
      rcases List.mem_cons.mp member with rfl | inRest
      · exact ⟨_, List.mem_cons_self, isRow.receiverId⟩
      · obtain ⟨row, inside, isFor⟩ := ih inRest
        exact ⟨row, List.mem_cons_of_mem _ inside, isFor⟩

theorem entries_of_sent (sent : Sent send state after rows) :
    ∃ entries, after.db.ledger = state.db.ledger ++ entries ∧
      ∀ entry ∈ entries, entry.type = .credit → Backs send.senderId rows entry := by
  obtain ⟨refundAmount, -, books⟩ := sent.movements
  obtain ⟨entries, added, caused⟩ := books.entries
  refine ⟨entries, added, ?_⟩
  intro entry member isCredit
  obtain ⟨movement, inside, isMovement⟩ := caused entry member
  rcases List.mem_cons.mp inside with rfl | credits
  · rw [isMovement.type] at isCredit
    cases isCredit
  · rcases List.mem_append.mp credits with refund | received
    · rw [mem_creditOf refund] at isMovement
      exact Or.inr ⟨isMovement.reason, isMovement.walletId⟩
    · obtain ⟨receiverId, isReceiver, own⟩ := List.mem_flatMap.mp received
      obtain ⟨row, isRow, isFor⟩ := row_of_receiver sent.rows isReceiver
      refine Or.inl ⟨row, isRow, isFor.trans ?_⟩
      rcases List.mem_append.mp own with earned | cashed
      · rw [mem_creditOf earned] at isMovement
        exact isMovement.walletId.symm
      · rw [mem_creditOf cashed] at isMovement
        exact isMovement.walletId.symm

/-- A send that goes through is paid for exactly when its debit is new and exact. -/
theorem paid_iff_new (sent : Sent send state after rows) :
    GiftSend.dueNow state.db send.debitInput =
        (rows.map GiftTransaction.totalCoinValue).sum ↔
      state.db.transactions.Absent send.debitInput.idempotencyKey ∧
        send.amounts.Exact send.receiverIds.length := by
  rw [values_of_rows sent.rows]
  unfold GiftSend.dueNow
  by_cases absent : state.db.transactions.Absent send.debitInput.idempotencyKey
  · rw [if_pos absent, and_iff_right absent]
    rfl
  · rw [if_neg absent]
    refine iff_of_false ?_ fun both => absent both.1
    intro nothing
    have isZero : send.amounts.totalNum = 0 := by
      have product : toNumber send.amounts.perReceiver * send.receiverIds.length = 0 := by
        rcases mul_eq_zero.mp nothing.symm with none | none
        · rw [none]
          exact zero_mul _
        · rw [none, mul_zero]
      change toNumber (toNumber send.amounts.perReceiver * send.receiverIds.length) = 0
      rw [product]
      rfl
    have positive := sent.positive
    omega

theorem whole_of_sent (whole : Whole send.senderId start state) (sent : Sent send state after rows)
    (new : state.db.transactions.Absent send.debitInput.idempotencyKey ∧
      send.amounts.Exact send.receiverIds.length) : Whole send.senderId start after := by
  obtain ⟨entries, added, backs⟩ := entries_of_sent sent
  have isBooked : bookedSince start after = bookedSince start state ++ entries := by
    unfold bookedSince
    rw [added, List.drop_append_of_le_length whole.booked.length_le]
  have isCreated : createdSince start after = createdSince start state ++ rows := by
    unfold createdSince
    rw [sent.created, List.drop_append_of_le_length whole.created.length_le]
  have debited : coins (goldDebits send.senderId) entries =
      (rows.map GiftTransaction.totalCoinValue).sum := by
    have moved := coins_of_sent sent
    rw [added, coins_append] at moved
    rw [← (paid_iff_new sent).mpr new]
    omega
  refine ⟨?_, ?_, ?_, ?_⟩
  · rw [added]
    exact whole.booked.trans (List.prefix_append _ _)
  · rw [sent.created]
    exact whole.created.trans (List.prefix_append _ _)
  · rw [isBooked, isCreated, coins_append, whole.paid, debited, List.map_append, List.sum_append]
  · intro entry member isCredit
    rw [isBooked] at member
    rw [isCreated]
    rcases List.mem_append.mp member with earlier | later
    · rcases whole.backed entry earlier isCredit with ⟨row, inside, isFor⟩ | back
      · exact Or.inl ⟨row, List.mem_append_left _ inside, isFor⟩
      · exact Or.inr back
    · rcases backs entry later isCredit with ⟨row, inside, isFor⟩ | back
      · exact Or.inl ⟨row, List.mem_append_right _ inside, isFor⟩
      · exact Or.inr back

/-! ### One call -/

/-- A clean call leaves everything as it is, or pays for what it gives. -/
theorem step_of_clean (clean : Clean senderId key state call) :
    sendStep senderId key state call = state ∨
      ∃ send rows, call.send senderId key = .ok send ∧ send.senderId = senderId ∧
        (key ≠ "" → send.idempotencyKey = key) ∧
        Sent send state (sendStep senderId key state call) rows ∧
        state.db.transactions.Absent send.debitInput.idempotencyKey ∧
        send.amounts.Exact send.receiverIds.length := by
  rw [sendStep_eq]
  cases outcome : sendGiftBatch call.surroundings senderId (call.request key) state with
  | mk after result =>
      cases result with
      | error failure => exact Or.inl (unchanged_of_refused outcome)
      | ok rows =>
          obtain ⟨send, isSend, answered⟩ := answered_of_sendGiftBatch outcome
          cases answered with
          | replayed prior found same isPrior => exact Or.inl same
          | sent absent admitted goes =>
              obtain ⟨gift, first, others, -, -, made⟩ := giftSend_of_sendOf isSend
              have isSender : send.senderId = senderId := by
                rw [made]
                rfl
              have isKey : key ≠ "" → send.idempotencyKey = key := by
                intro given
                have isRequest : (call.request key).idempotencyKey = key := by
                  cases call <;> rfl
                rw [made]
                unfold giftSend
                dsimp only
                rw [isRequest, if_neg given]
              refine Or.inr ⟨send, rows, isSend, isSender, isKey, goes, ?_⟩
              rcases clean send isSend with ⟨receiverId, member, taken⟩ | new
              · exact absurd (goes.fresh receiverId member) taken
              · exact new

theorem whole_of_clean (whole : Whole senderId start state) (clean : Clean senderId key state call) :
    Whole senderId start (sendStep senderId key state call) := by
  rcases step_of_clean clean with same | ⟨send, rows, -, isSender, -, sent, new⟩
  · rw [same]
    exact whole
  · subst isSender
    exact whole_of_sent whole sent new

theorem leaves_of_clean (given : key ≠ "") (clean : Clean senderId key state call) :
    LeavesReplayed senderId key state call := by
  intro taken
  rcases step_of_clean clean with same | ⟨send, rows, -, -, isKey, -, absent, -⟩
  · exact same
  · have isDebit : send.debitInput.idempotencyKey = s!"gift-debit:{key}" := by
      rw [← isKey given]
      rfl
    rw [isDebit] at absent
    exact absurd absent taken

/-! ### Runs -/

/-- Where every send finds one of its rows or no debit under its key, each state is whole
and no replay moves anything. -/
theorem allOrNothing_of_clean (senderId : UserId) {key : String} (given : key ≠ "")
    (start : GiftState) (calls : List SendCall)
    (clean : Runs.Each (sendStep senderId key) (Clean senderId key) start calls) :
    Runs.Always (sendStep senderId key) (Whole senderId start) start calls ∧
      Runs.Each (sendStep senderId key) (LeavesReplayed senderId key) start calls := by
  constructor
  · have kept : ∀ (state : GiftState) (call : SendCall), Whole senderId start state →
        Clean senderId key state call → Whole senderId start (sendStep senderId key state call) :=
      fun _ _ whole clean => whole_of_clean whole clean
    exact Runs.always_of_each kept start (whole_start senderId start) calls clean
  · have kept : ∀ (state : GiftState) (call : SendCall), True → Clean senderId key state call →
        True := fun _ _ _ _ => trivial
    have leaves : ∀ (state : GiftState) (call : SendCall), True → Clean senderId key state call →
        LeavesReplayed senderId key state call := fun _ _ _ clean => leaves_of_clean given clean
    exact Runs.each_of_each kept leaves start trivial calls clean

/-! ### Two sets of receivers -/

def rose : Gift :=
  { id := "rose"
    name := "Rose"
    coinValue := 100 }

def roseTo (receiverIds : List UserId) : SendCall :=
  .sendGiftBatch
    { gift := some rose
      txnId := 1 }
    { giftId := "rose"
      receiverIds := receiverIds
      contextType := .videoRoom
      contextId := "room"
      quantity := 1
      idempotencyKey := "" }

def senderWith (gold : Int) : GiftState :=
  { db := Db.empty.putWallet "sender" { userId := "sender", goldBalance := gold,
                                        availableBalance := gold }
    gifts := UniqueTable.empty
    treasure :=
      { configs := UniqueTable.empty
        now := 0 } }

instance (senderId : UserId) (key : String) (state : GiftState) (call : SendCall) :
    Decidable (Clean senderId key state call) :=
  match isSend : call.send senderId key with
  | .error _ => isTrue fun _ isOther => nomatch isSend.symm.trans isOther
  | .ok send =>
      decidable_of_iff
        ((∃ receiverId ∈ send.receiverIds, ¬state.gifts.Absent (send.ledgerKeyFor receiverId)) ∨
          (state.db.transactions.Absent send.debitInput.idempotencyKey ∧
            send.amounts.Exact send.receiverIds.length))
        ⟨fun own _ isOther => Except.ok.inj (isSend.symm.trans isOther) ▸ own,
          fun all => all send isSend⟩

/-- The same two receivers again, in the other order. -/
theorem allOrNothing_repeated :
    Runs.Always (sendStep "sender" "key") (Whole "sender" (senderWith 500)) (senderWith 500)
        [roseTo ["alice", "bob"], roseTo ["bob", "alice"]] ∧
      Runs.Each (sendStep "sender" "key") (LeavesReplayed "sender" "key") (senderWith 500)
        [roseTo ["alice", "bob"], roseTo ["bob", "alice"]] :=
  allOrNothing_of_clean "sender" (by decide) _ _ (by decide +kernel)

/-- Two other receivers: their rows are worth 200 coins that nobody is debited. -/
theorem unpaid_of_otherReceivers :
    ¬Runs.Always (sendStep "sender" "key") (Whole "sender" (senderWith 500)) (senderWith 500)
      [roseTo ["alice", "bob"], roseTo ["carol", "dave"]] := by
  intro always
  have unpaid : ¬coins (goldDebits "sender") (bookedSince (senderWith 500)
      (Runs.run (sendStep "sender" "key") (senderWith 500)
        [roseTo ["alice", "bob"], roseTo ["carol", "dave"]])) =
      ((createdSince (senderWith 500) (Runs.run (sendStep "sender" "key") (senderWith 500)
        [roseTo ["alice", "bob"], roseTo ["carol", "dave"]])).map
          GiftTransaction.totalCoinValue).sum := by
    decide +kernel
  exact unpaid always.final.paid

end Soulzaa.Gifts
