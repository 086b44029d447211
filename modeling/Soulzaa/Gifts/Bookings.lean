/-
What a send books in the wallets, and the rows it writes.

A movement under a key that is taken already is answered without moving anything, so what
the ledger gains depends on the keys that are free before the send.
-/

import Soulzaa.Gifts.Sending

namespace Soulzaa.Gifts

open WalletService (IsMovementOf)

abbrev Movement := WalletEntryType × WalletMovementInput

def Movement.key (movement : Movement) : String := movement.2.idempotencyKey

/-! ### One movement -/

/-- The movement was answered: replayed where its key was taken, posted otherwise. -/
structure Booked (movement : Movement) (before after : Db) : Prop where
  positive : 0 < movement.2.amount
  keys : ∀ key, after.transactions.Absent key ↔
    before.transactions.Absent key ∧ key ≠ movement.key
  replayed : ¬before.transactions.Absent movement.key → after = before
  posted : before.transactions.Absent movement.key →
    ∃ entry, IsMovementOf movement.1 movement.2 entry ∧ after.ledger = before.ledger ++ [entry]

variable {platform : Platform} {type : WalletEntryType} {input : WalletMovementInput}
  {db middle after : Db}

theorem booked_of_book {result : WalletMovementResult}
    (booked : book platform type input db = .ok (after, result)) : Booked (type, input) db after := by
  have moved : WalletService.move platform db type input = (after, .ok result) := by
    unfold book at booked
    split at booked
    · rename_i isMoved
      cases booked
      exact isMoved
    · cases booked
  have positive : 0 < input.amount := (WalletService.answered_iff.mp ⟨after, result, moved⟩).1.1
  by_cases absent : db.transactions.Absent input.idempotencyKey
  · have wrote := (WalletService.wrote_of_move_ok moved absent).2
    have everything : ∀ entry, IsMovementOf type input entry →
        (fun _ : LedgerEntry => true) entry = true := fun _ _ => rfl
    obtain ⟨-, entry, isMovement, added⟩ :=
      WalletService.row_of_move_ok moved absent everything
    rw [List.filter_true, List.filter_true] at added
    refine ⟨positive, ?_, fun taken => absurd absent taken, fun _ => ⟨entry, isMovement, added⟩⟩
    intro key
    unfold UniqueTable.Absent
    rw [wrote.headers, List.map_append, List.mem_append, not_or]
    exact and_congr_right fun _ => not_congr List.mem_singleton
  · have unmoved := WalletService.unmoved_of_taken moved absent
    refine ⟨positive, ?_, fun _ => unmoved, fun free => absurd free absent⟩
    intro key
    rw [unmoved]
    constructor
    · intro free
      refine ⟨free, ?_⟩
      rintro rfl
      exact absent free
    · exact And.left

/-! ### The movements of a send -/

inductive Books : List Movement → Db → Db → Prop where
  | none (db : Db) : Books [] db db
  | next {movement : Movement} {movements : List Movement} {before middle after : Db}
      (booked : Booked movement before middle) (rest : Books movements middle after) :
      Books (movement :: movements) before after

theorem Books.append {front back : List Movement} (first : Books front db middle)
    (second : Books back middle after) : Books (front ++ back) db after := by
  induction first with
  | none db => exact second
  | next booked _ ih => exact .next booked (ih second)

theorem Books.entries {movements : List Movement} (books : Books movements db after) :
    ∃ entries, after.ledger = db.ledger ++ entries ∧
      ∀ entry ∈ entries, ∃ movement ∈ movements, IsMovementOf movement.1 movement.2 entry := by
  induction books with
  | none db => exact ⟨[], (List.append_nil _).symm, List.forall_mem_nil _⟩
  | @next movement movements before middle after booked rest ih =>
      obtain ⟨entries, added, caused⟩ := ih
      have later : ∀ entry ∈ entries, ∃ other ∈ movement :: movements,
          IsMovementOf other.1 other.2 entry := by
        intro entry member
        obtain ⟨other, inside, isMovement⟩ := caused entry member
        exact ⟨other, List.mem_cons_of_mem _ inside, isMovement⟩
      by_cases absent : before.transactions.Absent movement.key
      · obtain ⟨entry, isMovement, isLedger⟩ := booked.posted absent
        refine ⟨entry :: entries, ?_, ?_⟩
        · rw [added, isLedger, List.append_assoc, List.singleton_append]
        · intro other member
          rcases List.mem_cons.mp member with rfl | inRest
          · exact ⟨movement, List.mem_cons_self, isMovement⟩
          · exact later other inRest
      · rw [booked.replayed absent] at added
        exact ⟨entries, added, later⟩

/-! ### Coins -/

/-- Which rows of the ledger count. -/
abbrev Selector := WalletEntryType → WalletCurrency → UserId → Bool

/-- The coins that the selected rows moved. -/
def coins (selects : Selector) (ledger : List LedgerEntry) : Int :=
  ((ledger.filter fun entry => selects entry.type entry.currency entry.walletId).map
    LedgerEntry.amount).sum

def Movement.coins (selects : Selector) (movement : Movement) : Int :=
  if selects movement.1 movement.2.currency movement.2.userId then movement.2.amount else 0

/-- What the movement adds to the tables. -/
def Movement.due (selects : Selector) (db : Db) (movement : Movement) : Int :=
  if db.transactions.Absent movement.key then movement.coins selects else 0

variable {selects : Selector} {movement : Movement} {movements : List Movement}

theorem coins_append (front back : List LedgerEntry) :
    coins selects (front ++ back) = coins selects front + coins selects back := by
  unfold coins
  rw [List.filter_append, List.map_append, List.sum_append]

theorem coins_of_booked (booked : Booked movement db after) :
    coins selects after.ledger = coins selects db.ledger + movement.due selects db := by
  unfold Movement.due
  by_cases absent : db.transactions.Absent movement.key
  · obtain ⟨entry, isMovement, added⟩ := booked.posted absent
    rw [if_pos absent, added, coins_append]
    unfold coins Movement.coins
    rw [List.filter_singleton, isMovement.type, isMovement.currency, isMovement.walletId]
    cases selects movement.1 movement.2.currency movement.2.userId with
    | true => simp [isMovement.amount]
    | false => simp
  · rw [if_neg absent, booked.replayed absent, add_zero]

/-- Other movements between leave what is due. -/
theorem due_of_booked {other : Movement} (booked : Booked other db after)
    (different : movement.key ≠ other.key) :
    movement.due selects after = movement.due selects db := by
  unfold Movement.due
  simp only [booked.keys, different, ne_eq, not_false_eq_true, and_true]

theorem Books.coins (books : Books movements db after)
    (distinct : (movements.map Movement.key).Nodup) :
    Gifts.coins selects after.ledger =
      Gifts.coins selects db.ledger + (movements.map (Movement.due selects db)).sum := by
  induction books with
  | none db => simp
  | @next movement movements before middle after booked rest ih =>
      rw [List.map_cons, List.nodup_cons] at distinct
      have later : movements.map (Movement.due selects middle) =
          movements.map (Movement.due selects before) := by
        apply List.map_congr_left
        intro other member
        apply due_of_booked booked
        intro same
        exact distinct.1 (same ▸ List.mem_map_of_mem member)
      rw [ih distinct.2, coins_of_booked booked, later, List.map_cons, List.sum_cons, add_assoc]

theorem Books.coins_of_unselected (books : Books movements db after)
    (unselected : ∀ movement ∈ movements, movement.coins selects = 0) :
    Gifts.coins selects after.ledger = Gifts.coins selects db.ledger := by
  induction books with
  | none db => rfl
  | @next movement movements before middle after booked rest ih =>
      have nothing : movement.due selects before = 0 := by
        unfold Movement.due
        rw [unselected movement List.mem_cons_self, ite_self]
      rw [ih fun other member => unselected other (List.mem_cons_of_mem _ member),
        coins_of_booked booked, nothing, add_zero]

/-! ### What the transaction books -/

def creditOf (input : WalletMovementInput) : List Movement :=
  if 0 < input.amount then [(.credit, input)] else []

theorem mem_creditOf (member : movement ∈ creditOf input) : movement = (.credit, input) := by
  unfold creditOf at member
  split at member
  · exact List.mem_singleton.mp member
  · cases member

theorem books_of_bookCredit {id : Option TransactionId}
    (booked : bookCredit platform input db = .ok (after, id)) : Books (creditOf input) db after := by
  unfold bookCredit at booked
  unfold creditOf
  by_cases positive : 0 < input.amount
  · rw [if_pos positive] at booked ⊢
    split at booked
    · rename_i isBooked
      cases booked
      exact .next (booked_of_book isBooked) (.none after)
    · cases booked
  · rw [if_neg positive] at booked ⊢
    cases booked
    exact .none db

namespace GiftSend

/-- The credits of one receiver. -/
def receives (send : GiftSend) (receiverId : UserId) : List Movement :=
  creditOf (send.earningsInput receiverId) ++ creditOf (send.availableInput receiverId)

def books (send : GiftSend) (refundAmount : Int) : List Movement :=
  (.debit, send.debitInput) ::
    (creditOf (send.refundInput refundAmount) ++ send.receiverIds.flatMap send.receives)

end GiftSend

variable {send : GiftSend} {state final : GiftState}

/-- The rate is zero, so the host is credited nothing. -/
theorem rewardHost_nothing (acceptedAmount : Int) :
    rewardHost platform send acceptedAmount db = .ok (db, none) := by
  unfold rewardHost
  cases send.hostId with
  | none => rfl
  | some hostId =>
      have nothing : (send.hostRewardInput hostId acceptedAmount).amount = 0 := Int.mul_zero _
      dsimp only
      unfold bookCredit
      rw [nothing, if_neg (Int.lt_irrefl 0)]

/-- What the context did to the treasure, and the refund it reports. -/
def Routed (send : GiftSend) (before after : Treasure.Tables) (refundAmount : Int) : Prop :=
  match send.handler with
  | .audioRoom =>
      ∃ contribution, Treasure.TreasureService.processTreasureContribution Treasure.enoughRounds
        before send.contextId send.senderId send.amounts.totalNum send.txnId =
          some (after, contribution) ∧ contribution.refundAmount = refundAmount
  | _ => after = before ∧ refundAmount = 0

theorem books_of_onSend {effects : GiftSendEffects}
    (sent : onSend platform send state = .ok (final, effects)) :
    Books (creditOf (send.refundInput effects.refundAmount)) state.db final.db ∧
      final.gifts = state.gifts ∧ Routed send state.treasure final.treasure effects.refundAmount := by
  have nothing : creditOf (send.refundInput 0) = [] := rfl
  unfold onSend at sent
  unfold Routed
  cases isHandler : send.handler with
  | audioRoom =>
      rw [isHandler] at sent
      dsimp only at sent ⊢
      unfold onSendAudio at sent
      split at sent
      · cases sent
      · rename_i treasure contribution processed
        rw [rewardHost_nothing, ok_bind] at sent
        obtain ⟨⟨db, id⟩, booked, isFinal⟩ := bind_eq_ok.mp sent
        cases isFinal
        exact ⟨books_of_bookCredit booked, rfl, contribution, processed, rfl⟩
  | videoRoom maxReceivers =>
      rw [isHandler] at sent
      cases sent
      rw [nothing]
      exact ⟨.none _, rfl, rfl, rfl⟩
  | privateChat =>
      rw [isHandler] at sent
      cases sent
      rw [nothing]
      exact ⟨.none _, rfl, rfl, rfl⟩
  | default =>
      rw [isHandler] at sent
      cases sent
      rw [nothing]
      exact ⟨.none _, rfl, rfl, rfl⟩

/-- The row for the receiver. -/
structure IsRowOf (send : GiftSend) (userId : UserId) (row : GiftTransaction) : Prop where
  receiverId : row.receiverId = userId
  idempotencyKey : row.idempotencyKey = send.ledgerKeyFor userId
  totalCoinValue : row.totalCoinValue = send.amounts.perReceiver

/-- What the loop over the receivers leaves. -/
structure Settled (send : GiftSend) (receiverIds : List UserId) (before after : GiftState)
    (rows : List GiftTransaction) : Prop where
  books : Books (receiverIds.flatMap send.receives) before.db after.db
  created : after.gifts.rows = before.gifts.rows ++ rows
  rows : List.Forall₂ (IsRowOf send) receiverIds rows
  fresh : ∀ receiverId ∈ receiverIds, before.gifts.Absent (send.ledgerKeyFor receiverId)
  treasure : after.treasure = before.treasure

theorem settled_of_settleReceiver {debitId : TransactionId} {receiverId : UserId}
    {row : GiftTransaction}
    (settles : settleReceiver platform send debitId state receiverId = .ok (final, row)) :
    Settled send [receiverId] state final [row] ∧ send.WholePercentages := by
  obtain ⟨⟨first, creditId⟩, earned, others⟩ := bind_eq_ok.mp settles
  obtain ⟨⟨second, unused⟩, cashed, rowed⟩ := bind_eq_ok.mp others
  obtain ⟨last, created, isFinal⟩ := bind_eq_ok.mp rowed
  cases isFinal
  unfold createTransaction at created
  split at created
  · rename_i whole
    split at created
    · rename_i gifts isCreated
      cases created
      obtain ⟨absent, isRows⟩ := UniqueTable.rows_of_create isCreated
      refine ⟨⟨?_, isRows, .cons ⟨rfl, rfl, rfl⟩ .nil, ?_, rfl⟩, whole⟩
      · rw [List.flatMap_cons, List.flatMap_nil, List.append_nil]
        exact (books_of_bookCredit earned).append (books_of_bookCredit cashed)
      · intro other member
        rw [List.mem_singleton.mp member]
        exact absent
    · cases created
  · cases created

theorem Settled.cons {receiverId : UserId} {others : List UserId} {middle : GiftState}
    {row : GiftTransaction} {rows : List GiftTransaction}
    (first : Settled send [receiverId] state middle [row])
    (rest : Settled send others middle final rows) :
    Settled send (receiverId :: others) state final (row :: rows) := by
  have head : Books (send.receives receiverId) state.db middle.db := by
    have books := first.books
    rwa [List.flatMap_cons, List.flatMap_nil, List.append_nil] at books
  have isRow : IsRowOf send receiverId row := by
    cases first.rows with
    | cons isRow _ => exact isRow
  refine ⟨?_, ?_, .cons isRow rest.rows, ?_, rest.treasure.trans first.treasure⟩
  · rw [List.flatMap_cons]
    exact head.append rest.books
  · rw [rest.created, first.created, List.append_assoc, List.singleton_append]
  · intro other member
    rcases List.mem_cons.mp member with rfl | inRest
    · exact first.fresh other (List.mem_singleton_self other)
    · have absent := rest.fresh other inRest
      unfold UniqueTable.Absent at absent ⊢
      rw [first.created, List.map_append, List.mem_append, not_or] at absent
      exact absent.1

theorem settled_of_settleReceivers {debitId : TransactionId} {receiverIds : List UserId}
    {rows : List GiftTransaction}
    (settles : settleReceivers platform send debitId receiverIds state = .ok (final, rows)) :
    Settled send receiverIds state final rows := by
  induction receiverIds generalizing state rows with
  | nil =>
      cases settles
      exact ⟨.none _, (List.append_nil _).symm, .nil, List.forall_mem_nil _, rfl⟩
  | cons receiverId others ih =>
      obtain ⟨⟨middle, row⟩, one, rest⟩ := bind_eq_ok.mp settles
      obtain ⟨⟨last, later⟩, many, isFinal⟩ := bind_eq_ok.mp rest
      cases isFinal
      exact (settled_of_settleReceiver one).1.cons (ih many)

/-- A send that finds no row and goes through. -/
structure Sent (send : GiftSend) (before after : GiftState) (rows : List GiftTransaction) : Prop where
  movements : ∃ refundAmount, Routed send before.treasure after.treasure refundAmount ∧
    Books (send.books refundAmount) before.db after.db
  created : after.gifts.rows = before.gifts.rows ++ rows
  rows : List.Forall₂ (IsRowOf send) send.receiverIds rows
  fresh : ∀ receiverId ∈ send.receiverIds, before.gifts.Absent (send.ledgerKeyFor receiverId)
  whole : send.WholePercentages
  positive : 0 < send.amounts.totalNum

theorem sent_of_settle {rows : List GiftTransaction}
    (settles : settle platform send state = .ok (final, rows)) : Sent send state final rows := by
  obtain ⟨⟨debited, debit⟩, paid, others⟩ := bind_eq_ok.mp settles
  obtain ⟨⟨routed, effects⟩, sent, settled⟩ := bind_eq_ok.mp others
  obtain ⟨refunds, sameGifts, isRouted⟩ := books_of_onSend sent
  have loop := settled_of_settleReceivers settled
  have whole : send.WholePercentages := by
    obtain ⟨⟨middle, row⟩, one, rest⟩ := bind_eq_ok.mp settled
    exact (settled_of_settleReceiver one).2
  have booked := booked_of_book paid
  refine ⟨⟨effects.refundAmount, ?_, .next booked (refunds.append loop.books)⟩, ?_, loop.rows, ?_,
    whole, booked.positive⟩
  · rw [loop.treasure]
    exact isRouted
  · rw [loop.created, sameGifts]
  · intro receiverId member
    have absent := loop.fresh receiverId member
    rwa [sameGifts] at absent

/-! ### The call -/

variable {surroundings : Surroundings} {senderId : UserId} {dto : SendGiftBatchDto}

theorem unchanged_of_refused {failure : SendFailure}
    (refused : sendGiftBatch surroundings senderId dto state = (final, .error failure)) :
    final = state := by
  unfold sendGiftBatch at refused
  split at refused
  · cases refused
    rfl
  · split at refused
    · cases refused
    · split at refused
      · cases refused
        rfl
      · split at refused
        · cases refused
          rfl
        · cases refused

/-- How a call ends that is not refused. -/
inductive Answered (surroundings : Surroundings) (send : GiftSend) (before after : GiftState)
    (rows : List GiftTransaction) : Prop where
  | replayed (prior : GiftTransaction)
      (found : before.gifts.find? (send.ledgerKeyFor send.firstReceiverId) = some prior)
      (same : after = before) (isPrior : rows = [prior])
  | sent (absent : before.gifts.find? (send.ledgerKeyFor send.firstReceiverId) = none)
      (admitted : admission surroundings send = .ok ()) (goes : Sent send before after rows)

theorem answered_of_sendGiftBatch {rows : List GiftTransaction}
    (sent : sendGiftBatch surroundings senderId dto state = (final, .ok rows)) :
    ∃ send, sendOf surroundings senderId dto = .ok send ∧
      Answered surroundings send state final rows := by
  unfold sendGiftBatch at sent
  cases isSend : sendOf surroundings senderId dto with
  | error failure =>
      rw [isSend] at sent
      cases sent
  | ok send =>
      rw [isSend] at sent
      dsimp only at sent
      refine ⟨send, rfl, ?_⟩
      cases found : state.gifts.find? (send.ledgerKeyFor send.firstReceiverId) with
      | some prior =>
          rw [found] at sent
          cases sent
          exact .replayed prior found rfl rfl
      | none =>
          rw [found] at sent
          dsimp only at sent
          cases admitted : admission surroundings send with
          | error failure =>
              rw [admitted] at sent
              cases sent
          | ok passed =>
              rw [admitted] at sent
              dsimp only at sent
              unfold transaction at sent
              rw [found] at sent
              dsimp only at sent
              cases settles : settle surroundings.platform send state with
              | error failure =>
                  rw [settles] at sent
                  cases sent
              | ok settled =>
                  obtain ⟨after, created⟩ := settled
                  rw [settles] at sent
                  cases sent
                  exact .sent found admitted (sent_of_settle settles)

/-- The send as it is made of the request. -/
theorem giftSend_of_sendOf {send : GiftSend} (isSend : sendOf surroundings senderId dto = .ok send) :
    ∃ gift firstReceiverId otherReceiverIds,
      dto.receiverIds.eraseDups = firstReceiverId :: otherReceiverIds ∧
      surroundings.gift = some gift ∧
      send = giftSend surroundings senderId dto gift firstReceiverId otherReceiverIds := by
  unfold sendOf at isSend
  split at isSend
  · cases isSend
  · rename_i firstReceiverId otherReceiverIds receivers
    split at isSend
    · cases isSend
    · rename_i gift isGift
      split at isSend
      · cases isSend
      · cases isSend
        exact ⟨gift, firstReceiverId, otherReceiverIds, receivers, isGift, rfl⟩

end Soulzaa.Gifts
