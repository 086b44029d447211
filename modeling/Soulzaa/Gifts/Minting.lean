/-
The GOLD that a gift in an audio room takes and gives.

The cashback is a share of the whole value, while the ladder refunds all that it does not
take, so together they exceed the debit when the ladder takes less than the cashback.
-/

import Soulzaa.Gifts.Bookings
import Soulzaa.Treasure.Capacity

namespace Soulzaa.Gifts

open Treasure (roomCapacity)

def goldDebits (senderId : UserId) : Selector := fun type currency userId =>
  type = .debit ∧ currency = .gold ∧ userId = senderId

def goldCredits : Selector := fun type currency _ => type = .credit ∧ currency = .gold

/-- The GOLD credited between the two tables is at most the GOLD the sender was debited. -/
def MintsNothing (senderId : UserId) (before after : Db) : Prop :=
  coins goldCredits after.ledger - coins goldCredits before.ledger ≤
    coins (goldDebits senderId) after.ledger - coins (goldDebits senderId) before.ledger

instance (senderId : UserId) (before after : Db) : Decidable (MintsNothing senderId before after) :=
  inferInstanceAs (Decidable (_ ≤ _))

theorem mintsNothing_of_same (senderId : UserId) (db : Db) : MintsNothing senderId db db := by
  unfold MintsNothing
  rw [sub_self, sub_self]

/-! ### What is due -/

namespace GiftSend

/-- A movement whose key is taken moves nothing. -/
def dueNow (db : Db) (input : WalletMovementInput) : Int :=
  if db.transactions.Absent input.idempotencyKey then input.amount else 0

def refundAmount (send : GiftSend) (state : GiftState) : Int :=
  Treasure.refundDue state.treasure send.contextId send.amounts.totalNum send.txnId

/-- The refund and the cashback due are covered by the debit due. -/
def Covered (send : GiftSend) (state : GiftState) : Prop :=
  dueNow state.db (send.refundInput (send.refundAmount state)) +
      dueNow state.db (send.availableInput send.firstReceiverId) ≤
    dueNow state.db send.debitInput

end GiftSend

variable {send : GiftSend} {state after : GiftState}

theorem cashback_nonneg (rules : SettlementRules) (value : Int) :
    0 ≤ availableBalanceCredited rules value := by
  unfold availableBalanceCredited
  split
  · exact share_nonneg _ _
  · exact le_refl 0

theorem refundDue_nonneg (tables : Treasure.Tables) (roomId : Treasure.RoomId) (amount : Int)
    (giftTxnId : Treasure.GiftTxnId) : 0 ≤ Treasure.refundDue tables roomId amount giftTxnId := by
  unfold Treasure.refundDue
  split
  · exact le_refl 0
  · split
    · exact Binary64.round_nonneg (sub_nonneg.mpr (min_le_left _ _))
    · exact le_refl 0

/-! ### The keys of a send -/

theorem keys_distinct (send : GiftSend) (refundAmount : Int) (receiverId : UserId) :
    [send.debitInput.idempotencyKey, (send.refundInput refundAmount).idempotencyKey,
      (send.earningsInput receiverId).idempotencyKey,
      (send.availableInput receiverId).idempotencyKey].Nodup := by
  have debit : send.debitInput.idempotencyKey = "gift-debit:" ++ send.idempotencyKey := rfl
  have refund : (send.refundInput refundAmount).idempotencyKey =
      "gift-refund:" ++ send.idempotencyKey := rfl
  have earnings : (send.earningsInput receiverId).idempotencyKey =
      "gift-credit-earnings:" ++ send.idempotencyKey ++ ":" ++ receiverId := rfl
  have available : (send.availableInput receiverId).idempotencyKey =
      "gift-credit-available:" ++ send.idempotencyKey ++ ":" ++ receiverId := rfl
  rw [debit, refund, earnings, available]
  simp only [List.nodup_cons, List.mem_cons, List.not_mem_nil, or_false, not_or,
    ← String.toList_inj]
  simp

theorem keys_creditOf (input : WalletMovementInput) :
    ((creditOf input).map Movement.key).Sublist [input.idempotencyKey] := by
  unfold creditOf
  split
  · exact List.Sublist.refl _
  · exact List.nil_sublist _

variable {refundAmount : Int} {selects : Selector} {db : Db} {input : WalletMovementInput}

theorem keys_books (alone : send.otherReceiverIds = []) :
    ((send.books refundAmount).map Movement.key).Nodup := by
  have shape : send.books refundAmount = (.debit, send.debitInput) ::
      (creditOf (send.refundInput refundAmount) ++
        (creditOf (send.earningsInput send.firstReceiverId) ++
          creditOf (send.availableInput send.firstReceiverId))) := by
    unfold GiftSend.books GiftSend.receiverIds
    rw [alone, List.flatMap_cons, List.flatMap_nil, List.append_nil]
    rfl
  rw [shape, List.map_cons, List.map_append, List.map_append]
  refine (keys_distinct send refundAmount send.firstReceiverId).sublist (.cons_cons _ ?_)
  exact (keys_creditOf _).append ((keys_creditOf _).append (keys_creditOf _))

/-! ### The sums -/

theorem due_creditOf (nonneg : 0 ≤ input.amount) :
    ((creditOf input).map (Movement.due selects db)).sum = Movement.due selects db (.credit, input) := by
  unfold creditOf
  split
  · exact List.sum_singleton
  · rename_i nothing
    have isZero : input.amount = 0 := le_antisymm (Int.not_lt.mp nothing) nonneg
    have none : Movement.coins selects (.credit, input) = 0 := by
      unfold Movement.coins
      rw [isZero, ite_self]
    unfold Movement.due
    rw [none, ite_self]
    rfl

/-- The diamonds of the receiver count neither as a debit nor as GOLD. -/
theorem due_books (alone : send.otherReceiverIds = []) (nonneg : 0 ≤ refundAmount)
    (earned : ∀ receiverId, Movement.coins selects (.credit, send.earningsInput receiverId) = 0) :
    ((send.books refundAmount).map (Movement.due selects db)).sum =
      Movement.due selects db (.debit, send.debitInput) +
        (Movement.due selects db (.credit, send.refundInput refundAmount) +
          Movement.due selects db (.credit, send.availableInput send.firstReceiverId)) := by
  have noneEarned : ((creditOf (send.earningsInput send.firstReceiverId)).map
      (Movement.due selects db)).sum = 0 := by
    apply List.sum_eq_zero
    intro due member
    obtain ⟨movement, isCredit, rfl⟩ := List.mem_map.mp member
    rw [mem_creditOf isCredit]
    unfold Movement.due
    rw [earned, ite_self]
  have cashback : 0 ≤ (send.availableInput send.firstReceiverId).amount := cashback_nonneg _ _
  unfold GiftSend.books GiftSend.receiverIds GiftSend.receives
  rw [alone, List.flatMap_cons, List.flatMap_nil, List.append_nil, List.map_cons, List.sum_cons,
    List.map_append, List.sum_append, List.map_append, List.sum_append, noneEarned, zero_add,
    due_creditOf nonneg, due_creditOf cashback]

/-- What a send books of GOLD. -/
theorem mintsNothing_of_books (alone : send.otherReceiverIds = []) {final : Db}
    (nonneg : 0 ≤ refundAmount) (books : Books (send.books refundAmount) db final) :
    MintsNothing send.senderId db final ↔
      GiftSend.dueNow db (send.refundInput refundAmount) +
          GiftSend.dueNow db (send.availableInput send.firstReceiverId) ≤
        GiftSend.dueNow db send.debitInput := by
  have distinct : ((send.books refundAmount).map Movement.key).Nodup := keys_books alone
  have credits : coins goldCredits final.ledger = coins goldCredits db.ledger +
      ((send.books refundAmount).map (Movement.due goldCredits db)).sum := books.coins distinct
  have debits : coins (goldDebits send.senderId) final.ledger =
      coins (goldDebits send.senderId) db.ledger +
        ((send.books refundAmount).map (Movement.due (goldDebits send.senderId) db)).sum :=
    books.coins distinct
  rw [due_books alone nonneg fun _ => rfl] at credits debits
  have noDebit : Movement.due goldCredits db (.debit, send.debitInput) = 0 := ite_self 0
  have noRefund : Movement.due (goldDebits send.senderId) db
      (.credit, send.refundInput refundAmount) = 0 := ite_self 0
  have noCashback : Movement.due (goldDebits send.senderId) db
      (.credit, send.availableInput send.firstReceiverId) = 0 := ite_self 0
  have isRefund : Movement.due goldCredits db (.credit, send.refundInput refundAmount) =
      GiftSend.dueNow db (send.refundInput refundAmount) := rfl
  have isCashback : Movement.due goldCredits db
      (.credit, send.availableInput send.firstReceiverId) =
        GiftSend.dueNow db (send.availableInput send.firstReceiverId) := rfl
  have isDebit : Movement.due (goldDebits send.senderId) db (.debit, send.debitInput) =
      GiftSend.dueNow db send.debitInput := by
    have selected : Movement.coins (goldDebits send.senderId) (.debit, send.debitInput) =
        send.debitInput.amount := if_pos (decide_eq_true ⟨rfl, rfl, rfl⟩)
    unfold Movement.due
    rw [selected]
    rfl
  unfold MintsNothing
  rw [credits, debits, noDebit, noRefund, noCashback, isRefund, isCashback, isDebit]
  omega

/-! ### One call -/

/-- A row of the first receiver is there already, or what is due is covered. -/
def Covers (surroundings : Surroundings) (senderId : UserId) (dto : SendGiftBatchDto)
    (state : GiftState) : Prop :=
  ∀ send, sendOf surroundings senderId dto = .ok send →
    ¬state.gifts.Absent (send.ledgerKeyFor send.firstReceiverId) ∨ send.Covered state

variable {surroundings : Surroundings} {senderId : UserId} {dto : SendGiftBatchDto}
  {rows : List GiftTransaction}

theorem alone_of_admission (isAudio : send.handler = .audioRoom)
    (admitted : admission surroundings send = .ok ()) : send.otherReceiverIds = [] := by
  unfold admission at admitted
  rw [isAudio] at admitted
  dsimp only at admitted
  split at admitted
  · cases admitted
  · rename_i within
    have few : ¬1 < send.otherReceiverIds.length + 1 := within
    exact List.eq_nil_of_length_eq_zero (by omega)

theorem mintsNothing_of_sent (isAudio : send.handler = .audioRoom)
    (admitted : admission surroundings send = .ok ()) (sent : Sent send state after rows) :
    MintsNothing send.senderId state.db after.db ↔ send.Covered state := by
  obtain ⟨refundAmount, routed, books⟩ := sent.movements
  have refunds : refundAmount = send.refundAmount state := by
    unfold Routed at routed
    rw [isAudio] at routed
    obtain ⟨contribution, processed, isRefund⟩ := routed
    rw [← isRefund]
    exact Treasure.refund_of_processTreasureContribution (le_of_lt sent.positive) processed
  subst refunds
  exact mintsNothing_of_books (alone_of_admission isAudio admitted) (refundDue_nonneg _ _ _ _) books

/-- A gift in an audio room credits no more GOLD than it debits exactly when the ladder
takes enough of it to cover the cashback; a refused call credits nothing. -/
theorem mintsNothing_iff (surroundings : Surroundings) (senderId : UserId)
    (dto : SendGiftBatchDto) (isAudio : dto.contextType = .audioRoom) (state after : GiftState) :
    (∀ failure, sendGiftBatch surroundings senderId dto state = (after, .error failure) →
      MintsNothing senderId state.db after.db) ∧
    ∀ rows, sendGiftBatch surroundings senderId dto state = (after, .ok rows) →
      (MintsNothing senderId state.db after.db ↔ Covers surroundings senderId dto state) := by
  constructor
  · intro failure refused
    rw [unchanged_of_refused refused]
    exact mintsNothing_of_same senderId state.db
  · intro rows isSent
    obtain ⟨send, isSend, answered⟩ := answered_of_sendGiftBatch isSent
    obtain ⟨gift, first, others, -, -, made⟩ := giftSend_of_sendOf isSend
    have isHandler : send.handler = .audioRoom := by
      rw [made]
      unfold giftSend
      dsimp only
      rw [isAudio]
      rfl
    have isSender : send.senderId = senderId := by
      rw [made]
      rfl
    have covers : Covers surroundings senderId dto state ↔
        ¬state.gifts.Absent (send.ledgerKeyFor send.firstReceiverId) ∨ send.Covered state := by
      constructor
      · intro all
        exact all send isSend
      · intro own other isOther
        rw [isSend] at isOther
        cases isOther
        exact own
    rw [covers]
    cases answered with
    | replayed prior found same isPrior =>
        have taken : ¬state.gifts.Absent (send.ledgerKeyFor send.firstReceiverId) := by
          rw [← UniqueTable.find?_eq_none_iff, found]
          exact Option.some_ne_none prior
        rw [same]
        exact iff_of_true (mintsNothing_of_same senderId state.db) (Or.inl taken)
    | sent absent admitted goes =>
        rw [UniqueTable.find?_eq_none_iff] at absent
        rw [or_iff_right (not_not.mpr absent), ← isSender]
        exact mintsNothing_of_sent isHandler admitted goes

/-! ### A ladder that lacks one coin -/

def openedBox (level : Nat) (threshold : Int) : Treasure.TreasureBox :=
  { sessionId := 0
    level := level
    threshold := threshold
    progress := threshold
    status := .opened }

/-- The last box lacks one coin. -/
def oneCoinLeft : Treasure.Tables :=
  { configs := UniqueTable.empty
    sessions := [{ id := 0, roomId := "room", currentLevel := 5, createdAt := 0 }]
    boxes := [openedBox 1 15000, openedBox 2 60000, openedBox 3 120000, openedBox 4 300000,
      { sessionId := 0, level := 5, threshold := 500000, progress := 499999, status := .active }]
    now := 0 }

def oneCoinRoom : GiftState :=
  { db := Db.empty.putWallet "sender" { userId := "sender", goldBalance := 5000,
                                        availableBalance := 5000 }
    gifts := UniqueTable.empty
    treasure := oneCoinLeft }

def castle : Gift :=
  { id := "castle"
    name := "Castle"
    coinValue := 2000 }

/-- The castle, with the default rules. -/
def castleSurroundings : Surroundings :=
  { gift := some castle
    txnId := 1 }

def castleDto (contextId : ContextId) : SendGiftBatchDto :=
  { giftId := "castle"
    receiverIds := ["receiver"]
    contextType := .audioRoom
    contextId := contextId
    quantity := 1
    idempotencyKey := "key" }

/-- Of 2000 coins 1999 are refunded, and 200 are cashback. -/
theorem mints_in_oneCoinRoom :
    (sendGiftBatch castleSurroundings "sender" (castleDto "room") oneCoinRoom).2.isOk = true ∧
      ¬MintsNothing "sender" oneCoinRoom.db
        (sendGiftBatch castleSurroundings "sender" (castleDto "room") oneCoinRoom).1.db := by
  decide +kernel

/-- In another room there is no ladder, nor one to start. -/
theorem mintsNothing_elsewhere :
    ∃ after rows, sendGiftBatch castleSurroundings "sender" (castleDto "elsewhere") oneCoinRoom =
      (after, .ok rows) ∧
        (MintsNothing "sender" oneCoinRoom.db after.db ↔
          Covers castleSurroundings "sender" (castleDto "elsewhere") oneCoinRoom) := by
  have isOk : (sendGiftBatch castleSurroundings "sender" (castleDto "elsewhere")
      oneCoinRoom).2.isOk = true := by
    decide +kernel
  cases outcome : sendGiftBatch castleSurroundings "sender" (castleDto "elsewhere") oneCoinRoom with
  | mk after result =>
      cases result with
      | error failure =>
          rw [outcome] at isOk
          cases isOk
      | ok rows =>
          exact ⟨after, rows, rfl,
            (mintsNothing_iff castleSurroundings "sender" (castleDto "elsewhere") rfl oneCoinRoom
              after).2 rows outcome⟩

end Soulzaa.Gifts
