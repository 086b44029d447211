/-
GiftService.sendGiftBatch, up to the commit.

The checks before the transaction change nothing.  The transaction debits the sender,
routes the coins as the context wants, credits each receiver and writes one row for each;
a throw leaves the tables as they were.
-/

import Soulzaa.Gifts.Settlement
import Soulzaa.Treasure.Ladder

namespace Soulzaa.Gifts

open Treasure (GiftTxnId)

/-- Of the room's tables only those of the treasure take part. -/
structure GiftState where
  db : Db
  gifts : UniqueTable GiftTransaction.idempotencyKey
  treasure : Treasure.Tables

inductive GiftErrorCode where
  | giftReceiverInvalid
  | giftNotFound
  | giftDisabled
  | giftVipRestricted
  | giftTooManyReceivers
  | giftRateLimited
  deriving DecidableEq, Repr

/-- The last three are a value that a column does not take, a taken ledger key and a
statement on the treasure tables that throws. -/
inductive SendFailure where
  | business (errorCode : GiftErrorCode) (message : String) (status : Nat)
  | context (message : String)
  | wallet (failure : Failure)
  | invalidValue
  | uniqueConstraint
  | treasure
  deriving DecidableEq, Repr

/-! ### Contexts -/

inductive GiftContextHandler where
  | audioRoom
  | videoRoom (maxReceivers : Nat)
  | privateChat
  | default
  deriving DecidableEq, Repr

def GiftContextHandler.maxReceivers : GiftContextHandler → Nat
  | .audioRoom => 1
  | .videoRoom maxReceivers => maxReceivers
  | .privateChat => 1
  | .default => 100

/-- `GiftContextRegistry.for`. -/
def handlerFor (videoMaxReceivers : Nat) : GiftContextType → GiftContextHandler
  | .audioRoom => .audioRoom
  | .videoRoom => .videoRoom videoMaxReceivers
  | .privateChat => .privateChat
  | _ => .default

/-! ### Requests -/

/-- The key is trimmed. -/
structure SendGiftBatchDto where
  giftId : GiftId
  receiverIds : List UserId
  contextType : GiftContextType
  contextId : ContextId
  quantity : Int
  idempotencyKey : String
  deriving DecidableEq, Repr

structure SendGiftDto where
  giftId : GiftId
  receiverId : UserId
  contextType : GiftContextType
  contextId : ContextId
  quantity : Int
  idempotencyKey : String
  deriving DecidableEq, Repr

/-- What the other services answer, and what is drawn at random, while a send runs. -/
structure Surroundings where
  platform : Platform := .normal
  /-- `getGiftById`. -/
  gift : Option Gift
  effectiveLevel : Nat := 0
  videoMaxReceivers : Nat := 9
  /-- Why the context refuses the send. -/
  refusal : Option String := none
  rateLimited : Bool := false
  comboTick : Nat := 1
  roll : Int := 0
  pick : Nat := 0
  settings : SettlementSettings := .unset
  hostId : Option UserId := none
  drawnKey : String := ""
  txnId : GiftTxnId
  rowId : UserId → GiftTxnId := fun _ => 0

/-- A send with all that is settled before its transaction. -/
structure GiftSend where
  senderId : UserId
  /-- `receiverIds[0]`. -/
  firstReceiverId : UserId
  otherReceiverIds : List UserId
  gift : Gift
  contextType : GiftContextType
  contextId : ContextId
  handler : GiftContextHandler
  quantity : Int
  idempotencyKey : String
  comboTier : Nat
  lucky : Lucky
  rules : SettlementRules
  hostId : Option UserId
  txnId : GiftTxnId
  rowId : UserId → GiftTxnId

namespace GiftSend

def receiverIds (send : GiftSend) : List UserId := send.firstReceiverId :: send.otherReceiverIds

def isBatch (send : GiftSend) : Bool := 1 < send.receiverIds.length

def ledgerKeyFor (send : GiftSend) (receiverId : UserId) : String :=
  if send.isBatch then s!"{send.idempotencyKey}:{receiverId}" else send.idempotencyKey

def amounts (send : GiftSend) : Amounts :=
  Gifts.amounts send.gift send.quantity send.lucky.multiplier send.rules send.receiverIds.length

/-! ### The movements -/

def referenceType : Option String := some "gift"

def debitInput (send : GiftSend) : WalletMovementInput :=
  { userId := send.senderId
    currency := .gold
    amount := send.amounts.totalNum
    reason := .giftSend
    idempotencyKey := s!"gift-debit:{send.idempotencyKey}"
    referenceType := referenceType
    actorId := some send.senderId }

def hostRewardRate : Int := 0

def hostRewardInput (send : GiftSend) (hostId : UserId) (acceptedAmount : Int) :
    WalletMovementInput :=
  { userId := hostId
    currency := .gold
    amount := acceptedAmount * hostRewardRate
    reason := .treasureBox
    idempotencyKey := s!"gift-host-reward:{send.idempotencyKey}"
    referenceType := referenceType
    referenceId := some (toString send.txnId)
    actorId := some send.senderId }

def refundInput (send : GiftSend) (refundAmount : Int) : WalletMovementInput :=
  { userId := send.senderId
    currency := .gold
    amount := refundAmount
    reason := .giftRefund
    idempotencyKey := s!"gift-refund:{send.idempotencyKey}"
    referenceType := referenceType
    referenceId := some (toString send.txnId)
    actorId := some send.senderId }

def earningsInput (send : GiftSend) (receiverId : UserId) : WalletMovementInput :=
  { userId := receiverId
    currency := .diamond
    amount := send.amounts.earningsNum
    reason := .giftReceive
    idempotencyKey := s!"gift-credit-earnings:{send.idempotencyKey}:{receiverId}"
    referenceType := referenceType
    actorId := some send.senderId }

def availableInput (send : GiftSend) (receiverId : UserId) : WalletMovementInput :=
  { userId := receiverId
    currency := .gold
    amount := send.amounts.availableBalanceCredited
    reason := .giftReceive
    idempotencyKey := s!"gift-credit-available:{send.idempotencyKey}:{receiverId}"
    referenceType := referenceType
    actorId := some send.senderId }

end GiftSend

/-! ### The transaction -/

def book (platform : Platform) (type : WalletEntryType) (input : WalletMovementInput) (db : Db) :
    Except SendFailure (Db × WalletMovementResult) :=
  match WalletService.move platform db type input with
  | (after, .ok result) => .ok (after, result)
  | (_, .error failure) => .error (.wallet failure)

/-- A credit of nothing is not made. -/
def bookCredit (platform : Platform) (input : WalletMovementInput) (db : Db) :
    Except SendFailure (Db × Option TransactionId) :=
  if 0 < input.amount then
    match book platform .credit input db with
    | .ok (after, result) => .ok (after, some result.transactionId)
    | .error failure => .error failure
  else .ok (db, none)

structure GiftSendEffects where
  acceptedAmount : Int
  refundAmount : Int
  deriving DecidableEq, Repr

def rewardHost (platform : Platform) (send : GiftSend) (acceptedAmount : Int) (db : Db) :
    Except SendFailure (Db × Option TransactionId) :=
  match send.hostId with
  | some hostId => bookCredit platform (send.hostRewardInput hostId acceptedAmount) db
  | none => .ok (db, none)

/-- `AudioRoomGiftContextHandler.onSend`; the rewards of a box that opens are left out. -/
def onSendAudio (platform : Platform) (send : GiftSend) (state : GiftState) :
    Except SendFailure (GiftState × GiftSendEffects) :=
  match Treasure.TreasureService.processTreasureContribution Treasure.enoughRounds state.treasure
    send.contextId send.senderId send.amounts.totalNum send.txnId with
  | none => .error .treasure
  | some (treasure, contribution) => do
      let (db, _) ← rewardHost platform send contribution.acceptedAmount state.db
      let (db, _) ← bookCredit platform (send.refundInput contribution.refundAmount) db
      .ok ({ state with
              db := db
              treasure := treasure },
        { acceptedAmount := contribution.acceptedAmount
          refundAmount := contribution.refundAmount })

/-- Only audio rooms route coins; video rooms count them without moving any. -/
def onSend (platform : Platform) (send : GiftSend) (state : GiftState) :
    Except SendFailure (GiftState × GiftSendEffects) :=
  match send.handler with
  | .audioRoom => onSendAudio platform send state
  | _ => .ok (state,
      { acceptedAmount := send.amounts.totalNum
        refundAmount := 0 })

def giftRow (send : GiftSend) (senderWalletTxnId : TransactionId)
    (receiverWalletTxnId : Option TransactionId) (receiverId : UserId) : GiftTransaction :=
  { id := if send.isBatch then send.rowId receiverId else send.txnId
    senderId := send.senderId
    receiverId := receiverId
    giftId := send.gift.id
    giftType := send.gift.type
    contextType := send.contextType
    contextId := send.contextId
    quantity := send.quantity
    comboTier := send.comboTier
    unitCoinValue := send.gift.coinValue
    totalCoinValue := send.amounts.perReceiver
    creatorEarnings := send.amounts.earningsNum
    cashbackAmount := send.amounts.availableBalanceCredited
    appliedEarningsPct := send.rules.earningsPercent.num
    appliedCashbackPct := send.rules.cashbackPercent.num
    luckyMultiplier := send.lucky.multiplier
    isLuckyWin := send.lucky.win
    idempotencyKey := send.ledgerKeyFor receiverId
    senderWalletTxnId := some senderWalletTxnId
    receiverWalletTxnId := receiverWalletTxnId }

/-- The percentages go into whole-number columns. -/
def GiftSend.WholePercentages (send : GiftSend) : Prop :=
  send.rules.earningsPercent.den = 1 ∧ send.rules.cashbackPercent.den = 1

instance (send : GiftSend) : Decidable send.WholePercentages :=
  inferInstanceAs (Decidable (_ ∧ _))

/-- `GiftRepository.createTransaction`. -/
def createTransaction (send : GiftSend) (row : GiftTransaction) (state : GiftState) :
    Except SendFailure GiftState :=
  if send.WholePercentages then
    match state.gifts.create row with
    | some gifts => .ok { state with gifts := gifts }
    | none => .error .uniqueConstraint
  else .error .invalidValue

/-- One round of the loop over the receivers. -/
def settleReceiver (platform : Platform) (send : GiftSend) (senderWalletTxnId : TransactionId)
    (state : GiftState) (receiverId : UserId) : Except SendFailure (GiftState × GiftTransaction) := do
  let (db, creditTxnId) ← bookCredit platform (send.earningsInput receiverId) state.db
  let (db, _) ← bookCredit platform (send.availableInput receiverId) db
  let row := giftRow send senderWalletTxnId creditTxnId receiverId
  let state ← createTransaction send row { state with db := db }
  .ok (state, row)

def settleReceivers (platform : Platform) (send : GiftSend) (senderWalletTxnId : TransactionId) :
    List UserId → GiftState → Except SendFailure (GiftState × List GiftTransaction)
  | [], state => .ok (state, [])
  | receiverId :: others, state => do
      let (state, row) ← settleReceiver platform send senderWalletTxnId state receiverId
      let (state, rows) ← settleReceivers platform send senderWalletTxnId others state
      .ok (state, row :: rows)

/-- Past the second look for a row of the first receiver. -/
def settle (platform : Platform) (send : GiftSend) (state : GiftState) :
    Except SendFailure (GiftState × List GiftTransaction) := do
  let (db, debit) ← book platform .debit send.debitInput state.db
  let (state, _) ← onSend platform send { state with db := db }
  settleReceivers platform send debit.transactionId send.receiverIds state

/-- Either the row that is there already, or new ones. -/
def transaction (platform : Platform) (send : GiftSend) (state : GiftState) :
    Except SendFailure (GiftState × List GiftTransaction) :=
  match state.gifts.find? (send.ledgerKeyFor send.firstReceiverId) with
  | some existingPrior => .ok (state, [existingPrior])
  | none => settle platform send state

/-! ### The call -/

def checkGift (surroundings : Surroundings) (gift : Gift) : Except SendFailure Unit :=
  if gift.enabled = false then
    .error (.business .giftDisabled "This gift is not available." 409)
  else if 0 < gift.minVipLevel ∧ surroundings.effectiveLevel < gift.minVipLevel then
    .error (.business .giftVipRestricted "This gift requires a higher VIP level." 403)
  else .ok ()

/-- The checks after the first look for a row. -/
def admission (surroundings : Surroundings) (send : GiftSend) : Except SendFailure Unit :=
  let maxReceivers := send.handler.maxReceivers
  if maxReceivers < send.receiverIds.length then
    .error (.business .giftTooManyReceivers
      s!"This context accepts at most {maxReceivers} recipient(s) per gift." 400)
  else
    match surroundings.refusal with
    | some message => .error (.context message)
    | none =>
        if surroundings.rateLimited then
          .error (.business .giftRateLimited "You are sending gifts too quickly." 429)
        else .ok ()

def giftSend (surroundings : Surroundings) (senderId : UserId) (dto : SendGiftBatchDto)
    (gift : Gift) (firstReceiverId : UserId) (otherReceiverIds : List UserId) : GiftSend :=
  { senderId := senderId
    firstReceiverId := firstReceiverId
    otherReceiverIds := otherReceiverIds
    gift := gift
    contextType := dto.contextType
    contextId := dto.contextId
    handler := handlerFor surroundings.videoMaxReceivers dto.contextType
    quantity := dto.quantity
    idempotencyKey :=
      if dto.idempotencyKey = "" then s!"gift:{surroundings.drawnKey}" else dto.idempotencyKey
    comboTier := if gift.comboEnabled then surroundings.comboTick else 1
    lucky := rollLucky gift surroundings.roll surroundings.pick
    rules := settlementRules surroundings.settings
    hostId := surroundings.hostId
    txnId := surroundings.txnId
    rowId := surroundings.rowId }

/-- The send that the request asks for; a repeated receiver counts once. -/
def sendOf (surroundings : Surroundings) (senderId : UserId) (dto : SendGiftBatchDto) :
    Except SendFailure GiftSend :=
  match dto.receiverIds.eraseDups with
  | [] => .error (.business .giftReceiverInvalid "A gift needs at least one recipient." 400)
  | firstReceiverId :: otherReceiverIds =>
      match surroundings.gift with
      | none => .error (.business .giftNotFound "Gift not found." 404)
      | some gift =>
          match checkGift surroundings gift with
          | .error failure => .error failure
          | .ok () => .ok (giftSend surroundings senderId dto gift firstReceiverId otherReceiverIds)

def sendGiftBatch (surroundings : Surroundings) (senderId : UserId) (dto : SendGiftBatchDto)
    (state : GiftState) : GiftState × Except SendFailure (List GiftTransaction) :=
  match sendOf surroundings senderId dto with
  | .error failure => (state, .error failure)
  | .ok send =>
      match state.gifts.find? (send.ledgerKeyFor send.firstReceiverId) with
      | some prior => (state, .ok [prior])
      | none =>
          match admission surroundings send with
          | .error failure => (state, .error failure)
          | .ok () =>
              match transaction surroundings.platform send state with
              | .error failure => (state, .error failure)
              | .ok (after, rows) => (after, .ok rows)

/-- A batch of one. -/
def sendGift (surroundings : Surroundings) (senderId : UserId) (dto : SendGiftDto)
    (state : GiftState) : GiftState × Except SendFailure (Option GiftTransaction) :=
  match sendGiftBatch surroundings senderId
    { giftId := dto.giftId
      receiverIds := [dto.receiverId]
      contextType := dto.contextType
      contextId := dto.contextId
      quantity := dto.quantity
      idempotencyKey := dto.idempotencyKey } state with
  | (after, .ok rows) => (after, .ok rows.head?)
  | (after, .error failure) => (after, .error failure)

end Soulzaa.Gifts
