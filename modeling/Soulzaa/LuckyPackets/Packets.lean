/-
Lucky packets: rows, claims and the expiry refund.

A claim and the refund of one packet run under the lock of the packet, so each is
one step.  The claim row and the packet row are written in one transaction, and the
wallet moves after it.
-/

import Soulzaa.Lib.KeyedRows
import Soulzaa.Lib.Runs
import Soulzaa.LuckyPackets.Shares
import Soulzaa.Wallet.Movement

namespace Soulzaa.LuckyPackets

abbrev PacketId := String
abbrev RoomId := String

inductive LuckyPacketStatus where
  | active
  | completed
  | expired
  | refunded
  deriving DecidableEq, Repr

structure LuckyPacket where
  id : PacketId
  roomId : RoomId
  creatorId : UserId
  currency : WalletCurrency := .gold
  totalCoins : Int
  winnerCount : Int
  distribution : LuckyPacketDistribution
  status : LuckyPacketStatus := .active
  remainingCoins : Int
  remainingSlots : Int
  debitTxnId : Option TransactionId := none
  /-- Milliseconds. -/
  expiresAt : Nat
  deriving DecidableEq, Repr

structure LuckyPacketClaim where
  packetId : PacketId
  userId : UserId
  amount : Int
  deriving DecidableEq, Repr

def LuckyPacketClaim.key (claim : LuckyPacketClaim) : PacketId × UserId :=
  (claim.packetId, claim.userId)

structure Tables where
  packets : List LuckyPacket
  claims : UniqueTable LuckyPacketClaim.key
  db : Db
  now : Nat

inductive LuckyPacketError where
  | invalidParams
  | roomEnded
  | notFound
  | expired
  | exhausted
  | alreadyClaimed
  /-- An awaited call has failed. -/
  | failed
  deriving DecidableEq, Repr

/-! ### Creation -/

structure CreateLuckyPacketDto where
  totalCoins : Int
  winnerCount : Int
  distribution : LuckyPacketDistribution
  currency : Option WalletCurrency := none
  expiresInSeconds : Nat
  idempotencyKey : Option String := none
  deriving DecidableEq, Repr

def luckyPacketMinWinners : Int := 1
def luckyPacketMaxWinners : Int := 200
def luckyPacketMinTotal : Int := 1
def luckyPacketMaxTotal : Int := 10000000
def luckyPacketMinExpirySeconds : Nat := 30
def luckyPacketMaxExpirySeconds : Nat := 24 * 60 * 60

/-- The bounds that the request class declares. -/
def CreateLuckyPacketDto.Valid (dto : CreateLuckyPacketDto) : Prop :=
  (luckyPacketMinTotal ≤ dto.totalCoins ∧ dto.totalCoins ≤ luckyPacketMaxTotal) ∧
    (luckyPacketMinWinners ≤ dto.winnerCount ∧ dto.winnerCount ≤ luckyPacketMaxWinners) ∧
      (luckyPacketMinExpirySeconds ≤ dto.expiresInSeconds ∧
        dto.expiresInSeconds ≤ luckyPacketMaxExpirySeconds) ∧
        ∀ key ∈ dto.idempotencyKey, 8 ≤ key.length ∧ key.length ≤ 100

instance (dto : CreateLuckyPacketDto) : Decidable dto.Valid :=
  inferInstanceAs (Decidable (_ ∧ _ ∧ _ ∧ _))

def createKey (tables : Tables) (creatorId : UserId) (roomId : RoomId)
    (dto : CreateLuckyPacketDto) : String :=
  match dto.idempotencyKey with
  | some key => s!"lucky:create:{creatorId}:{key}"
  | none => s!"lucky:create:{creatorId}:{roomId}:{dto.totalCoins}:{dto.winnerCount}:{tables.now}"

def createDebit (tables : Tables) (creatorId : UserId) (roomId : RoomId)
    (dto : CreateLuckyPacketDto) : WalletMovementInput :=
  { userId := creatorId
    currency := dto.currency.getD .gold
    amount := dto.totalCoins
    reason := .luckyPacketCreate
    idempotencyKey := createKey tables creatorId roomId dto
    referenceType := some "lucky_packet" }

def claimKey (packetId : PacketId) (userId : UserId) : String :=
  s!"lucky:claim:{packetId}:{userId}"

def claimCredit (packet : LuckyPacket) (userId : UserId) (amount : Int) : WalletMovementInput :=
  { userId := userId
    currency := packet.currency
    amount := amount
    reason := .luckyPacketClaim
    idempotencyKey := claimKey packet.id userId
    referenceType := some "lucky_packet"
    referenceId := some packet.id }

def refundKey (packetId : PacketId) : String := s!"lucky:refund:{packetId}"

def refundCredit (packet : LuckyPacket) (remaining : Int) : WalletMovementInput :=
  { userId := packet.creatorId
    currency := packet.currency
    amount := remaining
    reason := .luckyPacketRefund
    idempotencyKey := refundKey packet.id
    referenceType := some "lucky_packet"
    referenceId := some packet.id }

namespace LuckyPacketRepository

def findById (tables : Tables) (id : PacketId) : Option LuckyPacket :=
  KeyedRows.find LuckyPacket.id id tables.packets

/-- A taken id is refused, as a primary key is. -/
def create (tables : Tables) (packet : LuckyPacket) : Option Tables :=
  if packet.id ∈ tables.packets.map LuckyPacket.id then none
  else some { tables with packets := tables.packets ++ [packet] }

def claimed (amount : Int) (complete : Bool) (packet : LuckyPacket) : LuckyPacket :=
  { packet with
    remainingCoins := packet.remainingCoins - amount
    remainingSlots := packet.remainingSlots - 1
    status := if complete then .completed else packet.status }

def applyClaim (tables : Tables) (claim : LuckyPacketClaim) (complete : Bool) : Option Tables :=
  match tables.claims.create claim with
  | none => none
  | some claims =>
      some
        { tables with
          claims := claims
          packets :=
            KeyedRows.update LuckyPacket.id claim.packetId (claimed claim.amount complete)
              tables.packets }

def withStatus (status : LuckyPacketStatus) (packet : LuckyPacket) : LuckyPacket :=
  { packet with status := status }

def markStatus (tables : Tables) (id : PacketId) (status : LuckyPacketStatus) : Tables :=
  { tables with
    packets := KeyedRows.update LuckyPacket.id id (withStatus status) tables.packets }

end LuckyPacketRepository

namespace LuckyPacketService

open LuckyPacketRepository

/-- What the awaited calls come back with, as far as it is read. -/
structure CreateReply where
  isManager : Bool := true
  isRoomLive : Bool := true
  debitFails : Bool := false
  createFails : Bool := false
  newId : PacketId
  platform : Platform := Platform.normal

def create (tables : Tables) (reply : CreateReply) (creatorId : UserId) (roomId : RoomId)
    (dto : CreateLuckyPacketDto) : Tables × Except LuckyPacketError LuckyPacket :=
  if ¬dto.Valid then (tables, .error .invalidParams)
  else if !reply.isManager then (tables, .error .failed)
  else if !reply.isRoomLive then (tables, .error .roomEnded)
  else if dto.totalCoins < dto.winnerCount then (tables, .error .invalidParams)
  else if reply.debitFails then (tables, .error .failed)
  else
    match WalletService.debit reply.platform tables.db
      (createDebit tables creatorId roomId dto) with
    | (db, .error _) => ({ tables with db := db }, .error .failed)
    | (db, .ok debit) =>
        let debited := { tables with db := db }
        let packet : LuckyPacket :=
          { id := reply.newId
            roomId := roomId
            creatorId := creatorId
            currency := dto.currency.getD .gold
            totalCoins := dto.totalCoins
            winnerCount := dto.winnerCount
            distribution := dto.distribution
            remainingCoins := dto.totalCoins
            remainingSlots := dto.winnerCount
            debitTxnId := some debit.transactionId
            expiresAt := tables.now + dto.expiresInSeconds * 1000 }
        if reply.createFails then (debited, .error .failed)
        else
          match LuckyPacketRepository.create debited packet with
          | none => (debited, .error .failed)
          | some created => (created, .ok packet)

structure ClaimReply where
  isMember : Bool := true
  /-- What `randomInt` draws from. -/
  draw : Nat := 0
  applyFails : Bool := false
  creditFails : Bool := false
  setClaimTxnFails : Bool := false
  platform : Platform := Platform.normal

structure ClaimResult where
  packetId : PacketId
  amount : Int
  currency : WalletCurrency
  balanceAfter : Int
  remainingSlots : Int
  remainingCoins : Int
  completed : Bool
  deriving DecidableEq, Repr

def claimInput (packet : LuckyPacket) : ClaimAmountInput :=
  { distribution := packet.distribution
    totalCoins := toNumber packet.totalCoins
    winnerCount := packet.winnerCount
    remainingCoins := toNumber packet.remainingCoins
    remainingSlots := packet.remainingSlots }

/-- The checks under the lock. -/
def claimable (tables : Tables) (roomId : RoomId) (packetId : PacketId) :
    Except LuckyPacketError LuckyPacket :=
  match findById tables packetId with
  | none => .error .notFound
  | some packet =>
      if packet.roomId ≠ roomId then .error .notFound
      else if packet.status = .expired ∨ packet.status = .refunded then .error .expired
      else if packet.status ≠ .active ∨ packet.remainingSlots ≤ 0 then .error .exhausted
      else if packet.expiresAt ≤ tables.now then .error .expired
      else .ok packet

/-- The wallet moves, once the claim is recorded. -/
def payClaim (tables : Tables) (reply : ClaimReply) (packet : LuckyPacket) (userId : UserId)
    (amount : Int) : Tables × Except LuckyPacketError ClaimResult :=
  if reply.creditFails then (tables, .error .failed)
  else
    match WalletService.credit reply.platform tables.db (claimCredit packet userId amount) with
    | (db, .error _) => ({ tables with db := db }, .error .failed)
    | (db, .ok credit) =>
        let paid := { tables with db := db }
        if reply.setClaimTxnFails then (paid, .error .failed)
        else
          let complete := decide (packet.remainingSlots ≤ 1)
          let applied := claimed amount complete packet
          (paid, .ok
            { packetId := packet.id
              amount := amount
              currency := packet.currency
              balanceAfter := credit.balanceAfter
              remainingSlots := applied.remainingSlots
              remainingCoins := toNumber applied.remainingCoins
              completed := applied.status = .completed })

def claim (tables : Tables) (reply : ClaimReply) (userId : UserId) (roomId : RoomId)
    (packetId : PacketId) : Tables × Except LuckyPacketError ClaimResult :=
  if !reply.isMember then (tables, .error .failed)
  else
    match claimable tables roomId packetId with
    | .error error => (tables, .error error)
    | .ok packet =>
        let amount := computeClaimAmount (claimInput packet) reply.draw
        let complete := decide (packet.remainingSlots ≤ 1)
        let row : LuckyPacketClaim :=
          { packetId := packetId
            userId := userId
            amount := amount }
        if reply.applyFails then (tables, .error .failed)
        else
          match applyClaim tables row complete with
          | none => (tables, .error .alreadyClaimed)
          | some applied => payClaim applied reply packet userId amount

structure RefundReply where
  creditFails : Bool := false
  markStatusFails : Bool := false
  platform : Platform := Platform.normal

/-- The credit of what remains; nothing is due where nothing remains. -/
def refundRemaining (db : Db) (reply : RefundReply) (packet : LuckyPacket) (remaining : Int) :
    Option Db :=
  if 0 < remaining then
    if reply.creditFails then none
    else
      match WalletService.credit reply.platform db (refundCredit packet remaining) with
      | (_, .error _) => none
      | (db, .ok _) => some db
  else some db

/-- `refundExpired`, for one of the packets it has found. -/
def refundExpired (tables : Tables) (reply : RefundReply) (packetId : PacketId) : Tables :=
  match findById tables packetId with
  | none => tables
  | some fresh =>
      if fresh.status ≠ .active then tables
      else if tables.now < fresh.expiresAt then tables
      else
        let remaining := toNumber fresh.remainingCoins
        match refundRemaining tables.db reply fresh remaining with
        | none => tables
        | some db =>
            let credited := { tables with db := db }
            if reply.markStatusFails then credited
            else markStatus credited packetId (if 0 < remaining then .refunded else .expired)

end LuckyPacketService

/-! ### Runs -/

inductive PacketEvent where
  | create (reply : LuckyPacketService.CreateReply) (creatorId : UserId) (roomId : RoomId)
      (dto : CreateLuckyPacketDto)
  | claim (reply : LuckyPacketService.ClaimReply) (userId : UserId) (roomId : RoomId)
      (packetId : PacketId)
  | refundExpired (reply : LuckyPacketService.RefundReply) (packetId : PacketId)
  | pass (milliseconds : Nat)

def step (tables : Tables) : PacketEvent → Tables
  | .create reply creatorId roomId dto =>
      (LuckyPacketService.create tables reply creatorId roomId dto).1
  | .claim reply userId roomId packetId =>
      (LuckyPacketService.claim tables reply userId roomId packetId).1
  | .refundExpired reply packetId => LuckyPacketService.refundExpired tables reply packetId
  | .pass milliseconds => { tables with now := tables.now + milliseconds }

end Soulzaa.LuckyPackets
