/-
The coins of a packet.  What was claimed and what remains make up the total, a
complete packet has given everything away, and an expired one has given the rest
back to its creator.
-/

import Soulzaa.LuckyPackets.Packets

namespace Soulzaa.LuckyPackets

open LuckyPacketRepository LuckyPacketService

/-! ### Refunds -/

def isRefundOf (id : PacketId) (entry : LedgerEntry) : Bool :=
  entry.reason = .luckyPacketRefund ∧ entry.referenceId = some id

def refundRows (db : Db) (id : PacketId) : List LedgerEntry := db.ledger.filter (isRefundOf id)

/-- The refund of the packet is the same before and after. -/
structure SameRefund (before after : Db) (id : PacketId) : Prop where
  rows : refundRows after id = refundRows before id
  key : after.transactions.Absent (refundKey id) ↔ before.transactions.Absent (refundKey id)

theorem claimKey_eq (packetId : PacketId) (userId : UserId) :
    claimKey packetId userId = "lucky:claim:" ++ packetId ++ ":" ++ userId := rfl

theorem refundKey_eq (packetId : PacketId) : refundKey packetId = "lucky:refund:" ++ packetId :=
  rfl

theorem refundKey_injective : Function.Injective refundKey := by
  intro first second same
  rw [refundKey_eq, refundKey_eq, String.append_right_inj] at same
  exact same

theorem claimKey_ne_refundKey (packetId other : PacketId) (userId : UserId) :
    claimKey packetId userId ≠ refundKey other := by
  rw [claimKey_eq, refundKey_eq]
  intro same
  have spelled := congrArg String.toList same
  simp at spelled

theorem createKey_ne_refundKey (tables : Tables) (creatorId : UserId) (roomId : RoomId)
    (dto : CreateLuckyPacketDto) (other : PacketId) :
    createKey tables creatorId roomId dto ≠ refundKey other := by
  obtain ⟨rest, isCreate⟩ : ∃ rest, createKey tables creatorId roomId dto =
      "lucky:create:" ++ rest := by
    unfold createKey
    simp only [String.append_assoc]
    split
    · exact ⟨_, rfl⟩
    · exact ⟨_, rfl⟩
  rw [isCreate, refundKey_eq]
  intro same
  have spelled := congrArg String.toList same
  simp at spelled

/-- A movement under another key and for another cause leaves the refund. -/
theorem sameRefund_of_move {platform : Platform} {db after : Db} {type : WalletEntryType}
    {input : WalletMovementInput} {result : Except Failure WalletMovementResult}
    (moved : WalletService.move platform db type input = (after, result)) {id : PacketId}
    (cause : input.reason ≠ .luckyPacketRefund ∨ input.referenceId ≠ some id)
    (otherKey : input.idempotencyKey ≠ refundKey id) : SameRefund db after id := by
  have unselected : ∀ entry, WalletService.IsCausedBy input entry →
      isRefundOf id entry = false := by
    intro entry causedBy
    unfold isRefundOf
    rw [causedBy.reason, causedBy.referenceId, decide_eq_false_iff_not, not_and_or]
    exact cause
  obtain ⟨rows, key⟩ := WalletService.leaves_of_move moved otherKey unselected
  exact ⟨rows, key⟩

/-! ### The invariant -/

/-- A packet as it is created, of at most what a number holds exactly. -/
structure LuckyPacket.Fresh (packet : LuckyPacket) : Prop where
  active : packet.status = .active
  coins : packet.remainingCoins = packet.totalCoins
  slots : packet.remainingSlots = packet.winnerCount
  winners : 1 ≤ packet.winnerCount
  enough : packet.winnerCount ≤ packet.totalCoins
  exact : packet.totalCoins < Binary64.exactLimit

/-- The numbers of a claim, before they are rounded. -/
def LuckyPacket.shares (packet : LuckyPacket) : ClaimAmountInput :=
  { distribution := packet.distribution
    totalCoins := packet.totalCoins
    winnerCount := packet.winnerCount
    remainingCoins := packet.remainingCoins
    remainingSlots := packet.remainingSlots }

namespace Tables

def claimsOf (tables : Tables) (id : PacketId) : List LuckyPacketClaim :=
  tables.claims.rows.filter fun claim => claim.packetId = id

def claimedCoins (tables : Tables) (id : PacketId) : Int :=
  ((tables.claimsOf id).map LuckyPacketClaim.amount).sum

/-- What the refund has credited to the creator. -/
def refundedCoins (tables : Tables) (packet : LuckyPacket) : Int :=
  (((refundRows tables.db packet.id).filter fun entry =>
    entry.type = .credit ∧ entry.walletId = packet.creatorId ∧
      entry.currency = packet.currency).map LedgerEntry.amount).sum

structure Unrefunded (tables : Tables) (id : PacketId) : Prop where
  rows : refundRows tables.db id = []
  key : tables.db.transactions.Absent (refundKey id)

/-- What remains has been credited to the creator, once. -/
structure Refunded (tables : Tables) (packet : LuckyPacket) : Prop where
  coins : tables.refundedCoins packet = packet.remainingCoins
  key : ¬tables.db.transactions.Absent (refundKey packet.id)

/-- An open packet covers its slots; its refund may have been credited without the
status that records it, once it has expired. -/
def Standing (tables : Tables) (packet : LuckyPacket) : Prop :=
  match packet.status with
  | .active =>
      Covered packet.shares ∧
        (tables.Unrefunded packet.id ∨
          tables.Refunded packet ∧ packet.expiresAt ≤ tables.now)
  | .completed => packet.remainingCoins = 0 ∧ packet.remainingSlots = 0
  | .refunded => 1 ≤ packet.remainingSlots ∧ tables.Refunded packet
  | .expired => False

structure Sound (tables : Tables) (packet : LuckyPacket) : Prop where
  positive : ∀ claim ∈ tables.claimsOf packet.id, 1 ≤ claim.amount
  conserved : tables.claimedCoins packet.id + packet.remainingCoins = packet.totalCoins
  slots : (tables.claimsOf packet.id).length + packet.remainingSlots = packet.winnerCount
  standing : tables.Standing packet

/-- Ids that no packet has yet have no claims and no refund. -/
structure Regular (tables : Tables) : Prop where
  distinct : (tables.packets.map LuckyPacket.id).Nodup
  sound : ∀ packet ∈ tables.packets, tables.Sound packet
  unused : ∀ id, id ∉ tables.packets.map LuckyPacket.id →
    tables.claimsOf id = [] ∧ tables.Unrefunded id

end Tables

variable {tables after : Tables}

theorem standing_of_same {packet : LuckyPacket} (standing : tables.Standing packet)
    (same : SameRefund tables.db after.db packet.id) (later : tables.now ≤ after.now) :
    after.Standing packet := by
  have unrefunded : tables.Unrefunded packet.id → after.Unrefunded packet.id :=
    fun none => ⟨same.rows.trans none.rows, same.key.mpr none.key⟩
  have refunded : tables.Refunded packet → after.Refunded packet := by
    rintro ⟨coins, key⟩
    refine ⟨?_, fun absent => key (same.key.mp absent)⟩
    unfold Tables.refundedCoins at coins ⊢
    rw [same.rows, coins]
  unfold Tables.Standing at standing ⊢
  split at standing
  · obtain ⟨covered, none | ⟨paid, past⟩⟩ := standing
    · exact ⟨covered, Or.inl (unrefunded none)⟩
    · exact ⟨covered, Or.inr ⟨refunded paid, past.trans later⟩⟩
  · exact standing
  · exact ⟨standing.1, refunded standing.2⟩
  · exact standing

theorem sound_of_same {packet : LuckyPacket} (sound : tables.Sound packet)
    (claims : after.claimsOf packet.id = tables.claimsOf packet.id)
    (same : SameRefund tables.db after.db packet.id) (later : tables.now ≤ after.now) :
    after.Sound packet where
  positive := by
    rw [claims]
    exact sound.positive
  conserved := by
    unfold Tables.claimedCoins
    rw [claims]
    exact sound.conserved
  slots := by
    rw [claims]
    exact sound.slots
  standing := standing_of_same sound.standing same later

/-! ### Creation -/

theorem sameRefund_refl (db : Db) (id : PacketId) : SameRefund db db id :=
  ⟨rfl, Iff.rfl⟩

theorem fresh_of_valid {dto : CreateLuckyPacketDto} (valid : dto.Valid)
    (enough : dto.winnerCount ≤ dto.totalCoins) {packet : LuckyPacket}
    (active : packet.status = .active) (total : packet.totalCoins = dto.totalCoins)
    (winners : packet.winnerCount = dto.winnerCount)
    (coins : packet.remainingCoins = dto.totalCoins)
    (slots : packet.remainingSlots = dto.winnerCount) : packet.Fresh := by
  obtain ⟨⟨_, most⟩, ⟨least, _⟩, _⟩ := valid
  unfold luckyPacketMaxTotal at most
  unfold luckyPacketMinWinners at least
  have limit : (10000000 : Int) < Binary64.exactLimit := by decide
  exact ⟨active, coins.trans total.symm, slots.trans winners.symm, winners ▸ least,
    by rw [winners, total]; exact enough, by rw [total]; omega⟩

/-- What a creation can do. -/
theorem create_cases (tables : Tables) (reply : CreateReply) (creatorId : UserId)
    (roomId : RoomId) (dto : CreateLuckyPacketDto) :
    ∃ db, (∀ id, SameRefund tables.db db id) ∧
      ((create tables reply creatorId roomId dto).1 = { tables with db := db } ∨
        ∃ packet : LuckyPacket, packet.Fresh ∧ packet.id ∉ tables.packets.map LuckyPacket.id ∧
          (create tables reply creatorId roomId dto).1 =
            { tables with
              db := db
              packets := tables.packets ++ [packet] }) := by
  unfold LuckyPacketService.create
  split
  · exact ⟨tables.db, sameRefund_refl tables.db, Or.inl rfl⟩
  · rename_i valid
    have valid := Decidable.of_not_not valid
    split
    · exact ⟨tables.db, sameRefund_refl tables.db, Or.inl rfl⟩
    split
    · exact ⟨tables.db, sameRefund_refl tables.db, Or.inl rfl⟩
    split
    · exact ⟨tables.db, sameRefund_refl tables.db, Or.inl rfl⟩
    rename_i enough
    split
    · exact ⟨tables.db, sameRefund_refl tables.db, Or.inl rfl⟩
    have sameRefund : ∀ {db result}, WalletService.debit reply.platform tables.db
        (createDebit tables creatorId roomId dto) = (db, result) →
          ∀ id, SameRefund tables.db db id := by
      intro db result moved id
      exact sameRefund_of_move moved (Or.inl WalletTxnReason.noConfusion)
        (createKey_ne_refundKey tables creatorId roomId dto id)
    split
    · rename_i moved
      exact ⟨_, sameRefund moved, Or.inl rfl⟩
    · rename_i moved
      refine ⟨_, sameRefund moved, ?_⟩
      split
      · exact Or.inl rfl
      · dsimp only
        split
        · exact Or.inl rfl
        · rename_i created
          unfold LuckyPacketRepository.create at created
          split at created
          · cases created
          · rename_i unused
            cases created
            refine Or.inr ⟨_, ?_, unused, rfl⟩
            exact fresh_of_valid valid (Int.not_lt.mp enough) rfl rfl rfl rfl rfl

theorem covered_of_fresh {packet : LuckyPacket} (fresh : packet.Fresh) :
    Covered packet.shares := by
  obtain ⟨_, coins, slots, winners, enough, exact⟩ := fresh
  unfold LuckyPacket.shares
  rw [coins, slots]
  exact covered_of_opening packet.distribution winners enough exact

theorem sound_of_fresh {packet : LuckyPacket} (fresh : packet.Fresh)
    (claims : tables.claimsOf packet.id = []) (unrefunded : tables.Unrefunded packet.id) :
    tables.Sound packet where
  positive := by
    rw [claims]
    exact List.forall_mem_nil _
  conserved := by
    unfold Tables.claimedCoins
    rw [claims, fresh.coins]
    exact zero_add _
  slots := by
    rw [claims, fresh.slots]
    exact zero_add _
  standing := by
    unfold Tables.Standing
    rw [fresh.active]
    exact ⟨covered_of_fresh fresh, Or.inl unrefunded⟩

/-- A step that changes no packet and no claim. -/
theorem regular_of_same (regular : tables.Regular) (packets : after.packets = tables.packets)
    (claims : after.claims = tables.claims) (same : ∀ id, SameRefund tables.db after.db id)
    (later : tables.now ≤ after.now) : after.Regular := by
  have sameClaims : ∀ id, after.claimsOf id = tables.claimsOf id := by
    intro id
    unfold Tables.claimsOf
    rw [claims]
  constructor
  · rw [packets]
    exact regular.distinct
  · intro packet member
    rw [packets] at member
    exact sound_of_same (regular.sound packet member) (sameClaims packet.id) (same packet.id) later
  · intro id unused
    rw [packets] at unused
    obtain ⟨none, unrefunded⟩ := regular.unused id unused
    exact ⟨(sameClaims id).trans none,
      ⟨(same id).rows.trans unrefunded.rows, (same id).key.mpr unrefunded.key⟩⟩

theorem regular_of_created (regular : tables.Regular) {packet : LuckyPacket}
    (fresh : packet.Fresh) (unused : packet.id ∉ tables.packets.map LuckyPacket.id) :
    ({ tables with packets := tables.packets ++ [packet] } : Tables).Regular where
  distinct := by
    rw [List.map_append, List.map_singleton]
    exact List.Nodup.append regular.distinct (List.nodup_singleton _)
      (List.disjoint_singleton.mpr unused)
  sound := by
    intro other member
    rcases List.mem_append.mp member with earlier | new
    · exact sound_of_same (regular.sound other earlier) rfl (sameRefund_refl _ _) (le_refl _)
    · rw [List.mem_singleton.mp new]
      obtain ⟨none, unrefunded⟩ := regular.unused packet.id unused
      exact sound_of_fresh fresh none ⟨unrefunded.rows, unrefunded.key⟩
  unused := by
    intro id absent
    rw [List.map_append, List.mem_append, not_or] at absent
    obtain ⟨none, unrefunded⟩ := regular.unused id absent.1
    exact ⟨none, ⟨unrefunded.rows, unrefunded.key⟩⟩

theorem regular_create (regular : tables.Regular) (reply : CreateReply) (creatorId : UserId)
    (roomId : RoomId) (dto : CreateLuckyPacketDto) :
    (create tables reply creatorId roomId dto).1.Regular := by
  obtain ⟨db, same, isDebited | ⟨packet, fresh, unused, isCreated⟩⟩ :=
    create_cases tables reply creatorId roomId dto
  · rw [isDebited]
    exact regular_of_same regular rfl rfl same (le_refl _)
  · rw [isCreated]
    have debited : ({ tables with db := db } : Tables).Regular :=
      regular_of_same regular rfl rfl same (le_refl _)
    exact regular_of_created debited fresh unused

/-! ### Claims -/

theorem claimable_eq_ok {roomId : RoomId} {packetId : PacketId} {packet : LuckyPacket}
    (isClaimable : claimable tables roomId packetId = .ok packet) :
    findById tables packetId = some packet ∧ packet.status = .active ∧
      tables.now < packet.expiresAt := by
  unfold claimable at isClaimable
  split at isClaimable
  · cases isClaimable
  · rename_i found
    repeat' split at isClaimable
    all_goals cases isClaimable
    rename_i active unexpired
    rw [not_or, not_not] at active
    exact ⟨found, active.1, Nat.lt_of_not_le unexpired⟩

/-- The wallet movement of a claim leaves every refund. -/
theorem payClaim_cases (tables : Tables) (reply : ClaimReply) (packet : LuckyPacket)
    (userId : UserId) (amount : Int) :
    ∃ db, (∀ id, SameRefund tables.db db id) ∧
      (payClaim tables reply packet userId amount).1 = { tables with db := db } := by
  have sameRefund : ∀ {db result}, WalletService.credit reply.platform tables.db
      (claimCredit packet userId amount) = (db, result) → ∀ id, SameRefund tables.db db id := by
    intro db result moved id
    exact sameRefund_of_move moved (Or.inl WalletTxnReason.noConfusion)
      (claimKey_ne_refundKey packet.id id userId)
  unfold payClaim
  split
  · exact ⟨tables.db, sameRefund_refl tables.db, rfl⟩
  · split
    · rename_i moved
      exact ⟨_, sameRefund moved, rfl⟩
    · rename_i moved
      refine ⟨_, sameRefund moved, ?_⟩
      dsimp only
      split <;> rfl

/-- What a claim can do. -/
theorem claim_cases (tables : Tables) (reply : ClaimReply) (userId : UserId) (roomId : RoomId)
    (packetId : PacketId) :
    (claim tables reply userId roomId packetId).1 = tables ∨
      ∃ (packet : LuckyPacket) (applied : Tables),
        (findById tables packetId = some packet ∧ packet.status = .active ∧
          tables.now < packet.expiresAt) ∧
        applyClaim tables
          { packetId := packetId
            userId := userId
            amount := computeClaimAmount (claimInput packet) reply.draw }
          (decide (packet.remainingSlots ≤ 1)) = some applied ∧
        (claim tables reply userId roomId packetId).1 =
          (payClaim applied reply packet userId
            (computeClaimAmount (claimInput packet) reply.draw)).1 := by
  unfold claim
  split
  · exact Or.inl rfl
  split
  · exact Or.inl rfl
  rename_i packet isClaimable
  dsimp only
  split
  · exact Or.inl rfl
  split
  · exact Or.inl rfl
  · rename_i applied isApplied
    exact Or.inr ⟨packet, applied, claimable_eq_ok isClaimable, isApplied, rfl⟩

theorem keepsKey_claimed (amount : Int) (complete : Bool) :
    KeyedRows.KeepsKey LuckyPacket.id (claimed amount complete) := fun _ => rfl

theorem keepsKey_withStatus (status : LuckyPacketStatus) :
    KeyedRows.KeepsKey LuckyPacket.id (withStatus status) := fun _ => rfl

theorem claimsOf_append {claim : LuckyPacketClaim}
    (rows : after.claims.rows = tables.claims.rows ++ [claim]) (id : PacketId) :
    after.claimsOf id = tables.claimsOf id ++ if claim.packetId = id then [claim] else [] := by
  unfold Tables.claimsOf
  rw [rows, List.filter_append]
  by_cases isFor : claim.packetId = id
  · simp [isFor]
  · simp [isFor]

theorem toNumber_eq {value : Int} (nonnegative : 0 ≤ value) (small : value < Binary64.exactLimit) :
    toNumber value = value :=
  Binary64.round_eq_self (by omega)

/-- The coins of a covered packet are numbers exactly. -/
theorem claimInput_eq {packet : LuckyPacket} (covered : Covered packet.shares) :
    claimInput packet = packet.shares := by
  obtain ⟨_, isOpen, _, covers, within, exact, _⟩ := covered
  unfold LuckyPacket.shares at isOpen covers within exact
  dsimp only at isOpen covers within exact
  unfold claimInput LuckyPacket.shares
  rw [toNumber_eq (by omega) exact, toNumber_eq (by omega) (by omega)]

/-- A step that leaves every packet but one, with its claims and its refund. -/
theorem regular_of_own (regular : tables.Regular) {packet : LuckyPacket}
    (found : findById tables packet.id = some packet)
    (sameIds : after.packets.map LuckyPacket.id = tables.packets.map LuckyPacket.id)
    (own : ∀ row ∈ after.packets, row.id = packet.id → after.Sound row)
    (kept : ∀ row ∈ after.packets, row.id ≠ packet.id → row ∈ tables.packets)
    (others : ∀ id, id ≠ packet.id →
      after.claimsOf id = tables.claimsOf id ∧ SameRefund tables.db after.db id)
    (later : tables.now ≤ after.now) : after.Regular := by
  constructor
  · rw [sameIds]
    exact regular.distinct
  · intro row member
    by_cases same : row.id = packet.id
    · exact own row member same
    · obtain ⟨claims, refund⟩ := others row.id same
      exact sound_of_same (regular.sound row (kept row member same)) claims refund later
  · intro id unused
    rw [sameIds] at unused
    have different : id ≠ packet.id := by
      intro same
      exact unused (same ▸ List.mem_map_of_mem (KeyedRows.mem_of_find found))
    obtain ⟨claims, refund⟩ := others id different
    obtain ⟨none, unrefunded⟩ := regular.unused id unused
    exact ⟨claims.trans none,
      ⟨refund.rows.trans unrefunded.rows, refund.key.mpr unrefunded.key⟩⟩

theorem eq_of_id (regular : tables.Regular) {packet row : LuckyPacket}
    (found : findById tables packet.id = some packet) (member : row ∈ tables.packets)
    (same : row.id = packet.id) : row = packet := by
  have byId := KeyedRows.find_of_mem regular.distinct member
  rw [same] at byId
  exact Option.some_inj.mp (byId.symm.trans found)

theorem regular_of_updated (regular : tables.Regular) {packet : LuckyPacket}
    {change : LuckyPacket → LuckyPacket} (keeps : KeyedRows.KeepsKey LuckyPacket.id change)
    (found : findById tables packet.id = some packet)
    (packets : after.packets = KeyedRows.update LuckyPacket.id packet.id change tables.packets)
    (own : after.Sound (change packet))
    (others : ∀ id, id ≠ packet.id →
      after.claimsOf id = tables.claimsOf id ∧ SameRefund tables.db after.db id)
    (later : tables.now ≤ after.now) : after.Regular := by
  apply regular_of_own regular found _ _ _ others later
  · rw [packets, KeyedRows.keys_update keeps]
  · intro row member same
    rw [packets] at member
    obtain ⟨before, inside, rfl⟩ := KeyedRows.mem_update member
    rw [keeps.written] at same
    rw [if_pos same, eq_of_id regular found inside same]
    exact own
  · intro row member different
    rw [packets] at member
    obtain ⟨before, inside, rfl⟩ := KeyedRows.mem_update member
    rw [keeps.written] at different
    rw [if_neg different]
    exact inside

theorem sound_of_claimed {packet : LuckyPacket} (sound : tables.Sound packet)
    (active : packet.status = .active) (unexpired : tables.now < packet.expiresAt)
    {userId : UserId} {draw : Nat}
    (rows : after.claims.rows = tables.claims.rows ++
      [{ packetId := packet.id
         userId := userId
         amount := computeClaimAmount (claimInput packet) draw }])
    (db : after.db = tables.db) :
    after.Sound (claimed (computeClaimAmount (claimInput packet) draw)
      (decide (packet.remainingSlots ≤ 1)) packet) := by
  obtain ⟨positive, conserved, slots, standing⟩ := sound
  unfold Tables.Standing at standing
  rw [active] at standing
  obtain ⟨covered, unrefunded⟩ := standing
  rw [claimInput_eq covered] at rows ⊢
  have claims := claimsOf_append rows packet.id
  rw [if_pos rfl] at claims
  -- The last slot takes what remains, and before it every other slot stays covered.
  have share : 1 ≤ computeClaimAmount packet.shares draw ∧
      after.Standing (claimed (computeClaimAmount packet.shares draw)
        (decide (packet.remainingSlots ≤ 1)) packet) := by
    by_cases last : packet.remainingSlots ≤ 1
    · have isOpen : 1 ≤ packet.remainingSlots := covered.isOpen
      have covers : packet.remainingSlots ≤ packet.remainingCoins := covered.covers
      rw [computeClaimAmount_last last, decide_eq_true last]
      refine ⟨isOpen.trans covers, ?_⟩
      have none : packet.remainingCoins - packet.remainingCoins = 0 := Int.sub_self _
      have full : packet.remainingSlots - 1 = 0 := by omega
      exact ⟨none, full⟩
    · obtain ⟨least, next⟩ := covered_of_claim covered (Int.not_le.mp last) draw
      rw [decide_eq_false last]
      refine ⟨least, ?_⟩
      unfold Tables.Standing claimed
      dsimp only
      rw [if_neg (by decide), active]
      refine ⟨next, Or.inl ?_⟩
      rcases unrefunded with none | ⟨_, past⟩
      · exact ⟨db ▸ none.rows, db ▸ none.key⟩
      · omega
  constructor
  · intro claim member
    rw [show (claimed _ _ packet).id = packet.id from rfl, claims] at member
    rcases List.mem_append.mp member with earlier | new
    · exact positive claim earlier
    · rw [List.mem_singleton.mp new]
      exact share.1
  · unfold Tables.claimedCoins at conserved ⊢
    rw [show (claimed _ _ packet).id = packet.id from rfl, claims, List.map_append,
      List.sum_append, List.map_singleton, List.sum_singleton]
    unfold claimed
    dsimp only
    omega
  · rw [show (claimed _ _ packet).id = packet.id from rfl, claims, List.length_append,
      List.length_singleton]
    unfold claimed
    dsimp only
    omega
  · exact share.2

theorem regular_of_applied (regular : tables.Regular) {packet : LuckyPacket} {userId : UserId}
    {draw : Nat} (found : findById tables packet.id = some packet)
    (active : packet.status = .active) (unexpired : tables.now < packet.expiresAt)
    (isApplied : applyClaim tables
      { packetId := packet.id
        userId := userId
        amount := computeClaimAmount (claimInput packet) draw }
      (decide (packet.remainingSlots ≤ 1)) = some after) : after.Regular := by
  unfold applyClaim at isApplied
  split at isApplied
  · cases isApplied
  · rename_i claims stored
    cases isApplied
    have rows := (UniqueTable.rows_of_create stored).2
    apply regular_of_updated regular (keepsKey_claimed _ _) found rfl
    · exact sound_of_claimed (regular.sound packet (KeyedRows.mem_of_find found)) active unexpired
        rows rfl
    · intro id different
      refine ⟨?_, sameRefund_refl _ _⟩
      rw [claimsOf_append rows, if_neg (Ne.symm different), List.append_nil]
    · exact le_refl _

theorem regular_claim (regular : tables.Regular) (reply : ClaimReply) (userId : UserId)
    (roomId : RoomId) (packetId : PacketId) :
    (claim tables reply userId roomId packetId).1.Regular := by
  rcases claim_cases tables reply userId roomId packetId with
    isSame | ⟨packet, applied, ⟨found, active, unexpired⟩, isApplied, isClaimed⟩
  · rw [isSame]
    exact regular
  · obtain ⟨db, same, isPaid⟩ := payClaim_cases applied reply packet userId
      (computeClaimAmount (claimInput packet) reply.draw)
    rw [isClaimed, isPaid]
    have isFor := KeyedRows.key_of_find found
    subst isFor
    exact regular_of_same (regular_of_applied regular found active unexpired isApplied) rfl rfl
      same (le_refl _)

/-! ### Expiry -/

/-- Crediting what remains leaves the refund credited once, and no other refund. -/
theorem refunded_of_refundRemaining {packet : LuckyPacket} {db : Db} {reply : RefundReply}
    (credited : refundRemaining tables.db reply packet packet.remainingCoins = some db)
    (positive : 0 < packet.remainingCoins)
    (standing : tables.Unrefunded packet.id ∨ tables.Refunded packet) :
    ({ tables with db := db } : Tables).Refunded packet ∧
      ∀ id, id ≠ packet.id → SameRefund tables.db db id := by
  unfold refundRemaining at credited
  rw [if_pos positive] at credited
  split at credited
  · cases credited
  split at credited
  · cases credited
  rename_i db _ moved
  cases credited
  refine ⟨?_, ?_⟩
  · rcases standing with none | paid
    · have selected : ∀ entry,
          WalletService.IsMovementOf .credit (refundCredit packet packet.remainingCoins) entry →
            isRefundOf packet.id entry = true :=
        fun entry isRefund => decide_eq_true ⟨isRefund.reason, isRefund.referenceId⟩
      obtain ⟨taken, entry, isRefund, rows⟩ :=
        WalletService.row_of_move_ok moved none.key selected
      refine ⟨?_, taken⟩
      unfold Tables.refundedCoins refundRows
      dsimp only
      rw [rows, show List.filter _ tables.db.ledger = [] from none.rows]
      simp [isRefund.type, isRefund.walletId, isRefund.currency, isRefund.amount, refundCredit]
    · -- The key is taken, so the wallet answers with the earlier refund.
      rw [WalletService.unmoved_of_taken moved paid.key]
      exact ⟨paid.coins, paid.key⟩
  · intro id different
    exact sameRefund_of_move moved (Or.inr fun same => different (Option.some_inj.mp same).symm)
      fun same => different (refundKey_injective same).symm

theorem sound_withStatus {packet : LuckyPacket} (sound : tables.Sound packet)
    (claims : after.claims = tables.claims) {status : LuckyPacketStatus}
    (standing : after.Standing (withStatus status packet)) :
    after.Sound (withStatus status packet) := by
  have same : after.claimsOf packet.id = tables.claimsOf packet.id := by
    unfold Tables.claimsOf
    rw [claims]
  refine ⟨?_, ?_, ?_, standing⟩
  · exact same ▸ sound.positive
  · unfold Tables.claimedCoins
    exact same ▸ sound.conserved
  · exact same ▸ sound.slots

theorem regular_refundExpired (regular : tables.Regular) (reply : RefundReply)
    (packetId : PacketId) : (refundExpired tables reply packetId).Regular := by
  unfold refundExpired
  split
  · exact regular
  rename_i fresh found
  split
  · exact regular
  rename_i active
  split
  · exact regular
  rename_i past
  have active := Decidable.of_not_not active
  have isFor := KeyedRows.key_of_find found
  subst isFor
  have sound := regular.sound fresh (KeyedRows.mem_of_find found)
  have standing := sound.standing
  unfold Tables.Standing at standing
  rw [active] at standing
  obtain ⟨covered, refund⟩ := standing
  have isOpen : 1 ≤ fresh.remainingSlots := covered.isOpen
  have covers : fresh.remainingSlots ≤ fresh.remainingCoins := covered.covers
  have remaining : toNumber fresh.remainingCoins = fresh.remainingCoins :=
    congrArg ClaimAmountInput.remainingCoins (claimInput_eq covered)
  dsimp only
  rw [remaining]
  split
  · exact regular
  · rename_i db credited
    obtain ⟨paid, others⟩ := refunded_of_refundRemaining credited (by omega)
      (refund.imp_right And.left)
    split
    · have same : withStatus .active fresh = fresh := by
        rw [← active]
        rfl
      have own : ({ tables with db := db } : Tables).Sound fresh := by
        rw [← same]
        refine sound_withStatus sound ?_ ?_
        · rfl
        · exact ⟨covered, Or.inr ⟨⟨paid.coins, paid.key⟩, Nat.not_lt.mp past⟩⟩
      refine regular_of_own regular found rfl ?_ (fun row member _ => member)
        (fun id different => ⟨rfl, others id different⟩) (le_refl _)
      intro row member isOwn
      rw [eq_of_id regular found member isOwn]
      exact own
    · rw [if_pos (by omega)]
      apply regular_of_updated regular (keepsKey_withStatus .refunded) found rfl
      · refine sound_withStatus sound ?_ ?_
        · rfl
        · exact ⟨isOpen, ⟨paid.coins, paid.key⟩⟩
      · exact fun id different => ⟨rfl, others id different⟩
      · exact le_refl _

/-! ### Runs -/

theorem regular_step (regular : tables.Regular) (event : PacketEvent) :
    (step tables event).Regular := by
  cases event with
  | create reply creatorId roomId dto => exact regular_create regular reply creatorId roomId dto
  | claim reply userId roomId packetId => exact regular_claim regular reply userId roomId packetId
  | refundExpired reply packetId => exact regular_refundExpired regular reply packetId
  | pass milliseconds =>
      exact regular_of_same regular rfl rfl (fun id => sameRefund_refl tables.db id)
        (Nat.le_add_right _ _)

/-- New packets that nobody has claimed, and no refunds yet. -/
structure Tables.Opening (tables : Tables) : Prop where
  distinct : (tables.packets.map LuckyPacket.id).Nodup
  fresh : ∀ packet ∈ tables.packets, packet.Fresh
  claims : tables.claims.rows = []
  refunds : ∀ id, tables.Unrefunded id

structure Distributed (tables : Tables) (packet : LuckyPacket) : Prop where
  positive : ∀ claim ∈ tables.claimsOf packet.id, 1 ≤ claim.amount
  conserved : tables.claimedCoins packet.id + packet.remainingCoins = packet.totalCoins
  reserve : packet.status = .active → packet.remainingSlots ≤ packet.remainingCoins
  once : ((tables.claimsOf packet.id).map LuckyPacketClaim.userId).Nodup
  completed : (tables.claimsOf packet.id).length = packet.winnerCount →
    packet.status = .completed ∧ tables.claimedCoins packet.id = packet.totalCoins
  expired : packet.status = .expired ∨ packet.status = .refunded →
    tables.claimedCoins packet.id + tables.refundedCoins packet = packet.totalCoins

theorem regular_of_opening (opening : tables.Opening) : tables.Regular where
  distinct := opening.distinct
  sound := by
    intro packet member
    apply sound_of_fresh (opening.fresh packet member) _ (opening.refunds packet.id)
    unfold Tables.claimsOf
    rw [opening.claims]
    rfl
  unused := by
    intro id _
    refine ⟨?_, opening.refunds id⟩
    unfold Tables.claimsOf
    rw [opening.claims]
    rfl

theorem distributed_of_regular (regular : tables.Regular) {packet : LuckyPacket}
    (member : packet ∈ tables.packets) : Distributed tables packet := by
  obtain ⟨positive, conserved, slots, standing⟩ := regular.sound packet member
  unfold Tables.Standing at standing
  have once : ((tables.claimsOf packet.id).map LuckyPacketClaim.userId).Nodup := by
    apply List.Nodup.map_on
    · intro first isFirst second isSecond sameUser
      have firstFor := of_decide_eq_true (List.mem_filter.mp isFirst).2
      have secondFor := of_decide_eq_true (List.mem_filter.mp isSecond).2
      apply List.inj_on_of_nodup_map tables.claims.distinct (List.mem_filter.mp isFirst).1
        (List.mem_filter.mp isSecond).1
      unfold LuckyPacketClaim.key
      rw [firstFor, secondFor, sameUser]
    · exact (List.Nodup.of_map _ tables.claims.distinct).filter _
  cases isStatus : packet.status with
  | active =>
      rw [isStatus] at standing
      have isOpen : 1 ≤ packet.remainingSlots := standing.1.isOpen
      refine ⟨positive, conserved, fun _ => standing.1.covers, once, ?_, ?_⟩
      · intro full
        omega
      · rw [isStatus]
        rintro (impossible | impossible) <;> cases impossible
  | completed =>
      rw [isStatus] at standing
      refine ⟨positive, conserved, ?_, once, ?_, ?_⟩
      · rw [isStatus]
        exact fun impossible => by cases impossible
      · intro _
        exact ⟨isStatus, by omega⟩
      · rw [isStatus]
        rintro (impossible | impossible) <;> cases impossible
  | refunded =>
      rw [isStatus] at standing
      obtain ⟨isOpen, paid⟩ := standing
      refine ⟨positive, conserved, ?_, once, ?_, ?_⟩
      · rw [isStatus]
        exact fun impossible => by cases impossible
      · intro full
        omega
      · intro _
        rw [paid.coins]
        exact conserved
  | expired =>
      rw [isStatus] at standing
      cases standing

/-- Packets created, claimed and expired in any order, with any draws and failing
calls: every packet of every state is distributed. -/
theorem always_distributed (opening : Tables) (isOpening : opening.Opening)
    (events : List PacketEvent) :
    Runs.Always step (fun tables => ∀ packet ∈ tables.packets, Distributed tables packet)
      opening events := by
  have kept : ∀ (tables : Tables) (event : PacketEvent), tables.Regular →
      (step tables event).Regular := fun _ event regular => regular_step regular event
  have always := Runs.always_of_step kept opening (regular_of_opening isOpening) events
  exact always.imp fun _ regular _ member => distributed_of_regular regular member

def openingTables : Tables :=
  { packets :=
      [{ id := "packet"
         roomId := "room"
         creatorId := "creator"
         totalCoins := 10
         winnerCount := 3
         distribution := .random
         remainingCoins := 10
         remainingSlots := 3
         expiresAt := 30000 }]
    claims := .empty
    db := .empty
    now := 0 }

theorem opening_openingTables : openingTables.Opening where
  distinct := List.nodup_singleton _
  fresh := by
    intro packet member
    rw [List.mem_singleton.mp member]
    exact ⟨rfl, rfl, rfl, by decide, by decide, by decide⟩
  claims := rfl
  refunds := fun _ => ⟨rfl, List.not_mem_nil⟩

/-- One claim before the packet expires and one after. -/
def claimedAndExpired : List PacketEvent :=
  [.claim { draw := 4 } "first" "room" "packet", .pass 30000,
    .claim { draw := 0 } "second" "room" "packet", .refundExpired {} "packet"]

theorem distributed_claimedAndExpired :
    Runs.Always step (fun tables => ∀ packet ∈ tables.packets, Distributed tables packet)
      openingTables claimedAndExpired :=
  always_distributed openingTables opening_openingTables claimedAndExpired

end Soulzaa.LuckyPackets
