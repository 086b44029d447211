/-
Each packet against the debit that funds it.

A creation debits under a key that the client may repeat, and stores a new packet
each time.  A repeated key is answered with the earlier debit and moves nothing, so
the second packet has a debit of its own only where one is left over.
-/

import Soulzaa.Lib.Matching
import Soulzaa.LuckyPackets.Distribution

namespace Soulzaa.LuckyPackets

open LuckyPacketRepository LuckyPacketService

/-! ### Debits and credits of packets -/

def isPacketDebit (entry : LedgerEntry) : Bool :=
  entry.type = .debit ∧ entry.currency = .gold ∧ entry.reason = .luckyPacketCreate

/-- In any currency. -/
def isPacketCredit (entry : LedgerEntry) : Bool :=
  entry.type = .credit ∧ (entry.reason = .luckyPacketClaim ∨ entry.reason = .luckyPacketRefund)

def packetDebits (db : Db) : List LedgerEntry := db.ledger.filter isPacketDebit

def packetCredits (db : Db) : List LedgerEntry := db.ledger.filter isPacketCredit

def coins (entries : List LedgerEntry) : Int := (entries.map LedgerEntry.amount).sum

def LuckyPacket.due (packet : LuckyPacket) : UserId × Int := (packet.creatorId, packet.totalCoins)

def paid (entry : LedgerEntry) : UserId × Int := (entry.walletId, entry.amount)

/-- Each packet has a debit of its own, of its creator and of its coins. -/
def Backed (tables : Tables) : Prop :=
  Matched LuckyPacket.due paid tables.packets (packetDebits tables.db)

/-- Every packet is backed, and no more is credited than was debited. -/
structure Funded (tables : Tables) : Prop where
  backed : Backed tables
  covered : coins (packetCredits tables.db) ≤ coins (packetDebits tables.db)

/-! ### What a creation stores -/

/-- The creation gets as far as storing its packet. -/
def Stores (tables : Tables) (reply : CreateReply) (creatorId : UserId) (roomId : RoomId)
    (dto : CreateLuckyPacketDto) : Prop :=
  (dto.Valid ∧ reply.isManager = true ∧ reply.isRoomLive = true ∧
      dto.winnerCount ≤ dto.totalCoins) ∧
    (reply.debitFails = false ∧ reply.createFails = false ∧
      reply.newId ∉ tables.packets.map LuckyPacket.id) ∧
      reply.platform.Open ∧
        (WalletRepository.Posts tables.db
            (WalletService.movementInput .debit (createDebit tables creatorId roomId dto)) ∨
          ¬tables.db.transactions.Absent (createKey tables creatorId roomId dto))

instance (tables : Tables) (reply : CreateReply) (creatorId : UserId) (roomId : RoomId)
    (dto : CreateLuckyPacketDto) : Decidable (Stores tables reply creatorId roomId dto) :=
  inferInstanceAs (Decidable ((_ ∧ _ ∧ _ ∧ _) ∧ (_ ∧ _ ∧ _) ∧ _ ∧ (_ ∨ _)))

/-- The tables once the debit of a creation is made. -/
def debited (tables : Tables) (reply : CreateReply) (creatorId : UserId) (roomId : RoomId)
    (dto : CreateLuckyPacketDto) : Tables :=
  { tables with
    db := (WalletService.debit reply.platform tables.db
      (createDebit tables creatorId roomId dto)).1 }

variable {tables after : Tables} {reply : CreateReply} {creatorId : UserId} {roomId : RoomId}
  {dto : CreateLuckyPacketDto}

theorem create_of_stores (stores : Stores tables reply creatorId roomId dto) :
    ∃ packet : LuckyPacket, packet.Fresh ∧ packet.id ∉ tables.packets.map LuckyPacket.id ∧
      packet.due = (creatorId, dto.totalCoins) ∧
        (LuckyPacketService.create tables reply creatorId roomId dto).1 =
          { debited tables reply creatorId roomId dto with
            packets := tables.packets ++ [packet] } := by
  obtain ⟨⟨valid, isManager, isLive, enough⟩, ⟨debits, creates, unused⟩, isOpen, answered⟩ :=
    stores
  have positive : 0 < (createDebit tables creatorId roomId dto).amount :=
    lt_of_lt_of_le Int.one_pos valid.1.1
  obtain ⟨db, debit, isDebited⟩ := WalletService.answered_iff.mpr
    ⟨⟨positive, fun _ => isOpen⟩, answered⟩
  unfold debited WalletService.debit LuckyPacketService.create
  rw [if_neg (not_not.mpr valid), isManager, isLive, debits, creates, if_neg (not_lt.mpr enough)]
  dsimp only [WalletService.debit]
  rw [isDebited]
  unfold LuckyPacketRepository.create
  dsimp only
  rw [if_neg unused]
  exact ⟨_, fresh_of_valid valid enough rfl rfl rfl rfl rfl, unused, rfl, rfl⟩

theorem create_of_not_stores (refused : ¬Stores tables reply creatorId roomId dto) :
    (LuckyPacketService.create tables reply creatorId roomId dto).1 = tables ∨
      (LuckyPacketService.create tables reply creatorId roomId dto).1 =
        debited tables reply creatorId roomId dto := by
  unfold LuckyPacketService.create
  split
  · exact Or.inl rfl
  rename_i valid
  split
  · exact Or.inl rfl
  rename_i isManager
  split
  · exact Or.inl rfl
  rename_i isLive
  split
  · exact Or.inl rfl
  rename_i enough
  split
  · exact Or.inl rfl
  rename_i debits
  split
  · rename_i isDebited
    refine Or.inr ?_
    unfold debited
    rw [isDebited]
  · rename_i db debit isDebited
    refine Or.inr ?_
    unfold debited
    rw [isDebited]
    dsimp only
    split
    · rfl
    rename_i creates
    split
    · rfl
    · rename_i created
      exfalso
      unfold LuckyPacketRepository.create at created
      split at created
      · cases created
      rename_i unused
      obtain ⟨allowed, answered⟩ := WalletService.answered_iff.mp ⟨db, debit, isDebited⟩
      simp only [Bool.not_eq_true', Bool.not_eq_false] at isManager isLive
      exact refused ⟨⟨Decidable.of_not_not valid, isManager, isLive, not_lt.mp enough⟩,
        ⟨Bool.eq_false_of_not_eq_true debits, Bool.eq_false_of_not_eq_true creates, unused⟩,
        allowed.2 rfl, answered⟩

/-! ### Movements -/

theorem packetDebits_of_credit (platform : Platform) (db : Db) (input : WalletMovementInput) :
    packetDebits (WalletService.credit platform db input).1 = packetDebits db := by
  unfold packetDebits WalletService.credit
  rw [WalletService.ledger_of_move, List.filter_append]
  split
  · rw [List.filter_cons_of_neg, List.filter_nil, List.append_nil]
    simp [isPacketDebit, WalletRepository.movementEntry, WalletService.movementInput]
  · rw [List.filter_nil, List.append_nil]

theorem packetCredits_of_debit (platform : Platform) (db : Db) (input : WalletMovementInput) :
    packetCredits (WalletService.debit platform db input).1 = packetCredits db := by
  unfold packetCredits WalletService.debit
  rw [WalletService.ledger_of_move, List.filter_append]
  split
  · rw [List.filter_cons_of_neg, List.filter_nil, List.append_nil]
    simp [isPacketCredit, WalletRepository.movementEntry, WalletService.movementInput]
  · rw [List.filter_nil, List.append_nil]

/-- A credit adds its amount, if it posts. -/
theorem coins_of_credit (platform : Platform) (db : Db) {input : WalletMovementInput}
    (isPacket : input.reason = .luckyPacketClaim ∨ input.reason = .luckyPacketRefund) :
    coins (packetCredits (WalletService.credit platform db input).1) =
      coins (packetCredits db) +
        if WalletService.Posts platform db .credit input then input.amount else 0 := by
  unfold packetCredits WalletService.credit coins
  rw [WalletService.ledger_of_move, List.filter_append, List.map_append, List.sum_append]
  congr 1
  split
  · rw [List.filter_cons_of_pos, List.filter_nil]
    · simp [WalletRepository.movementEntry, WalletService.movementInput]
    · simp [isPacketCredit, WalletRepository.movementEntry, WalletService.movementInput, isPacket]
  · rfl

/-- The debit of a creation adds a row, if it posts, which counts where it is GOLD. -/
theorem packetDebits_debited (tables : Tables) (reply : CreateReply) (creatorId : UserId)
    (roomId : RoomId) (dto : CreateLuckyPacketDto) :
    ∃ entry : LedgerEntry, paid entry = (creatorId, dto.totalCoins) ∧
      packetDebits (debited tables reply creatorId roomId dto).db =
        packetDebits tables.db ++
          if WalletService.Posts reply.platform tables.db .debit
              (createDebit tables creatorId roomId dto) ∧ dto.currency.getD .gold = .gold then
            [entry]
          else [] := by
  unfold packetDebits debited WalletService.debit
  rw [WalletService.ledger_of_move]
  refine ⟨WalletRepository.movementEntry tables.db (tables.db.row creatorId)
    (WalletService.movementInput .debit (createDebit tables creatorId roomId dto)), rfl, ?_⟩
  rw [List.filter_append]
  congr 1
  by_cases posts : WalletService.Posts reply.platform tables.db .debit
    (createDebit tables creatorId roomId dto)
  · rw [if_pos posts]
    by_cases gold : dto.currency.getD .gold = .gold
    · rw [if_pos ⟨posts, gold⟩, List.filter_cons_of_pos, List.filter_nil]
      · rfl
      · simp [isPacketDebit, WalletRepository.movementEntry, WalletService.movementInput,
          createDebit, gold]
    · rw [if_neg (fun both => gold both.2), List.filter_cons_of_neg, List.filter_nil]
      simp [isPacketDebit, WalletRepository.movementEntry, WalletService.movementInput,
        createDebit, gold]
  · rw [if_neg posts, if_neg (fun both => posts both.1), List.filter_nil]

theorem sameRefund_debited (tables : Tables) (reply : CreateReply) (creatorId : UserId)
    (roomId : RoomId) (dto : CreateLuckyPacketDto) (id : PacketId) :
    SameRefund tables.db (debited tables reply creatorId roomId dto).db id :=
  sameRefund_of_move rfl (Or.inl WalletTxnReason.noConfusion)
    (createKey_ne_refundKey tables creatorId roomId dto id)

/-! ### What is still owed -/

/-- The coins that can still be credited for the packet. -/
def owed (db : Db) (packet : LuckyPacket) : Int :=
  if db.transactions.Absent (refundKey packet.id) then packet.remainingCoins else 0

/-- What is credited and what is still owed, with some to spare, is within the
coins of the packets. -/
structure Accounted (tables : Tables) (spare : Int) : Prop where
  regular : tables.Regular
  positive : ∀ entry ∈ packetDebits tables.db, 0 ≤ entry.amount
  within : coins (packetCredits tables.db) + (tables.packets.map (owed tables.db)).sum + spare ≤
    (tables.packets.map LuckyPacket.totalCoins).sum

theorem owed_of_same {before after : Db} {packet : LuckyPacket}
    (same : SameRefund before after packet.id) : owed after packet = owed before packet := by
  unfold owed
  exact if_congr same.key rfl rfl

theorem owed_nonneg (regular : tables.Regular) {packet : LuckyPacket}
    (member : packet ∈ tables.packets) : 0 ≤ owed tables.db packet := by
  have standing := (regular.sound packet member).standing
  unfold Tables.Standing at standing
  unfold owed
  cases isStatus : packet.status with
  | active =>
      rw [isStatus] at standing
      have isOpen : 1 ≤ packet.remainingSlots := standing.1.isOpen
      have covers : packet.remainingSlots ≤ packet.remainingCoins := standing.1.covers
      split <;> omega
  | completed =>
      rw [isStatus] at standing
      rw [standing.1, ite_self]
  | refunded =>
      rw [isStatus] at standing
      rw [if_neg standing.2.key]
  | expired =>
      rw [isStatus] at standing
      cases standing

/-- A movement of other reasons than a refund, that leaves the packets. -/
theorem accounted_of_db {spare less : Int} {db : Db} (accounted : Accounted tables spare)
    (same : ∀ id, SameRefund tables.db db id)
    (positive : ∀ entry ∈ packetDebits db, 0 ≤ entry.amount)
    (credits : coins (packetCredits db) + less ≤ coins (packetCredits tables.db) + spare) :
    Accounted { tables with db := db } less where
  regular := regular_of_same accounted.regular rfl rfl same (le_refl _)
  positive := positive
  within := by
    have sameOwed : tables.packets.map (owed db) = tables.packets.map (owed tables.db) :=
      List.map_congr_left fun packet _ => owed_of_same (same packet.id)
    have within := accounted.within
    dsimp only
    rw [sameOwed]
    omega

theorem accounted_debited (accounted : Accounted tables 0) :
    Accounted (debited tables reply creatorId roomId dto) 0 := by
  refine accounted_of_db accounted (sameRefund_debited tables reply creatorId roomId dto) ?_ ?_
  · intro entry member
    obtain ⟨new, pays, debits⟩ := packetDebits_debited tables reply creatorId roomId dto
    change entry ∈ packetDebits (debited tables reply creatorId roomId dto).db at member
    rw [debits] at member
    rcases List.mem_append.mp member with earlier | isNew
    · exact accounted.positive entry earlier
    · split at isNew
      · rename_i posts
        have amount : new.amount = dto.totalCoins := congrArg Prod.snd pays
        rw [List.mem_singleton.mp isNew, amount]
        exact le_of_lt posts.1.1.1
      · cases isNew
  · rw [packetCredits_of_debit]

theorem accounted_create (accounted : Accounted tables 0) (reply : CreateReply)
    (creatorId : UserId) (roomId : RoomId) (dto : CreateLuckyPacketDto) :
    Accounted (LuckyPacketService.create tables reply creatorId roomId dto).1 0 := by
  by_cases stores : Stores tables reply creatorId roomId dto
  · obtain ⟨packet, fresh, unused, -, isCreated⟩ := create_of_stores stores
    rw [isCreated]
    have paid : Accounted (debited tables reply creatorId roomId dto) 0 :=
      accounted_debited accounted
    refine ⟨regular_of_created paid.regular fresh unused, paid.positive, ?_⟩
    have within := paid.within
    have enough := fresh.enough
    have winners := fresh.winners
    have atMost : owed (debited tables reply creatorId roomId dto).db packet ≤
        packet.totalCoins := by
      unfold owed
      rw [fresh.coins]
      split <;> omega
    change coins _ + (tables.packets.map _).sum + 0 ≤ (tables.packets.map _).sum at within
    simp only [List.map_append, List.map_singleton, List.sum_append, List.sum_singleton]
    omega
  · rcases create_of_not_stores stores with isSame | isDebited
    · rw [isSame]
      exact accounted
    · rw [isDebited]
      exact accounted_debited accounted

/-! ### Claims -/

/-- An applied claim moves coins from the packet to what may be credited. -/
theorem accounted_applied (accounted : Accounted tables 0) {packet : LuckyPacket}
    {userId : UserId} {draw : Nat} (found : findById tables packet.id = some packet)
    (active : packet.status = .active) (unexpired : tables.now < packet.expiresAt)
    (isApplied : applyClaim tables
      { packetId := packet.id
        userId := userId
        amount := computeClaimAmount (claimInput packet) draw }
      (decide (packet.remainingSlots ≤ 1)) = some after) :
    after.db = tables.db ∧
      Accounted after (computeClaimAmount (claimInput packet) draw) := by
  have regular := regular_of_applied accounted.regular found active unexpired isApplied
  have standing := (accounted.regular.sound packet (KeyedRows.mem_of_find found)).standing
  unfold Tables.Standing at standing
  rw [active] at standing
  have unrefunded : tables.Unrefunded packet.id := by
    rcases standing.2 with none | ⟨_, past⟩
    · exact none
    · omega
  unfold applyClaim at isApplied
  split at isApplied
  · cases isApplied
  rename_i claims stored
  cases isApplied
  refine ⟨rfl, regular, accounted.positive, ?_⟩
  have within := accounted.within
  have owes : owed tables.db (claimed (computeClaimAmount (claimInput packet) draw)
      (decide (packet.remainingSlots ≤ 1)) packet) =
        owed tables.db packet + -computeClaimAmount (claimInput packet) draw := by
    unfold owed claimed
    dsimp only
    rw [if_pos unrefunded.key, if_pos unrefunded.key]
    exact sub_eq_add_neg _ _
  have sameTotal : (claimed (computeClaimAmount (claimInput packet) draw)
      (decide (packet.remainingSlots ≤ 1)) packet).totalCoins = packet.totalCoins + 0 :=
    (add_zero _).symm
  dsimp only
  rw [KeyedRows.sum_update (owed tables.db) _ accounted.regular.distinct found owes,
    KeyedRows.sum_update LuckyPacket.totalCoins _ accounted.regular.distinct found sameTotal]
  omega

theorem payClaim_db (tables : Tables) (reply : ClaimReply) (packet : LuckyPacket)
    (userId : UserId) (amount : Int) :
    (payClaim tables reply packet userId amount).1 = tables ∨
      (payClaim tables reply packet userId amount).1 =
        { tables with
          db := (WalletService.credit reply.platform tables.db
            (claimCredit packet userId amount)).1 } := by
  unfold payClaim
  split
  · exact Or.inl rfl
  · refine Or.inr ?_
    split
    · rename_i isCredited
      rw [isCredited]
    · rename_i isCredited
      rw [isCredited]
      dsimp only
      split <;> rfl

theorem accounted_paid {packet : LuckyPacket} {amount : Int} (accounted : Accounted tables amount)
    (positive : 0 ≤ amount) (reply : ClaimReply) (userId : UserId) :
    Accounted (payClaim tables reply packet userId amount).1 0 := by
  have unpaid : Accounted tables 0 := by
    have within := accounted.within
    exact ⟨accounted.regular, accounted.positive, by omega⟩
  rcases payClaim_db tables reply packet userId amount with isSame | isPaid
  · rw [isSame]
    exact unpaid
  · rw [isPaid]
    have sameRefund : ∀ id, SameRefund tables.db (WalletService.credit reply.platform tables.db
        (claimCredit packet userId amount)).1 id := fun id =>
      sameRefund_of_move rfl (Or.inl WalletTxnReason.noConfusion)
        (claimKey_ne_refundKey packet.id id userId)
    refine accounted_of_db accounted sameRefund ?_ ?_
    · rw [packetDebits_of_credit]
      exact accounted.positive
    · rw [coins_of_credit reply.platform tables.db (Or.inl rfl)]
      unfold claimCredit
      dsimp only
      split <;> omega

theorem accounted_claim (accounted : Accounted tables 0) (reply : ClaimReply) (userId : UserId)
    (roomId : RoomId) (packetId : PacketId) :
    Accounted (claim tables reply userId roomId packetId).1 0 := by
  rcases claim_cases tables reply userId roomId packetId with
    isSame | ⟨packet, applied, ⟨found, active, unexpired⟩, isApplied, isClaimed⟩
  · rw [isSame]
    exact accounted
  · have isFor := KeyedRows.key_of_find found
    subst isFor
    obtain ⟨sameDb, taken⟩ := accounted_applied accounted found active unexpired isApplied
    rw [isClaimed]
    refine accounted_paid taken ?_ reply userId
    -- The new row is among the claims of the packet, which are all positive.
    obtain ⟨written, isWritten, sameId⟩ :
        ∃ row ∈ applied.packets, row.id = packet.id := by
      unfold applyClaim at isApplied
      split at isApplied
      · cases isApplied
      cases isApplied
      refine ⟨_, List.mem_map_of_mem (KeyedRows.mem_of_find found), ?_⟩
      rw [if_pos rfl]
      rfl
    have positive := (taken.regular.sound written isWritten).positive
    unfold applyClaim at isApplied
    split at isApplied
    · cases isApplied
    rename_i claims stored
    cases isApplied
    have rows := (UniqueTable.rows_of_create stored).2
    rw [claimsOf_append rows, sameId, if_pos rfl] at positive
    have own := positive _ (List.mem_append_right _ (List.mem_singleton_self _))
    exact le_trans Int.one_nonneg own

/-! ### Expiry -/

/-- What the expiry of a packet can do: nothing, or the credit of what remains,
with the status that records it or without. -/
theorem refundExpired_cases (regular : tables.Regular) (reply : RefundReply)
    (packetId : PacketId) :
    refundExpired tables reply packetId = tables ∨
      ∃ packet db, findById tables packetId = some packet ∧
        (∃ result, WalletService.credit reply.platform tables.db
          (refundCredit packet packet.remainingCoins) = (db, .ok result)) ∧
        (refundExpired tables reply packetId = { tables with db := db } ∨
          ∃ status, refundExpired tables reply packetId =
            markStatus { tables with db := db } packetId status) := by
  unfold refundExpired
  split
  · exact Or.inl rfl
  rename_i fresh found
  split
  · exact Or.inl rfl
  rename_i active
  split
  · exact Or.inl rfl
  have standing := (regular.sound fresh (KeyedRows.mem_of_find found)).standing
  unfold Tables.Standing at standing
  rw [Decidable.of_not_not active] at standing
  have isOpen : 1 ≤ fresh.remainingSlots := standing.1.isOpen
  have covers : fresh.remainingSlots ≤ fresh.remainingCoins := standing.1.covers
  have exact : toNumber fresh.remainingCoins = fresh.remainingCoins :=
    congrArg ClaimAmountInput.remainingCoins (claimInput_eq standing.1)
  dsimp only
  rw [exact]
  split
  · exact Or.inl rfl
  · rename_i db credited
    unfold refundRemaining at credited
    rw [if_pos (by omega)] at credited
    split at credited
    · cases credited
    split at credited
    · cases credited
    rename_i db result isCredited
    cases credited
    refine Or.inr ⟨fresh, _, found, ⟨_, isCredited⟩, ?_⟩
    split
    · exact Or.inl rfl
    · exact Or.inr ⟨_, rfl⟩

/-- The refund credits what was owed for the packet, or nothing. -/
theorem within_of_refunded {packet : LuckyPacket} {db : Db} {platform : Platform}
    {result : WalletMovementResult} (accounted : Accounted tables 0)
    (found : findById tables packet.id = some packet)
    (isCredited : WalletService.credit platform tables.db
      (refundCredit packet packet.remainingCoins) = (db, .ok result)) :
    coins (packetCredits db) + (tables.packets.map (owed db)).sum ≤
      (tables.packets.map LuckyPacket.totalCoins).sum := by
  have within := accounted.within
  by_cases absent : tables.db.transactions.Absent (refundKey packet.id)
  · have posts := WalletService.posts_of_move_ok isCredited absent
    have credits : coins (packetCredits (WalletService.credit platform tables.db
        (refundCredit packet packet.remainingCoins)).1) = _ :=
      coins_of_credit platform tables.db (Or.inr rfl)
    rw [if_pos posts, isCredited] at credits
    have selected : ∀ entry, WalletService.IsMovementOf .credit
        (refundCredit packet packet.remainingCoins) entry → isRefundOf packet.id entry = true :=
      fun entry isRefund => decide_eq_true ⟨isRefund.reason, isRefund.referenceId⟩
    have isTaken : ¬db.transactions.Absent (refundKey packet.id) :=
      (WalletService.row_of_move_ok isCredited absent selected).1
    -- The packet is owed nothing more, and the others what they were.
    let spent : LuckyPacket → LuckyPacket := fun row => { row with remainingCoins := 0 }
    have sameOwed : tables.packets.map (owed db) =
        (KeyedRows.update LuckyPacket.id packet.id spent tables.packets).map (owed tables.db) := by
      unfold KeyedRows.update
      rw [List.map_map]
      apply List.map_congr_left
      intro row _
      rw [Function.comp_apply]
      by_cases isOwn : row.id = packet.id
      · rw [if_pos isOwn]
        unfold owed
        rw [isOwn, if_neg isTaken]
        exact (ite_self _).symm
      · rw [if_neg isOwn]
        exact owed_of_same (sameRefund_of_move isCredited
          (Or.inr fun same => isOwn (Option.some_inj.mp same).symm)
            fun same => isOwn (refundKey_injective same).symm)
    have owes : owed tables.db (spent packet) =
        owed tables.db packet + -packet.remainingCoins := by
      unfold owed
      dsimp only [spent]
      rw [if_pos absent, if_pos absent]
      omega
    rw [sameOwed, KeyedRows.sum_update (owed tables.db) spent accounted.regular.distinct found
      owes]
    dsimp only [refundCredit] at credits
    omega
  · rw [WalletService.unmoved_of_taken isCredited absent]
    omega

theorem accounted_refundExpired (accounted : Accounted tables 0) (reply : RefundReply)
    (packetId : PacketId) : Accounted (refundExpired tables reply packetId) 0 := by
  have regular := regular_refundExpired accounted.regular reply packetId
  rcases refundExpired_cases accounted.regular reply packetId with
    isSame | ⟨packet, db, found, ⟨result, isCredited⟩, isMarked⟩
  · rw [isSame]
    exact accounted
  · have isFor := KeyedRows.key_of_find found
    subst isFor
    have within := within_of_refunded accounted found isCredited
    have debits : packetDebits db = packetDebits tables.db := by
      have same := packetDebits_of_credit reply.platform tables.db
        (refundCredit packet packet.remainingCoins)
      rw [isCredited] at same
      exact same
    have nonnegative : ∀ entry ∈ packetDebits db, 0 ≤ entry.amount := by
      rw [debits]
      exact accounted.positive
    rcases isMarked with isCreditedOnly | ⟨status, isRecorded⟩
    · rw [isCreditedOnly] at regular ⊢
      exact ⟨regular, nonnegative, (add_zero _).trans_le within⟩
    · rw [isRecorded] at regular ⊢
      refine ⟨regular, nonnegative, ?_⟩
      have sameOwed : (KeyedRows.update LuckyPacket.id packet.id (withStatus status)
          tables.packets).map (owed db) = tables.packets.map (owed db) :=
        KeyedRows.map_update fun _ => rfl
      have sameTotals : (KeyedRows.update LuckyPacket.id packet.id (withStatus status)
          tables.packets).map LuckyPacket.totalCoins = tables.packets.map LuckyPacket.totalCoins :=
        KeyedRows.map_update fun _ => rfl
      unfold markStatus
      dsimp only
      rw [sameOwed, sameTotals]
      omega

/-! ### Runs -/

theorem accounted_step (accounted : Accounted tables 0) (event : PacketEvent) :
    Accounted (step tables event) 0 := by
  cases event with
  | create reply creatorId roomId dto => exact accounted_create accounted reply creatorId roomId dto
  | claim reply userId roomId packetId =>
      exact accounted_claim accounted reply userId roomId packetId
  | refundExpired reply packetId => exact accounted_refundExpired accounted reply packetId
  | pass milliseconds =>
      exact ⟨regular_step accounted.regular (.pass milliseconds), accounted.positive,
        accounted.within⟩

theorem covered_of_backed (accounted : Accounted tables 0) (backed : Backed tables) :
    coins (packetCredits tables.db) ≤ coins (packetDebits tables.db) := by
  have stillOwed : 0 ≤ (tables.packets.map (owed tables.db)).sum := by
    apply List.sum_nonneg
    intro amount member
    obtain ⟨packet, inside, rfl⟩ := List.mem_map.mp member
    exact owed_nonneg accounted.regular inside
  have withinDebits := backed.sum_le Prod.snd accounted.positive
  have within := accounted.within
  change (tables.packets.map LuckyPacket.totalCoins).sum ≤ coins (packetDebits tables.db)
    at withinDebits
  omega

/-- A creation under a used key, or in another currency, stores a packet only where
its creator has a debit of that amount to spare. -/
def Permits (tables : Tables) : PacketEvent → Prop
  | .create reply creatorId roomId dto =>
      Stores tables reply creatorId roomId dto →
        (dto.currency.getD .gold = .gold ∧
            tables.db.transactions.Absent (createKey tables creatorId roomId dto)) ∨
          (tables.packets.map LuckyPacket.due).count (creatorId, dto.totalCoins) <
            ((packetDebits tables.db).map paid).count (creatorId, dto.totalCoins)
  | .claim _ _ _ _ => True
  | .refundExpired _ _ => True
  | .pass _ => True

instance (tables : Tables) : (event : PacketEvent) → Decidable (Permits tables event)
  | .create _ _ _ _ => inferInstanceAs (Decidable (_ → _))
  | .claim _ _ _ _ => inferInstanceAs (Decidable True)
  | .refundExpired _ _ => inferInstanceAs (Decidable True)
  | .pass _ => inferInstanceAs (Decidable True)

theorem backed_of_same (backed : Backed tables)
    (dues : after.packets.map LuckyPacket.due = tables.packets.map LuckyPacket.due)
    (debits : packetDebits after.db = packetDebits tables.db) : Backed after := by
  unfold Backed at backed ⊢
  rw [Matched.iff_subperm] at backed ⊢
  rw [dues, debits]
  exact backed

theorem backed_claim (accounted : Accounted tables 0) (backed : Backed tables)
    (reply : ClaimReply) (userId : UserId) (roomId : RoomId) (packetId : PacketId) :
    Backed (claim tables reply userId roomId packetId).1 := by
  rcases claim_cases tables reply userId roomId packetId with
    isSame | ⟨packet, applied, ⟨found, active, unexpired⟩, isApplied, isClaimed⟩
  · rw [isSame]
    exact backed
  · have isFor := KeyedRows.key_of_find found
    subst isFor
    have sameDb := (accounted_applied accounted found active unexpired isApplied).1
    have sameDues : applied.packets.map LuckyPacket.due = tables.packets.map LuckyPacket.due := by
      unfold applyClaim at isApplied
      split at isApplied
      · cases isApplied
      · cases isApplied
        exact KeyedRows.map_update fun _ => rfl
    rw [isClaimed]
    rcases payClaim_db applied reply packet userId
      (computeClaimAmount (claimInput packet) reply.draw) with isSame | isPaid
    · rw [isSame]
      exact backed_of_same backed sameDues (congrArg packetDebits sameDb)
    · rw [isPaid]
      refine backed_of_same backed sameDues ?_
      dsimp only
      rw [packetDebits_of_credit, sameDb]

theorem backed_refundExpired (accounted : Accounted tables 0) (backed : Backed tables)
    (reply : RefundReply) (packetId : PacketId) :
    Backed (refundExpired tables reply packetId) := by
  rcases refundExpired_cases accounted.regular reply packetId with
    isSame | ⟨packet, db, -, ⟨result, isCredited⟩, isMarked⟩
  · rw [isSame]
    exact backed
  · have debits : packetDebits db = packetDebits tables.db := by
      have same := packetDebits_of_credit reply.platform tables.db
        (refundCredit packet packet.remainingCoins)
      rw [isCredited] at same
      exact same
    rcases isMarked with isCreditedOnly | ⟨status, isRecorded⟩
    · rw [isCreditedOnly]
      exact backed_of_same backed rfl debits
    · rw [isRecorded]
      exact backed_of_same backed (KeyedRows.map_update fun _ => rfl) debits

theorem backed_create_iff (backed : Backed tables) (reply : CreateReply) (creatorId : UserId)
    (roomId : RoomId) (dto : CreateLuckyPacketDto) :
    Backed (LuckyPacketService.create tables reply creatorId roomId dto).1 ↔
      Permits tables (.create reply creatorId roomId dto) := by
  obtain ⟨entry, pays, debits⟩ := packetDebits_debited tables reply creatorId roomId dto
  have stillBacked : Matched LuckyPacket.due paid tables.packets
      (packetDebits (debited tables reply creatorId roomId dto).db) := by
    rw [debits]
    exact backed.of_prefix _
  by_cases stores : Stores tables reply creatorId roomId dto
  · obtain ⟨packet, -, -, due, isCreated⟩ := create_of_stores stores
    rw [isCreated]
    unfold Backed
    dsimp only
    rw [stillBacked.concat_iff packet, due, debits]
    constructor
    · intro left _
      by_cases isNew : WalletService.Posts reply.platform tables.db .debit
          (createDebit tables creatorId roomId dto) ∧ dto.currency.getD .gold = .gold
      · exact Or.inl ⟨isNew.2, isNew.1.2.2.2⟩
      · rw [if_neg isNew, List.append_nil] at left
        exact Or.inr left
    · intro permitted
      rcases permitted stores with ⟨gold, absent⟩ | left
      · obtain ⟨⟨valid, -⟩, -, isOpen, posts | taken⟩ := stores
        · have positive : 0 < dto.totalCoins := lt_of_lt_of_le Int.one_pos valid.1.1
          have isNew : WalletService.Posts reply.platform tables.db .debit
              (createDebit tables creatorId roomId dto) ∧ dto.currency.getD .gold = .gold :=
            ⟨⟨⟨positive, fun _ => isOpen⟩, posts⟩, gold⟩
          have atMost := backed.subperm.count_le (creatorId, dto.totalCoins)
          rw [if_pos isNew, List.map_append, List.count_append, List.map_singleton, pays,
            List.count_singleton_self]
          omega
        · exact absurd absent taken
      · rw [List.map_append, List.count_append]
        omega
  · have permitted : Permits tables (.create reply creatorId roomId dto) :=
      fun isStored => absurd isStored stores
    refine iff_of_true ?_ permitted
    rcases create_of_not_stores stores with isSame | isDebited
    · rw [isSame]
      exact backed
    · rw [isDebited]
      exact stillBacked

theorem backed_step_iff (accounted : Accounted tables 0) (backed : Backed tables)
    (event : PacketEvent) : Backed (step tables event) ↔ Permits tables event := by
  cases event with
  | create reply creatorId roomId dto =>
      exact backed_create_iff backed reply creatorId roomId dto
  | claim reply userId roomId packetId =>
      exact iff_of_true (backed_claim accounted backed reply userId roomId packetId) trivial
  | refundExpired reply packetId =>
      exact iff_of_true (backed_refundExpired accounted backed reply packetId) trivial
  | pass milliseconds => exact iff_of_true backed trivial

/-- No packets yet, and no movement of one. -/
structure Tables.Empty (tables : Tables) : Prop where
  packets : tables.packets = []
  claims : tables.claims.rows = []
  refunds : ∀ id, tables.Unrefunded id
  debits : packetDebits tables.db = []
  credits : packetCredits tables.db = []

theorem Tables.Empty.accounted (empty : tables.Empty) : Accounted tables 0 := by
  refine ⟨regular_of_opening ⟨?_, ?_, empty.claims, empty.refunds⟩, ?_, ?_⟩
  · rw [empty.packets]
    exact List.nodup_nil
  · rw [empty.packets]
    exact List.forall_mem_nil _
  · rw [empty.debits]
    exact List.forall_mem_nil _
  · rw [empty.packets, empty.credits]
    exact le_refl _

theorem Tables.Empty.backed (empty : tables.Empty) : Backed tables := by
  unfold Backed
  rw [Matched.iff_subperm, empty.packets]
  exact List.nil_subperm

/-- Creations, claims and expiries in any order, with any keys and failing calls:
every packet of every state is backed by a debit of its own, and no more is credited
than was debited, exactly when every creation finds its debit. -/
theorem always_funded_iff (opening : Tables) (empty : opening.Empty)
    (events : List PacketEvent) :
    Runs.Always step Funded opening events ↔ Runs.Each step Permits opening events := by
  have kept : ∀ (tables : Tables) (event : PacketEvent), Accounted tables 0 → Funded tables →
      Permits tables event → Accounted (step tables event) 0 :=
    fun _ event accounted _ _ => accounted_step accounted event
  have exactly : ∀ (tables : Tables) (event : PacketEvent), Accounted tables 0 →
      Funded tables → (Funded (step tables event) ↔ Permits tables event) := by
    intro tables event accounted funded
    rw [← backed_step_iff accounted funded.backed event]
    constructor
    · exact Funded.backed
    · exact fun backed => ⟨backed, covered_of_backed (accounted_step accounted event) backed⟩
  exact Runs.always_iff_each (fun tables => Accounted tables 0) kept exactly opening
    empty.accounted ⟨empty.backed, covered_of_backed empty.accounted empty.backed⟩ events

def fundedTables : Tables :=
  { packets := []
    claims := .empty
    db := Db.empty.putWallet "creator" { Wallet.fresh "creator" with goldBalance := 10 }
    now := 0 }

theorem empty_fundedTables : fundedTables.Empty where
  packets := rfl
  claims := rfl
  refunds := fun _ => ⟨rfl, List.not_mem_nil⟩
  debits := rfl
  credits := rfl

def keyedPacket : CreateLuckyPacketDto :=
  { totalCoins := 10
    winnerCount := 2
    distribution := .random
    expiresInSeconds := 30
    idempotencyKey := some "retry-key" }

/-- A packet created, claimed once and expired. -/
def keyedCreation : List PacketEvent :=
  [.create { newId := "first" } "creator" "room" keyedPacket,
    .claim { draw := 4 } "winner" "room" "first", .pass 30000, .refundExpired {} "first"]

theorem funded_keyedCreation : Runs.Always step Funded fundedTables keyedCreation :=
  (always_funded_iff fundedTables empty_fundedTables keyedCreation).mpr (by decide +kernel)

/-- The same creation sent twice, and both packets expired. -/
def retriedCreation : List PacketEvent :=
  [.create { newId := "first" } "creator" "room" keyedPacket,
    .create { newId := "second" } "creator" "room" keyedPacket,
    .pass 30000, .refundExpired {} "first", .refundExpired {} "second"]

/-- Two packets of ten coins and one debit of ten: twenty coins are credited. -/
theorem unfunded_retriedCreation :
    ¬Runs.Always step Backed fundedTables retriedCreation ∧
      ¬Runs.Always step
        (fun tables => coins (packetCredits tables.db) ≤ coins (packetDebits tables.db))
        fundedTables retriedCreation := by
  constructor
  · intro always
    have onePerPacket := always.final.subperm.length_le
    revert onePerPacket
    decide +kernel
  · intro always
    have within := always.final
    revert within
    decide +kernel

end Soulzaa.LuckyPackets
