/-
A claim that is tried again.

The claim row and the decrement of the packet are committed before the wallet is
credited.  The key of the credit is made for a retry, but a retry never gets to it:
the row refuses it first.
-/

import Soulzaa.LuckyPackets.Backing

namespace Soulzaa.LuckyPackets

open LuckyPacketRepository LuckyPacketService

/-! ### What a user has claimed and what the user has got -/

def isClaimCreditOf (packetId : PacketId) (userId : UserId) (entry : LedgerEntry) : Bool :=
  entry.type = .credit ∧ entry.reason = .luckyPacketClaim ∧
    entry.referenceId = some packetId ∧ entry.walletId = userId

def claimCredits (db : Db) (packetId : PacketId) (userId : UserId) : List LedgerEntry :=
  db.ledger.filter (isClaimCreditOf packetId userId)

namespace Tables

/-- Each of these rows stands for coins that one commit took from `remainingCoins`. -/
def claimsBy (tables : Tables) (packetId : PacketId) (userId : UserId) : List LuckyPacketClaim :=
  tables.claims.rows.filter (fun claim => claim.key = (packetId, userId))

/-- The coins taken for the user are credited to the user, once. -/
structure Paid (tables : Tables) (packetId : PacketId) (userId : UserId) : Prop where
  credited : (claimCredits tables.db packetId userId).map LedgerEntry.amount =
    (tables.claimsBy packetId userId).map LuckyPacketClaim.amount
  once : (claimCredits tables.db packetId userId).length ≤ 1

/-- Coins are taken for the user, and none of them credited. -/
structure Lost (tables : Tables) (packetId : PacketId) (userId : UserId) : Prop where
  taken : tables.claimsBy packetId userId ≠ []
  uncredited : claimCredits tables.db packetId userId = []

variable {tables : Tables} {packetId : PacketId} {userId : UserId}

theorem not_paid_of_lost (lost : tables.Lost packetId userId) : ¬tables.Paid packetId userId := by
  intro paid
  have amounts := paid.credited
  rw [lost.uncredited, List.map_nil] at amounts
  exact lost.taken (List.map_eq_nil_iff.mp amounts.symm)

theorem claimsBy_eq_nil_iff :
    tables.claimsBy packetId userId = [] ↔ tables.claims.Absent (packetId, userId) := by
  unfold claimsBy UniqueTable.Absent
  rw [List.filter_eq_nil_iff]
  constructor
  · intro none taken
    obtain ⟨claim, isClaim, sameKey⟩ := List.mem_map.mp taken
    exact none claim isClaim (decide_eq_true sameKey)
  · intro absent claim isClaim sameKey
    exact absent (List.mem_map.mpr ⟨claim, isClaim, of_decide_eq_true sameKey⟩)

theorem Paid.of_same {after : Tables} (paid : tables.Paid packetId userId)
    (claims : after.claimsBy packetId userId = tables.claimsBy packetId userId)
    (credits : claimCredits after.db packetId userId = claimCredits tables.db packetId userId) :
    after.Paid packetId userId where
  credited := by
    rw [claims, credits]
    exact paid.credited
  once := by
    rw [credits]
    exact paid.once

theorem Lost.of_same {after : Tables} (lost : tables.Lost packetId userId)
    (claims : after.claimsBy packetId userId = tables.claimsBy packetId userId)
    (credits : claimCredits after.db packetId userId = claimCredits tables.db packetId userId) :
    after.Lost packetId userId where
  taken := by
    rw [claims]
    exact lost.taken
  uncredited := by
    rw [credits]
    exact lost.uncredited

end Tables

/-! ### What a claim records and what it pays -/

variable {tables : Tables} {packetId : PacketId} {userId : UserId}

/-- Once the packet is claimable, the claim is committed. -/
def Commits (tables : Tables) (reply : ClaimReply) (userId : UserId) (packetId : PacketId) :
    Prop :=
  reply.isMember = true ∧ reply.applyFails = false ∧ tables.claims.Absent (packetId, userId)

instance (tables : Tables) (reply : ClaimReply) (userId : UserId) (packetId : PacketId) :
    Decidable (Commits tables reply userId packetId) :=
  inferInstanceAs (Decidable (_ ∧ _ ∧ _))

def claimAmount (reply : ClaimReply) (packet : LuckyPacket) : Int :=
  computeClaimAmount (claimInput packet) reply.draw

/-- The wallet is reached, and takes the credit under a key that is new to it. -/
def Credits (db : Db) (reply : ClaimReply) (packet : LuckyPacket) (userId : UserId) : Prop :=
  reply.creditFails = false ∧
    WalletService.Posts reply.platform db .credit
      (claimCredit packet userId (claimAmount reply packet))

instance (db : Db) (reply : ClaimReply) (packet : LuckyPacket) (userId : UserId) :
    Decidable (Credits db reply packet userId) :=
  inferInstanceAs (Decidable (_ ∧ _))

def claimRow (reply : ClaimReply) (packet : LuckyPacket) (userId : UserId) : LuckyPacketClaim :=
  { packetId := packet.id
    userId := userId
    amount := claimAmount reply packet }

theorem tables_of_payClaim (reply : ClaimReply) (packet : LuckyPacket) (userId : UserId)
    (amount : Int) :
    (payClaim tables reply packet userId amount).1 =
      if reply.creditFails then tables
      else
        { tables with
          db := (WalletService.credit reply.platform tables.db
            (claimCredit packet userId amount)).1 } := by
  unfold payClaim
  split
  · rfl
  split
  · rename_i moved
    rw [moved]
  · rename_i moved
    rw [moved]
    dsimp only
    split <;> rfl

/-- The row of the credit, where the wallet takes it. -/
def creditRows (db : Db) (reply : ClaimReply) (packet : LuckyPacket) (userId : UserId) :
    List LedgerEntry :=
  if Credits db reply packet userId then
    [WalletRepository.movementEntry db (db.row userId)
      (WalletService.movementInput .credit
        (claimCredit packet userId (claimAmount reply packet)))]
  else []

theorem ledger_of_payClaim (reply : ClaimReply) (packet : LuckyPacket) (userId : UserId) :
    (payClaim tables reply packet userId (claimAmount reply packet)).1.db.ledger =
      tables.db.ledger ++ creditRows tables.db reply packet userId := by
  rw [tables_of_payClaim]
  unfold creditRows
  cases fails : reply.creditFails with
  | true =>
      rw [if_pos rfl, if_neg, List.append_nil]
      intro credits
      rw [credits.1] at fails
      cases fails
  | false =>
      rw [if_neg Bool.false_ne_true]
      dsimp only [WalletService.credit]
      rw [WalletService.ledger_of_move]
      exact congrArg _ (if_congr (and_iff_right fails).symm rfl rfl)

/-- What a claim can do, and when. -/
theorem claim_spec (tables : Tables) (reply : ClaimReply) (userId : UserId) (roomId : RoomId)
    (packetId : PacketId) :
    ((claim tables reply userId roomId packetId).1 = tables ∧
        ∀ packet, claimable tables roomId packetId = .ok packet →
          ¬Commits tables reply userId packetId) ∨
      ∃ packet, claimable tables roomId packetId = .ok packet ∧ packet.id = packetId ∧
        Commits tables reply userId packetId ∧
        (claim tables reply userId roomId packetId).1.claims.rows =
          tables.claims.rows ++ [claimRow reply packet userId] ∧
        (claim tables reply userId roomId packetId).1.db.ledger =
          tables.db.ledger ++ creditRows tables.db reply packet userId := by
  unfold claim
  split
  · rename_i isNoMember
    refine Or.inl ⟨rfl, fun packet _ commits => ?_⟩
    rw [commits.1] at isNoMember
    cases isNoMember
  rename_i isMember
  split
  · rename_i error isRefused
    refine Or.inl ⟨rfl, fun packet isClaimable _ => ?_⟩
    rw [isClaimable] at isRefused
    cases isRefused
  rename_i packet isClaimable
  have sameId : packet.id = packetId := KeyedRows.key_of_find (claimable_eq_ok isClaimable).1
  subst sameId
  dsimp only
  split
  · rename_i fails
    refine Or.inl ⟨rfl, fun _ _ commits => ?_⟩
    rw [commits.2.1] at fails
    cases fails
  rename_i applies
  unfold applyClaim
  split
  · rename_i isTaken
    refine Or.inl ⟨rfl, fun _ _ commits => ?_⟩
    split at isTaken
    · rename_i created
      exact (UniqueTable.create_eq_none_iff tables.claims _).mp created commits.2.2
    · cases isTaken
  · rename_i applied isApplied
    split at isApplied
    · cases isApplied
    rename_i claims created
    cases isApplied
    obtain ⟨absent, rows⟩ := UniqueTable.rows_of_create created
    have commits : Commits tables reply userId packet.id :=
      ⟨by simpa using isMember, by simpa using applies, absent⟩
    refine Or.inr ⟨packet, isClaimable, rfl, commits, ?_, ?_⟩
    · rw [tables_of_payClaim]
      split
      · exact rows
      · exact rows
    · exact ledger_of_payClaim reply packet userId

/-! ### One event -/

theorem claimsBy_append {after : Tables} {rows : List LuckyPacketClaim}
    (written : after.claims.rows = tables.claims.rows ++ rows) :
    after.claimsBy packetId userId = tables.claimsBy packetId userId ++
      rows.filter (fun claim => claim.key = (packetId, userId)) := by
  unfold Tables.claimsBy
  rw [written, List.filter_append]

theorem claimCredits_append {before after : Db} {rows : List LedgerEntry}
    (written : after.ledger = before.ledger ++ rows) :
    claimCredits after packetId userId =
      claimCredits before packetId userId ++ rows.filter (isClaimCreditOf packetId userId) := by
  unfold claimCredits
  rw [written, List.filter_append]

/-- A movement of another type or for another reason. -/
theorem claimCredits_of_move (platform : Platform) (db : Db) {type : WalletEntryType}
    {input : WalletMovementInput} (other : type ≠ .credit ∨ input.reason ≠ .luckyPacketClaim) :
    claimCredits (WalletService.move platform db type input).1 packetId userId =
      claimCredits db packetId userId := by
  rw [claimCredits_append (WalletService.ledger_of_move platform db type input)]
  split
  · rw [List.filter_cons_of_neg, List.filter_nil, List.append_nil]
    rw [isClaimCreditOf, decide_eq_true_iff]
    rintro ⟨isCredit, isClaim, -⟩
    exact other.elim (fun differs => differs isCredit) (fun differs => differs isClaim)
  · rw [List.filter_nil, List.append_nil]

theorem claimCredits_of_create (reply : CreateReply) (creatorId : UserId) (roomId : RoomId)
    (dto : CreateLuckyPacketDto) :
    claimCredits (LuckyPacketService.create tables reply creatorId roomId dto).1.db packetId
        userId = claimCredits tables.db packetId userId := by
  have debit : claimCredits (debited tables reply creatorId roomId dto).db packetId userId =
      claimCredits tables.db packetId userId :=
    claimCredits_of_move reply.platform tables.db (Or.inl WalletEntryType.noConfusion)
  by_cases stores : Stores tables reply creatorId roomId dto
  · obtain ⟨packet, -, -, -, isCreated⟩ := create_of_stores stores
    rw [isCreated]
    exact debit
  · rcases create_of_not_stores stores with isSame | isDebited
    · rw [isSame]
    · rw [isDebited]
      exact debit

theorem claims_of_create (reply : CreateReply) (creatorId : UserId) (roomId : RoomId)
    (dto : CreateLuckyPacketDto) :
    (LuckyPacketService.create tables reply creatorId roomId dto).1.claims = tables.claims := by
  by_cases stores : Stores tables reply creatorId roomId dto
  · obtain ⟨packet, -, -, -, isCreated⟩ := create_of_stores stores
    rw [isCreated]
    rfl
  · rcases create_of_not_stores stores with isSame | isDebited
    · rw [isSame]
    · rw [isDebited]
      rfl

theorem claimCredits_of_refundExpired (tables : Tables) (reply : RefundReply)
    (refunded : PacketId) :
    (refundExpired tables reply refunded).claims = tables.claims ∧
      claimCredits (refundExpired tables reply refunded).db packetId userId =
        claimCredits tables.db packetId userId := by
  unfold refundExpired
  split
  · exact ⟨rfl, rfl⟩
  rename_i fresh found
  split
  · exact ⟨rfl, rfl⟩
  split
  · exact ⟨rfl, rfl⟩
  dsimp only
  split
  · exact ⟨rfl, rfl⟩
  rename_i db isRefunded
  have credits : claimCredits db packetId userId = claimCredits tables.db packetId userId := by
    unfold refundRemaining at isRefunded
    split at isRefunded
    · split at isRefunded
      · cases isRefunded
      split at isRefunded
      · cases isRefunded
      rename_i db result moved
      cases isRefunded
      have same : claimCredits (WalletService.credit reply.platform tables.db
          (refundCredit fresh (toNumber fresh.remainingCoins))).1 packetId userId =
            claimCredits tables.db packetId userId :=
        claimCredits_of_move reply.platform tables.db (Or.inr WalletTxnReason.noConfusion)
      rw [moved] at same
      exact same
    · cases isRefunded
      rfl
  split
  · exact ⟨rfl, credits⟩
  · exact ⟨rfl, credits⟩

/-- The event is an attempt of the user at the packet. -/
def PacketEvent.IsAttempt (packetId : PacketId) (userId : UserId) : PacketEvent → Prop
  | .claim _ claimant _ claimed => claimed = packetId ∧ claimant = userId
  | _ => False

/-- A claim of another packet or of another user. -/
theorem same_of_claim {reply : ClaimReply} {claimant : UserId} {roomId : RoomId}
    {claimed : PacketId} (other : ¬(claimed = packetId ∧ claimant = userId)) :
    (claim tables reply claimant roomId claimed).1.claimsBy packetId userId =
        tables.claimsBy packetId userId ∧
      claimCredits (claim tables reply claimant roomId claimed).1.db packetId userId =
        claimCredits tables.db packetId userId := by
  rcases claim_spec tables reply claimant roomId claimed with
    ⟨isSame, -⟩ | ⟨packet, -, sameId, -, rows, ledger⟩
  · rw [isSame]
    exact ⟨rfl, rfl⟩
  · subst sameId
    rw [claimsBy_append rows, claimCredits_append ledger]
    constructor
    · rw [List.filter_cons_of_neg, List.filter_nil, List.append_nil]
      rw [decide_eq_true_iff]
      exact fun sameKey => other (Prod.mk.inj sameKey)
    · have none : (creditRows tables.db reply packet claimant).filter
          (isClaimCreditOf packetId userId) = [] := by
        unfold creditRows
        split
        · rw [List.filter_cons_of_neg, List.filter_nil]
          rw [isClaimCreditOf, decide_eq_true_iff]
          rintro ⟨-, -, samePacket, sameUser⟩
          exact other ⟨Option.some.inj samePacket, sameUser⟩
        · exact List.filter_nil
      rw [none, List.append_nil]

theorem same_of_step (tables : Tables) {event : PacketEvent}
    (other : ¬event.IsAttempt packetId userId) :
    (step tables event).claimsBy packetId userId = tables.claimsBy packetId userId ∧
      claimCredits (step tables event).db packetId userId =
        claimCredits tables.db packetId userId := by
  cases event with
  | create reply creatorId roomId dto =>
      refine ⟨?_, claimCredits_of_create reply creatorId roomId dto⟩
      unfold Tables.claimsBy
      rw [step, claims_of_create]
  | claim reply claimant roomId claimed => exact same_of_claim other
  | refundExpired reply refunded =>
      obtain ⟨claims, credits⟩ := claimCredits_of_refundExpired tables reply refunded
      refine ⟨?_, credits⟩
      unfold Tables.claimsBy
      rw [step, claims]
  | pass milliseconds => exact ⟨rfl, rfl⟩

/-! ### Attempts of one user at one packet -/

/-- An attempt that records its row has its credit taken. -/
def PaysIfRecorded (packetId : PacketId) (userId : UserId) (tables : Tables) : PacketEvent → Prop
  | .claim reply claimant roomId claimed =>
      claimed = packetId ∧ claimant = userId →
        ∀ packet ∈ (claimable tables roomId packetId).toOption,
          Commits tables reply userId packetId → Credits tables.db reply packet userId
  | _ => True

instance (packetId : PacketId) (userId : UserId) (tables : Tables) :
    (event : PacketEvent) → Decidable (PaysIfRecorded packetId userId tables event)
  | .claim _ _ roomId _ =>
      inferInstanceAs (Decidable (_ → ∀ packet ∈ (claimable tables roomId packetId).toOption, _))
  | .create .. => isTrue trivial
  | .refundExpired .. => isTrue trivial
  | .pass _ => isTrue trivial

/-- What an attempt writes: its row, and the credit of its row where the wallet takes it. -/
theorem written_of_attempt {reply : ClaimReply} {roomId : RoomId} {packet : LuckyPacket}
    (rows : (claim tables reply userId roomId packet.id).1.claims.rows =
      tables.claims.rows ++ [claimRow reply packet userId])
    (ledger : (claim tables reply userId roomId packet.id).1.db.ledger =
      tables.db.ledger ++ creditRows tables.db reply packet userId) :
    (claim tables reply userId roomId packet.id).1.claimsBy packet.id userId =
        tables.claimsBy packet.id userId ++ [claimRow reply packet userId] ∧
      claimCredits (claim tables reply userId roomId packet.id).1.db packet.id userId =
        claimCredits tables.db packet.id userId ++
          creditRows tables.db reply packet userId := by
  rw [claimsBy_append rows, claimCredits_append ledger]
  constructor
  · rw [List.filter_cons_of_pos, List.filter_nil]
    exact decide_eq_true rfl
  · have all : (creditRows tables.db reply packet userId).filter
        (isClaimCreditOf packet.id userId) = creditRows tables.db reply packet userId := by
      unfold creditRows
      split
      · rw [List.filter_cons_of_pos, List.filter_nil]
        rw [isClaimCreditOf, decide_eq_true_iff]
        exact ⟨rfl, rfl, rfl, rfl⟩
      · exact List.filter_nil
    rw [all]

/-- Where the row is free, neither the row nor its credit is there yet. -/
theorem nothing_of_paid (paid : tables.Paid packetId userId)
    (absent : tables.claims.Absent (packetId, userId)) :
    tables.claimsBy packetId userId = [] ∧ claimCredits tables.db packetId userId = [] := by
  have unclaimed := Tables.claimsBy_eq_nil_iff.mpr absent
  have amounts := paid.credited
  rw [unclaimed, List.map_nil] at amounts
  exact ⟨unclaimed, List.map_eq_nil_iff.mp amounts⟩

theorem paid_of_step {event : PacketEvent} (paid : tables.Paid packetId userId)
    (pays : PaysIfRecorded packetId userId tables event) :
    (step tables event).Paid packetId userId := by
  by_cases isAttempt : event.IsAttempt packetId userId
  · cases event with
    | claim reply claimant roomId claimed =>
        obtain ⟨rfl, rfl⟩ := isAttempt
        rcases claim_spec tables reply claimant roomId claimed with
          ⟨isSame, -⟩ | ⟨packet, isClaimable, rfl, commits, rows, ledger⟩
        · rw [step, isSame]
          exact paid
        · have isPacket : packet ∈ (claimable tables roomId packet.id).toOption := by
            rw [isClaimable]
            rfl
          have credits := pays ⟨rfl, rfl⟩ packet isPacket commits
          obtain ⟨nowRows, nowCredits⟩ := written_of_attempt rows ledger
          obtain ⟨noRows, noCredits⟩ := nothing_of_paid paid commits.2.2
          rw [noRows, List.nil_append] at nowRows
          rw [noCredits, List.nil_append, creditRows, if_pos credits] at nowCredits
          constructor
          · rw [step, nowRows, nowCredits]
            rfl
          · rw [step, nowCredits]
            exact le_refl _
    | _ => cases isAttempt
  · obtain ⟨claims, credits⟩ := same_of_step tables isAttempt
    exact paid.of_same claims credits

theorem lost_of_not_pays {event : PacketEvent} (paid : tables.Paid packetId userId)
    (unpaid : ¬PaysIfRecorded packetId userId tables event) :
    (step tables event).Lost packetId userId := by
  cases event with
  | claim reply claimant roomId claimed =>
      unfold PaysIfRecorded at unpaid
      push Not at unpaid
      obtain ⟨⟨rfl, rfl⟩, packet, isPacket, commits, uncredited⟩ := unpaid
      rcases claim_spec tables reply claimant roomId claimed with
        ⟨-, uncommitted⟩ | ⟨other, isClaimable, rfl, -, rows, ledger⟩
      · cases isClaimable : claimable tables roomId claimed with
        | error error =>
            rw [isClaimable] at isPacket
            cases isPacket
        | ok found => exact absurd commits (uncommitted found isClaimable)
      · rw [isClaimable] at isPacket
        cases isPacket
        obtain ⟨nowRows, nowCredits⟩ := written_of_attempt rows ledger
        obtain ⟨-, noCredits⟩ := nothing_of_paid paid commits.2.2
        constructor
        · rw [step, nowRows]
          exact List.append_ne_nil_of_right_ne_nil _ (List.cons_ne_nil _ _)
        · rw [step, nowCredits, noCredits, creditRows, if_neg uncredited, List.append_nil]
  | _ => exact absurd trivial unpaid

theorem lost_of_step {event : PacketEvent} (lost : tables.Lost packetId userId) :
    (step tables event).Lost packetId userId := by
  by_cases isAttempt : event.IsAttempt packetId userId
  · cases event with
    | claim reply claimant roomId claimed =>
        obtain ⟨rfl, rfl⟩ := isAttempt
        rcases claim_spec tables reply claimant roomId claimed with
          ⟨isSame, -⟩ | ⟨packet, -, -, commits, -⟩
        · rw [step, isSame]
          exact lost
        · exact absurd (Tables.claimsBy_eq_nil_iff.mpr commits.2.2) lost.taken
    | _ => cases isAttempt
  · obtain ⟨claims, credits⟩ := same_of_step tables isAttempt
    exact lost.of_same claims credits

/-- Whatever fails and however often the user comes back: once an attempt meets no failure at
its credit, the coins taken are credited once if and only if none before it did. -/
theorem paid_iff_of_retried {events : List PacketEvent} {reply : ClaimReply} {roomId : RoomId}
    (start : Tables) (atStart : start.Paid packetId userId)
    (answered : PaysIfRecorded packetId userId (Runs.run step start events)
      (.claim reply userId roomId packetId)) :
    (Runs.run step start (events ++ [.claim reply userId roomId packetId])).Paid packetId
        userId ↔ Runs.Each step (PaysIfRecorded packetId userId) start events := by
  have kept : ∀ (tables : Tables) (event : PacketEvent), tables.Paid packetId userId →
      PaysIfRecorded packetId userId tables event → (step tables event).Paid packetId userId :=
    fun _ _ paid pays => paid_of_step paid pays
  have spoils : ∀ (tables : Tables) (event : PacketEvent), tables.Paid packetId userId →
      ¬PaysIfRecorded packetId userId tables event →
        (step tables event).Lost packetId userId :=
    fun _ _ paid unpaid => lost_of_not_pays paid unpaid
  have stays : ∀ (tables : Tables) (event : PacketEvent), tables.Lost packetId userId →
      (step tables event).Lost packetId userId := fun _ _ lost => lost_of_step lost
  have exactly := Runs.final_iff_each kept spoils stays (fun _ => Tables.not_paid_of_lost) start
    atStart (events ++ [.claim reply userId roomId packetId])
  rw [exactly, Runs.each_append]
  constructor
  · exact fun both => both.1
  · exact fun each => ⟨each, answered, trivial⟩

/-- The credit is made, the write-back of its transaction fails, and the user comes back. -/
def unwrittenBack : List PacketEvent :=
  [.claim { draw := 4, setClaimTxnFails := true } "first" "room" "packet", .pass 1000]

theorem paid_unwrittenBack :
    (Runs.run step openingTables
      (unwrittenBack ++ [.claim {} "first" "room" "packet"])).Paid "packet" "first" :=
  (paid_iff_of_retried openingTables ⟨rfl, by decide⟩ (by decide +kernel)).mpr (by decide +kernel)

/-- The claim is committed and the wallet does not answer. -/
def uncredited : List PacketEvent :=
  [.claim { draw := 4, creditFails := true } "first" "room" "packet", .pass 1000]

theorem not_paid_uncredited :
    ¬(Runs.run step openingTables
      (uncredited ++ [.claim {} "first" "room" "packet"])).Paid "packet" "first" := by
  intro paid
  have amounts := paid.credited
  revert amounts
  decide +kernel

end Soulzaa.LuckyPackets
