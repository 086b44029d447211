/-
Properties of single wallet rows along a run.

`Rewrites` lists the rows an event leaves in place of the old ones, so that a
property of all rows survives an event exactly when it holds of those.  Two
properties follow: the GOLD aggregate is goldBalance less reservedBalance, and
no column goes below what is held in it.
-/

import Soulzaa.Wallet.Holds

namespace Soulzaa

open WalletTransactionService ReservationService

def AllRows (holds : Wallet → Prop) (db : Db) : Prop :=
  ∀ userId, holds (db.row userId)

def Event.Rewrites (holds : Wallet → Prop) (db : Db) (event : Event) : Prop :=
  event.Posts db →
    match event.operation with
    | .ensureWallet _ => True
    | .updateWalletStatus walletId status => holds ((db.row walletId).withStatus status)
    | .move type input =>
        holds (WalletRepository.movedWallet (WalletService.movementInput type input)
          (db.row input.userId))
    | .wallet call dto _ => holds (postedWallet (call.method dto).type dto (db.row dto.userId))
    | .transferCoins dto _ =>
        holds (senderWallet dto (db.row dto.senderUserId)) ∧
          (¬isSelfTransfer dto → holds (recipientWallet dto (db.row dto.recipientUserId)))
    | .reserveCoins dto => holds (heldWallet dto.amount (db.row dto.userId))
    | .settle settlement reservationId =>
        ∀ reservation, Settles db reservationId reservation →
          holds (settlement.wallet reservation.amount (db.row reservation.walletId))

theorem forall_onlyRow_iff {db : Db} {holds : Wallet → Prop} (all : AllRows holds db)
    (owner : UserId) (update : Wallet → Wallet) :
    (∀ userId, holds (onlyRow owner update userId (db.row userId))) ↔
      holds (update (db.row owner)) := by
  constructor
  · intro after
    have atOwner := after owner
    rwa [onlyRow_self] at atOwner
  · intro updated userId
    by_cases same : userId = owner
    · subst same
      rwa [onlyRow_self]
    · rw [onlyRow_other same]
      exact all userId

theorem forall_transferRow_iff {db : Db} {holds : Wallet → Prop} (all : AllRows holds db)
    (dto : TransferWalletDto) :
    (∀ userId, holds (transferRow dto userId (db.row userId))) ↔
      holds (senderWallet dto (db.row dto.senderUserId)) ∧
        (¬isSelfTransfer dto → holds (recipientWallet dto (db.row dto.recipientUserId))) := by
  unfold transferRow
  constructor
  · intro after
    have atSender := after dto.senderUserId
    rw [if_pos rfl] at atSender
    refine ⟨atSender, fun different => ?_⟩
    have atRecipient := after dto.recipientUserId
    rwa [if_neg fun same => different same.symm, if_pos rfl] at atRecipient
  · rintro ⟨atSender, atRecipient⟩ userId
    by_cases sender : userId = dto.senderUserId
    · subst sender
      rwa [if_pos rfl]
    · rw [if_neg sender]
      by_cases recipient : userId = dto.recipientUserId
      · subst recipient
        rw [if_pos rfl]
        exact atRecipient fun self => sender self.symm
      · rw [if_neg recipient]
        exact all userId

theorem allRows_step_iff {db : Db} {holds : Wallet → Prop} (all : AllRows holds db)
    (event : Event) : AllRows holds (step db event) ↔ event.Rewrites holds db := by
  have rows : AllRows holds (step db event) ↔
      ∀ userId, holds ((event.writes db).row userId (db.row userId)) := by
    unfold AllRows
    simp only [(step_wrote db event).row]
  rw [rows]
  unfold Event.writes Event.Rewrites
  by_cases posts : event.Posts db
  · rw [if_pos posts]
    simp only [posts, true_implies]
    obtain ⟨platform, operation⟩ := event
    cases operation with
    | ensureWallet userId => exact absurd posts id
    | updateWalletStatus walletId status => exact forall_onlyRow_iff all walletId _
    | move type input => exact forall_onlyRow_iff all input.userId _
    | wallet call dto actorId => exact forall_onlyRow_iff all dto.userId _
    | transferCoins dto actorId => exact forall_transferRow_iff all dto
    | reserveCoins dto => exact forall_onlyRow_iff all dto.userId _
    | settle settlement reservationId =>
        obtain ⟨reservation, settles, written⟩ := Operation.settles_of_posts posts
        rw [written]
        refine (forall_onlyRow_iff all reservation.walletId _).trans ?_
        constructor
        · intro rewritten other otherSettles
          obtain rfl : reservation = other :=
            Option.some.inj (settles.1.symm.trans otherSettles.1)
          exact rewritten
        · intro rewritten
          exact rewritten reservation settles
  · rw [if_neg posts]
    exact iff_of_true all fun posted => absurd posted posts

/-! ### The GOLD aggregate -/

/-- What `applyMovement` recomputes and `getBalanceProjection` reads. -/
def Wallet.Aggregated (wallet : Wallet) : Prop :=
  wallet.availableBalance = wallet.goldBalance - wallet.reservedBalance

instance (wallet : Wallet) : Decidable wallet.Aggregated :=
  inferInstanceAs (Decidable (_ = _))

/-- No transfer and no consumption posts, and a Path A movement of GOLD leaves at
least the reserved coins. -/
def Event.KeepsAggregate (db : Db) (event : Event) : Prop :=
  event.Posts db →
    match event.operation with
    | .move type input =>
        input.currency = .gold →
          (db.row input.userId).reservedBalance ≤
            (db.row input.userId).goldBalance + type.signed input.amount
    | .transferCoins _ _ => False
    | .settle .consume _ => False
    | _ => True

theorem aggregated_movedWallet_iff {wallet : Wallet} (aggregated : wallet.Aggregated)
    (type : WalletEntryType) (input : WalletMovementInput) :
    (WalletRepository.movedWallet (WalletService.movementInput type input) wallet).Aggregated ↔
      (input.currency = .gold →
        wallet.reservedBalance ≤ wallet.goldBalance + type.signed input.amount) := by
  unfold Wallet.Aggregated at *
  cases currency : input.currency
  case gold =>
    simp only [WalletRepository.movedWallet, WalletRepository.writtenWallet,
      WalletService.movementInput, currency,
      WalletRepository.balanceAfter, WalletRepository.balanceBefore, Wallet.balance,
      Wallet.setBalance, if_true, true_implies]
    split <;> omega
  all_goals
    simp only [WalletRepository.movedWallet, WalletRepository.writtenWallet,
      WalletService.movementInput, currency,
      Wallet.setBalance, aggregated, reduceCtorEq, if_false, false_implies]

theorem aggregated_postedWallet {wallet : Wallet} (aggregated : wallet.Aggregated)
    (type : WalletEntryType) (dto : CreditWalletDto) :
    (postedWallet type dto wallet).Aggregated := by
  unfold Wallet.Aggregated at *
  cases type <;> simp only [postedWallet, adjusted] <;> split <;> omega

theorem aggregated_settlement_iff {wallet : Wallet} (aggregated : wallet.Aggregated)
    {amount : Int} (positive : 0 < amount) (settlement : Settlement) :
    (settlement.wallet amount wallet).Aggregated ↔ settlement = .release := by
  unfold Wallet.Aggregated at *
  cases settlement with
  | release =>
      refine iff_of_true ?_ rfl
      simp only [Settlement.wallet]
      omega
  | consume =>
      refine iff_of_false (fun after => ?_) nofun
      simp only [Settlement.wallet] at after
      omega

theorem settled_positive {db : Db} (backed : HoldsBacked db) {reservationId : ReservationId}
    {reservation : WalletReservation} (settles : Settles db reservationId reservation) :
    0 < reservation.amount :=
  backed.positive reservation (List.mem_of_getElem? settles.1)

theorem rewrites_aggregated_iff {db : Db} (backed : HoldsBacked db)
    (aggregated : AllRows Wallet.Aggregated db) (event : Event) :
    event.Rewrites Wallet.Aggregated db ↔ event.KeepsAggregate db := by
  unfold Event.Rewrites Event.KeepsAggregate
  refine imp_congr_right fun posts => ?_
  obtain ⟨platform, operation⟩ := event
  cases operation with
  | ensureWallet userId => exact Iff.rfl
  | updateWalletStatus walletId status => exact iff_of_true (aggregated walletId) trivial
  | move type input => exact aggregated_movedWallet_iff (aggregated input.userId) type input
  | wallet call dto actorId =>
      exact iff_of_true (aggregated_postedWallet (aggregated dto.userId) _ dto) trivial
  | transferCoins dto actorId =>
      have positive : 0 < dto.amount := posts.2.1
      have atSender := aggregated dto.senderUserId
      -- The sender's aggregate falls while goldBalance stays, so no transfer keeps it.
      refine iff_of_false (fun moved => ?_) id
      have afterSender := moved.1
      unfold Wallet.Aggregated senderWallet at *
      simp only at afterSender
      omega
  | reserveCoins dto =>
      have before := aggregated dto.userId
      refine iff_of_true ?_ trivial
      unfold Wallet.Aggregated heldWallet at *
      simp only
      omega
  | settle settlement reservationId =>
      obtain ⟨reservation, settles, -⟩ := Operation.settles_of_posts posts
      have exactly := aggregated_settlement_iff (aggregated reservation.walletId)
        (settled_positive backed settles) settlement
      cases settlement with
      | release =>
          refine iff_of_true (fun other otherSettles => ?_) trivial
          obtain rfl : reservation = other :=
            Option.some.inj (settles.1.symm.trans otherSettles.1)
          exact exactly.mpr rfl
      | consume =>
          exact iff_of_false (fun moved => nomatch exactly.mp (moved reservation settles)) id

theorem aggregated_iff_keepsAggregate (events : List Event) :
    Runs.Always step (AllRows Wallet.Aggregated) Db.empty events ↔
      Runs.Each step Event.KeepsAggregate Db.empty events := by
  apply Runs.always_iff_each HoldsBacked
  · intro db event backed _ _
    exact holdsBacked_step db event backed
  · intro db event backed aggregated
    rw [allRows_step_iff aggregated, rewrites_aggregated_iff backed aggregated]
  · exact holdsBacked_empty
  · intro userId
    rw [Db.row_empty]
    rfl

/-- A transfer moves the aggregate of the sender and leaves goldBalance behind. -/
theorem aggregated_fails_on_transfer :
    ¬Runs.Always step (AllRows Wallet.Aggregated) Db.empty
      [.ofOperation (.move .credit
        { userId := "alice"
          currency := .gold
          amount := 100
          reason := .recharge
          idempotencyKey := "k1" }),
      .ofOperation (.transferCoins
        { senderUserId := "alice"
          recipientUserId := "bob"
          amount := 40
          idempotencyKey := "k2" } none)] := by
  intro always
  have aggregated := always.final "alice"
  revert aggregated
  decide

/-! ### Held coins -/

/-- No column is negative and goldBalance covers what is reserved. -/
def Wallet.Funded (wallet : Wallet) : Prop :=
  wallet.reservedBalance ≤ wallet.goldBalance ∧ 0 ≤ wallet.reservedBalance ∧
    0 ≤ wallet.availableBalance ∧ 0 ≤ wallet.diamondBalance ∧ 0 ≤ wallet.gameBalance ∧
    0 ≤ wallet.freeBalance ∧ 0 ≤ wallet.earningsBalance

instance (wallet : Wallet) : Decidable wallet.Funded :=
  inferInstanceAs (Decidable (_ ∧ _ ∧ _ ∧ _ ∧ _ ∧ _ ∧ _))

theorem funded_fresh (userId : UserId) : (Wallet.fresh userId).Funded := by
  unfold Wallet.Funded Wallet.fresh
  simp

/-- The columns a Path B debit of this currency moves hold the amount besides
what is reserved. -/
def Wallet.Covers (wallet : Wallet) (currency : Option WalletCurrency) (amount : Int) : Prop :=
  (currency = some .gold →
      amount ≤ wallet.goldBalance - wallet.reservedBalance ∧
        amount ≤ wallet.availableBalance) ∧
    (currency = some .diamond → amount ≤ wallet.diamondBalance) ∧
    (currency = some .game → amount ≤ wallet.gameBalance)

/-- GOLD debits and new holds stay within goldBalance less reservedBalance, Path B
ones also within the aggregate; a reversal stays within its column. -/
def Event.CoversHolds (db : Db) (event : Event) : Prop :=
  event.Posts db →
    match event.operation with
    | .move .debit input =>
        input.currency = .gold →
          input.amount ≤
            (db.row input.userId).goldBalance - (db.row input.userId).reservedBalance
    | .wallet .debitWallet dto _ => (db.row dto.userId).Covers dto.currency dto.amount
    | .wallet .reverseWallet dto _ => (db.row dto.userId).Covers dto.currency dto.amount
    | .reserveCoins dto =>
        dto.amount ≤ (db.row dto.userId).goldBalance - (db.row dto.userId).reservedBalance
    | _ => True

theorem funded_movedWallet_iff {wallet : Wallet} (funded : wallet.Funded)
    (type : WalletEntryType) (input : WalletMovementInput) (positive : 0 < input.amount)
    (enough : 0 ≤ WalletRepository.balanceAfter wallet (WalletService.movementInput type input)) :
    (WalletRepository.movedWallet (WalletService.movementInput type input) wallet).Funded ↔
      (type = .debit → input.currency = .gold →
        input.amount ≤ wallet.goldBalance - wallet.reservedBalance) := by
  obtain ⟨covered, reserved, available, diamond, game, free, earnings⟩ := funded
  unfold Wallet.Funded
  cases type <;> cases currency : input.currency <;>
    simp only [WalletRepository.movedWallet, WalletRepository.writtenWallet,
      WalletService.movementInput, currency,
      WalletRepository.balanceAfter, WalletRepository.balanceBefore, Wallet.balance,
      Wallet.setBalance, WalletEntryType.signed, if_true, true_implies, reduceCtorEq, if_false,
      false_implies, iff_true] at enough ⊢ <;>
    (try split) <;> omega

theorem funded_postedWallet_credit {wallet : Wallet} (funded : wallet.Funded)
    (dto : CreditWalletDto) (positive : 0 < dto.amount) :
    (postedWallet .credit dto wallet).Funded := by
  obtain ⟨covered, reserved, available, diamond, game, free, earnings⟩ := funded
  unfold Wallet.Funded
  simp only [postedWallet, adjusted, WalletEntryType.signed]
  refine ⟨?_, reserved, ?_, ?_, ?_, free, earnings⟩ <;> split <;> omega

theorem funded_postedWallet_debit_iff {wallet : Wallet} (funded : wallet.Funded)
    (dto : CreditWalletDto) :
    (postedWallet .debit dto wallet).Funded ↔ wallet.Covers dto.currency dto.amount := by
  obtain ⟨covered, reserved, available, diamond, game, free, earnings⟩ := funded
  unfold Wallet.Funded Wallet.Covers
  rcases named : dto.currency with _ | column
  · simp [postedWallet, adjusted, *]
  · cases column <;> simp [postedWallet, adjusted, WalletEntryType.signed, *]
    omega

theorem funded_senderWallet {wallet : Wallet} (funded : wallet.Funded)
    {dto : TransferWalletDto} (enough : dto.amount ≤ wallet.availableBalance) :
    (senderWallet dto wallet).Funded := by
  obtain ⟨covered, reserved, available, others⟩ := funded
  exact ⟨covered, reserved, Int.sub_nonneg_of_le enough, others⟩

theorem funded_recipientWallet {wallet : Wallet} (funded : wallet.Funded)
    {dto : TransferWalletDto} (positive : 0 < dto.amount) :
    (recipientWallet dto wallet).Funded := by
  obtain ⟨covered, reserved, available, others⟩ := funded
  exact ⟨covered, reserved, Int.add_nonneg available (Int.le_of_lt positive), others⟩

theorem funded_heldWallet_iff {wallet : Wallet} (funded : wallet.Funded) {amount : Int}
    (positive : 0 < amount) (enough : amount ≤ wallet.availableBalance) :
    (heldWallet amount wallet).Funded ↔
      amount ≤ wallet.goldBalance - wallet.reservedBalance := by
  obtain ⟨covered, reserved, available, others⟩ := funded
  unfold Wallet.Funded heldWallet
  constructor
  · rintro ⟨coveredAfter, -⟩
    simp only at coveredAfter
    omega
  · intro free
    refine ⟨?_, ?_, ?_, others⟩ <;> simp only <;> omega

theorem funded_settlement {wallet : Wallet} (funded : wallet.Funded) {amount : Int}
    (positive : 0 < amount) (held : amount ≤ wallet.reservedBalance) (settlement : Settlement) :
    (settlement.wallet amount wallet).Funded := by
  obtain ⟨covered, reserved, available, others⟩ := funded
  unfold Wallet.Funded
  cases settlement <;> refine ⟨?_, ?_, ?_, others⟩ <;> simp only [Settlement.wallet] <;> omega

theorem holds_le_heldSum {reservations : List WalletReservation}
    (positive : ∀ reservation ∈ reservations, 0 < reservation.amount)
    {reservation : WalletReservation} (member : reservation ∈ reservations) (userId : UserId) :
    reservation.holds userId ≤ heldSum reservations userId := by
  induction reservations with
  | nil => cases member
  | cons first rest ih =>
      have restPositive : ∀ other ∈ rest, 0 < other.amount := fun other later =>
        positive other (List.mem_cons_of_mem first later)
      rw [heldSum_cons]
      rcases List.mem_cons.mp member with rfl | later
      · have tail := heldSum_nonneg restPositive userId
        omega
      · have head := holds_nonneg (positive first List.mem_cons_self) userId
        have bound := ih restPositive later
        omega

theorem settled_le_reserved {db : Db} (backed : HoldsBacked db) {reservationId : ReservationId}
    {reservation : WalletReservation} (settles : Settles db reservationId reservation) :
    reservation.amount ≤ (db.row reservation.walletId).reservedBalance := by
  rw [backed.reserved]
  calc reservation.amount = reservation.holds reservation.walletId :=
        (if_pos ⟨rfl, settles.2.1⟩).symm
    _ ≤ heldSum db.reservations reservation.walletId :=
        holds_le_heldSum backed.positive (List.mem_of_getElem? settles.1) reservation.walletId

theorem rewrites_funded_iff {db : Db} (backed : HoldsBacked db)
    (funded : AllRows Wallet.Funded db) (event : Event) :
    event.Rewrites Wallet.Funded db ↔ event.CoversHolds db := by
  unfold Event.Rewrites Event.CoversHolds
  refine imp_congr_right fun posts => ?_
  obtain ⟨platform, operation⟩ := event
  cases operation with
  | ensureWallet userId => exact Iff.rfl
  | updateWalletStatus walletId status => exact iff_of_true (funded walletId) trivial
  | move type input =>
      obtain ⟨⟨positive, -⟩, -, enough, -⟩ := posts
      have exactly := funded_movedWallet_iff (funded input.userId) type input positive enough
      cases type with
      | credit => exact iff_of_true (exactly.mpr nofun) trivial
      | debit => simpa only [true_implies] using exactly
  | wallet call dto actorId =>
      cases call with
      | creditWallet =>
          exact iff_of_true
            (funded_postedWallet_credit (funded dto.userId) dto posts.2.2.1) trivial
      | debitWallet => exact funded_postedWallet_debit_iff (funded dto.userId) dto
      | reverseWallet => exact funded_postedWallet_debit_iff (funded dto.userId) dto
  | transferCoins dto actorId =>
      have valid := (validateTransfer_ok_iff dto _ _).mp posts.2.2.2
      exact iff_of_true
        ⟨funded_senderWallet (funded dto.senderUserId) valid.2.2,
          fun _ => funded_recipientWallet (funded dto.recipientUserId) posts.2.1⟩ trivial
  | reserveCoins dto =>
      exact funded_heldWallet_iff (funded dto.userId) posts.2.2.1 posts.2.2.2
  | settle settlement reservationId =>
      have kept : ∀ reservation, Settles db reservationId reservation →
          (settlement.wallet reservation.amount (db.row reservation.walletId)).Funded :=
        fun reservation settles =>
          funded_settlement (funded reservation.walletId) (settled_positive backed settles)
            (settled_le_reserved backed settles) settlement
      cases settlement <;> exact iff_of_true kept trivial

theorem funded_iff_coversHolds (events : List Event) :
    Runs.Always step (AllRows Wallet.Funded) Db.empty events ↔
      Runs.Each step Event.CoversHolds Db.empty events := by
  apply Runs.always_iff_each HoldsBacked
  · intro db event backed _ _
    exact holdsBacked_step db event backed
  · intro db event backed funded
    rw [allRows_step_iff funded, rewrites_funded_iff backed funded]
  · exact holdsBacked_empty
  · intro userId
    rw [Db.row_empty]
    exact funded_fresh userId

/-- A Path A debit is checked against goldBalance, held coins included. -/
theorem funded_fails_on_debit_of_held_coins :
    ¬Runs.Always step (AllRows Wallet.Funded) Db.empty
      [.ofOperation (.move .credit
        { userId := "alice"
          currency := .gold
          amount := 100
          reason := .recharge
          idempotencyKey := "k1" }),
      .ofOperation (.reserveCoins
        { userId := "alice"
          amount := 60
          purpose := "game" }),
      .ofOperation (.move .debit
        { userId := "alice"
          currency := .gold
          amount := 80
          reason := .casinoBet
          idempotencyKey := "k2" })] := by
  intro always
  have funded := always.final "alice"
  revert funded
  decide

end Soulzaa
