/-
Outstanding holds, while every operation runs alone.

The reserved column of a wallet is the sum of its HELD reservations.
-/

import Soulzaa.Wallet.Operation

namespace Soulzaa

open WalletTransactionService ReservationService

def heldSum (reservations : List WalletReservation) (userId : UserId) : Int :=
  ((reservations.filter fun reservation =>
    reservation.walletId = userId ∧ reservation.status = .held).map
      WalletReservation.amount).sum

def WalletReservation.holds (reservation : WalletReservation) (userId : UserId) : Int :=
  if reservation.walletId = userId ∧ reservation.status = .held then reservation.amount else 0

@[simp] theorem heldSum_nil (userId : UserId) : heldSum [] userId = 0 := rfl

theorem heldSum_cons (reservation : WalletReservation) (rest : List WalletReservation)
    (userId : UserId) :
    heldSum (reservation :: rest) userId = reservation.holds userId + heldSum rest userId := by
  unfold heldSum WalletReservation.holds
  by_cases held : reservation.walletId = userId ∧ reservation.status = .held
  · rw [List.filter_cons_of_pos (by simpa using held), if_pos held, List.map_cons,
      List.sum_cons]
  · rw [List.filter_cons_of_neg (by simpa using held), if_neg held, Int.zero_add]

theorem heldSum_append (front back : List WalletReservation) (userId : UserId) :
    heldSum (front ++ back) userId = heldSum front userId + heldSum back userId := by
  unfold heldSum
  rw [List.filter_append, List.map_append, List.sum_append]

theorem heldSum_modify {reservations : List WalletReservation} {id : ReservationId}
    {reservation : WalletReservation} (found : reservations[id]? = some reservation)
    {status : ReservationStatus} (settled : status ≠ .held) (userId : UserId) :
    heldSum (reservations.modify id fun row => { row with status := status }) userId =
      heldSum reservations userId - reservation.holds userId := by
  induction reservations generalizing id with
  | nil => cases found
  | cons first rest ih =>
      -- The settled row is this one, or one of the rest.
      cases id with
      | zero =>
          obtain rfl : first = reservation := Option.some.inj found
          have nothing :
              WalletReservation.holds { first with status := status } userId = 0 :=
            if_neg fun both => settled both.2
          rw [List.modify_zero_cons, heldSum_cons, heldSum_cons, nothing]
          omega
      | succ later =>
          rw [List.modify_succ_cons, heldSum_cons, heldSum_cons, ih found]
          omega

theorem holds_nonneg {reservation : WalletReservation} (positive : 0 < reservation.amount)
    (userId : UserId) : 0 ≤ reservation.holds userId := by
  unfold WalletReservation.holds
  split <;> omega

theorem heldSum_nonneg {reservations : List WalletReservation}
    (positive : ∀ reservation ∈ reservations, 0 < reservation.amount) (userId : UserId) :
    0 ≤ heldSum reservations userId := by
  induction reservations with
  | nil => exact Int.le_refl 0
  | cons first rest ih =>
      have head := holds_nonneg (positive first List.mem_cons_self) userId
      have tail := ih fun reservation member =>
        positive reservation (List.mem_cons_of_mem first member)
      rw [heldSum_cons]
      omega

/-! ### The invariant -/

structure HoldsBacked (db : Db) : Prop where
  positive : ∀ reservation ∈ db.reservations, 0 < reservation.amount
  reserved : ∀ userId, (db.row userId).reservedBalance = heldSum db.reservations userId

theorem holdsBacked_empty : HoldsBacked Db.empty := by
  refine ⟨fun reservation member => absurd member List.not_mem_nil, ?_⟩
  intro userId
  rw [Db.row_empty]
  rfl

theorem reserved_onlyRow {update : Wallet → Wallet}
    (still : ∀ wallet, Wallet.reservedBalance (update wallet) = wallet.reservedBalance)
    (owner userId : UserId) (wallet : Wallet) :
    (onlyRow owner update userId wallet).reservedBalance = wallet.reservedBalance := by
  unfold onlyRow
  split
  · exact still wallet
  · rfl

theorem reserved_withStatus (status : WalletStatus) (wallet : Wallet) :
    (wallet.withStatus status).reservedBalance = wallet.reservedBalance := rfl

theorem reserved_postedWallet (type : WalletEntryType) (dto : CreditWalletDto)
    (wallet : Wallet) :
    (postedWallet type dto wallet).reservedBalance = wallet.reservedBalance := by
  cases type <;> rfl

theorem reserved_movedWallet (input : ApplyMovementInput) (locked : Wallet) :
    (WalletRepository.movedWallet input locked).reservedBalance = locked.reservedBalance := by
  unfold WalletRepository.movedWallet WalletRepository.writtenWallet Wallet.setBalance
  cases input.currency <;> rfl

theorem reserved_transferRow (dto : TransferWalletDto) (userId : UserId) (wallet : Wallet) :
    (transferRow dto userId wallet).reservedBalance = wallet.reservedBalance := by
  unfold transferRow
  split
  · rfl
  · split <;> rfl

structure Writes.LeavesHolds (writes : Writes) : Prop where
  reserved : ∀ userId wallet, (writes.row userId wallet).reservedBalance = wallet.reservedBalance
  reservations : writes.reservations = id

theorem HoldsBacked.of_leavesHolds {before after : Db} {writes : Writes}
    (backed : HoldsBacked before) (leaves : writes.LeavesHolds)
    (wrote : before.Wrote after writes) : HoldsBacked after := by
  have same : after.reservations = before.reservations := by
    rw [wrote.reservations, leaves.reservations]
    rfl
  constructor
  · rw [same]
    exact backed.positive
  · intro userId
    rw [wrote.row, leaves.reserved, same]
    exact backed.reserved userId

theorem HoldsBacked.of_reserve {before after : Db} {dto : ReserveCoinsDto}
    (backed : HoldsBacked before) (positive : 0 < dto.amount)
    (wrote : before.Wrote after (reserveWrites dto)) : HoldsBacked after := by
  have added : after.reservations = before.reservations ++ [heldReservation dto] :=
    wrote.reservations
  constructor
  · intro reservation member
    rw [added, List.mem_append, List.mem_singleton] at member
    rcases member with old | rfl
    · exact backed.positive reservation old
    · exact positive
  · intro userId
    have reserved := backed.reserved userId
    rw [wrote.row, added, heldSum_append, heldSum_cons, heldSum_nil]
    change (onlyRow _ _ userId _).reservedBalance = _
    unfold WalletReservation.holds
    by_cases owner : userId = dto.userId
    · subst owner
      rw [onlyRow_self, if_pos ⟨rfl, rfl⟩, ← reserved]
      change _ + dto.amount = _ + (dto.amount + 0)
      omega
    · rw [onlyRow_other owner, if_neg fun both => owner both.1.symm, ← reserved]
      omega

/-- A settlement moves the reserved column of its wallet by the amount it read;
the sum of holds moves by what the stored reservation still held. -/
theorem reserved_of_settle {before after : Db} {settlement : Settlement}
    {reservationId : ReservationId} {reservation stored : WalletReservation}
    (backed : HoldsBacked before)
    (wrote : before.Wrote after (settleWrites settlement reservationId reservation))
    (found : before.reservations[reservationId]? = some stored) (userId : UserId) :
    (after.row userId).reservedBalance - heldSum after.reservations userId =
      stored.holds userId -
        if userId = reservation.walletId then reservation.amount else 0 := by
  have removed : heldSum after.reservations userId =
      heldSum before.reservations userId - stored.holds userId := by
    rw [wrote.reservations]
    exact heldSum_modify found (by cases settlement <;> decide) userId
  have reserved := backed.reserved userId
  rw [removed, wrote.row]
  change (onlyRow _ _ userId _).reservedBalance - _ = _
  by_cases owner : userId = reservation.walletId
  · subst owner
    rw [onlyRow_self, if_pos rfl]
    have taken : (settlement.wallet reservation.amount
        (before.row reservation.walletId)).reservedBalance =
        (before.row reservation.walletId).reservedBalance - reservation.amount := by
      cases settlement <;> rfl
    omega
  · rw [onlyRow_other owner, if_neg owner]
    omega

theorem positive_of_settle {before after : Db} {settlement : Settlement}
    {reservationId : ReservationId} {reservation : WalletReservation}
    (backed : HoldsBacked before)
    (wrote : before.Wrote after (settleWrites settlement reservationId reservation)) :
    ∀ row ∈ after.reservations, 0 < row.amount := by
  intro row member
  rw [wrote.reservations] at member
  obtain ⟨position, present⟩ := List.mem_iff_getElem?.mp member
  change (before.reservations.modify reservationId _)[position]? = _ at present
  rw [List.getElem?_modify] at present
  obtain ⟨original, found, same⟩ := Option.map_eq_some_iff.mp present
  have originalPositive := backed.positive original (List.mem_of_getElem? found)
  subst same
  split <;> exact originalPositive

theorem HoldsBacked.of_settle {before after : Db} {settlement : Settlement}
    {reservationId : ReservationId} {reservation : WalletReservation}
    (backed : HoldsBacked before) (settles : Settles before reservationId reservation)
    (wrote : before.Wrote after (settleWrites settlement reservationId reservation)) :
    HoldsBacked after := by
  refine ⟨positive_of_settle backed wrote, ?_⟩
  intro userId
  have moved := reserved_of_settle backed wrote settles.1 userId
  have whole : reservation.holds userId =
      if userId = reservation.walletId then reservation.amount else 0 := by
    unfold WalletReservation.holds
    simp only [settles.2.1, and_true, eq_comm]
  omega

theorem leavesHolds_nothing : Writes.nothing.LeavesHolds :=
  ⟨fun _ _ => rfl, rfl⟩

theorem holdsBacked_step (db : Db) (event : Event) (backed : HoldsBacked db) :
    HoldsBacked (step db event) := by
  have wrote := step_wrote db event
  unfold Event.writes at wrote
  by_cases posts : event.Posts db
  · rw [if_pos posts] at wrote
    obtain ⟨platform, operation⟩ := event
    cases operation with
    | ensureWallet userId => exact absurd posts id
    | updateWalletStatus walletId status =>
        exact backed.of_leavesHolds ⟨reserved_onlyRow (reserved_withStatus status) walletId, rfl⟩ wrote
    | move type input =>
        exact backed.of_leavesHolds
          ⟨reserved_onlyRow (reserved_movedWallet _) input.userId, rfl⟩ wrote
    | wallet call dto actorId =>
        exact backed.of_leavesHolds
          ⟨reserved_onlyRow (reserved_postedWallet _ dto) dto.userId, rfl⟩ wrote
    | transferCoins dto actorId =>
        exact backed.of_leavesHolds ⟨reserved_transferRow dto, rfl⟩ wrote
    | reserveCoins dto => exact backed.of_reserve posts.2.2.1 wrote
    | settle settlement reservationId =>
        obtain ⟨reservation, settles, written⟩ := Operation.settles_of_posts posts
        rw [written] at wrote
        exact backed.of_settle settles wrote
  · rw [if_neg posts] at wrote
    exact backed.of_leavesHolds leavesHolds_nothing wrote

end Soulzaa
