/-
ReservationService: holds on the available aggregate.

A hold moves coins from the available to the reserved column.  Releasing moves
them back, consuming drops them from the reserved column.  Both settle calls
read the reservation first and run their transaction on the row they read.
-/

import Soulzaa.Wallet.Movement

namespace Soulzaa

structure ReservationResponse where
  id : ReservationId
  status : ReservationStatus
  amount : String
  walletAvailableBalance : Option String
  walletReservedBalance : String
  deriving DecidableEq, Repr

namespace ReservationService

open WalletService (getOrCreateWallet)
open WalletValidationService

/-! ### reserveCoins -/

def heldWallet (amount : Int) (wallet : Wallet) : Wallet :=
  { wallet with
    availableBalance := wallet.availableBalance - amount
    reservedBalance := wallet.reservedBalance + amount
    version := wallet.version + 1 }

def heldReservation (dto : ReserveCoinsDto) : WalletReservation :=
  { walletId := dto.userId
    currency := dto.currency.getD .gold
    amount := dto.amount
    purpose := dto.purpose
    status := .held
    referenceType := dto.referenceType
    referenceId := dto.referenceId }

/-- The row checks, made before the transaction and again under the lock. -/
def validateReserve (dto : ReserveCoinsDto) (wallet : Wallet) : Except Failure Unit := do
  validateWalletActive wallet
  validatePositiveAmount dto.amount
  validateSufficientBalance wallet dto.amount none

def reserveTransaction (dto : ReserveCoinsDto) (db : Db) :
    Except Failure (Db × ReservationResponse) :=
  match db.findWallet dto.userId with
  | none => .error (.notFound "Wallet not found")
  | some lockedWallet => do
      validateWalletActive lockedWallet
      validateSufficientBalance lockedWallet dto.amount none
      let id := db.reservations.length
      let db ← db.updateWallet dto.userId (heldWallet dto.amount)
      .ok (db.createReservation (heldReservation dto),
        { id := id
          status := .held
          amount := toString dto.amount
          walletAvailableBalance := some (toString (db.row dto.userId).availableBalance)
          walletReservedBalance := toString (db.row dto.userId).reservedBalance })

def reserveCoins (platform : Platform) (db : Db) (dto : ReserveCoinsDto) :
    Db × Except Failure ReservationResponse :=
  match validateEconomyStatus platform with
  | .error failure => (db, .error failure)
  | .ok () =>
      let (ready, wallet) := getOrCreateWallet db dto.userId
      match validateReserve dto wallet with
      | .error failure => (ready, .error failure)
      | .ok () =>
          match reserveTransaction dto ready with
          | .ok (after, response) => (after, .ok response)
          | .error failure => (ready, .error failure)

def Posts (platform : Platform) (db : Db) (dto : ReserveCoinsDto) : Prop :=
  platform.Open ∧ (db.row dto.userId).status = .active ∧ 0 < dto.amount ∧
    dto.amount ≤ (db.row dto.userId).availableBalance

instance (platform : Platform) (db : Db) (dto : ReserveCoinsDto) :
    Decidable (Posts platform db dto) :=
  inferInstanceAs (Decidable (_ ∧ _ ∧ _ ∧ _))

def reserveWrites (dto : ReserveCoinsDto) : Writes :=
  { row := onlyRow dto.userId (heldWallet dto.amount)
    entries := []
    headers := []
    reservations := fun rows => rows ++ [heldReservation dto] }

theorem validateReserve_ok_iff (dto : ReserveCoinsDto) (wallet : Wallet) :
    validateReserve dto wallet = .ok () ↔
      wallet.status = .active ∧ 0 < dto.amount ∧ dto.amount ≤ wallet.availableBalance := by
  have funded := validateSufficientBalance_ok_iff wallet dto.amount none
  simp only [checkedBalance] at funded
  rw [← validateWalletActive_ok_iff, ← validatePositiveAmount_ok_iff, ← funded]
  unfold validateReserve
  cases validateWalletActive wallet <;> cases validatePositiveAmount dto.amount <;> simp

theorem reserveCoins_of_posts {platform : Platform} {db : Db} {dto : ReserveCoinsDto}
    (posts : Posts platform db dto) :
    db.Wrote (reserveCoins platform db dto).1 (reserveWrites dto) := by
  obtain ⟨opened, active, positive, funded⟩ := posts
  have found := Db.findWallet_upsertWallet_self db dto.userId
  have enough : validateSufficientBalance (db.row dto.userId) dto.amount none = .ok () :=
    (validateSufficientBalance_ok_iff _ _ _).mpr funded
  simp only [reserveCoins, (validateEconomyStatus_ok_iff platform).mpr opened,
    WalletService.getOrCreateWallet_eq,
    (validateReserve_ok_iff dto _).mpr ⟨active, positive, funded⟩, reserveTransaction, found,
    (validateWalletActive_ok_iff _).mpr active, enough, ok_bind,
    Db.updateWallet_of_found found, Db.putWallet_upsertWallet]
  exact ⟨fun other => Db.row_putWallet_update db dto.userId other (heldWallet dto.amount),
    (List.append_nil _).symm, (List.append_nil _).symm, rfl⟩

theorem reserveCoins_of_not_posts {platform : Platform} {db : Db} {dto : ReserveCoinsDto}
    (refused : ¬Posts platform db dto) : Db.Same db (reserveCoins platform db dto).1 := by
  unfold reserveCoins
  cases checked : validateEconomyStatus platform with
  | error failure => exact Db.Same.refl db
  | ok passed =>
      have opened := (validateEconomyStatus_ok_iff platform).mp checked
      simp only [WalletService.getOrCreateWallet_eq]
      cases valid : validateReserve dto (db.row dto.userId) with
      | error failure => exact Db.same_upsertWallet db dto.userId
      | ok passed =>
          exact absurd ⟨opened, (validateReserve_ok_iff dto _).mp valid⟩ refused

/-! ### releaseReservation and consumeReservation -/

inductive Settlement where
  | release
  | consume
  deriving DecidableEq, Repr

def Settlement.status : Settlement → ReservationStatus
  | .release => .released
  | .consume => .consumed

def Settlement.wallet (amount : Int) : Settlement → Wallet → Wallet
  | .release, wallet =>
      { wallet with
        availableBalance := wallet.availableBalance + amount
        reservedBalance := wallet.reservedBalance - amount
        version := wallet.version + 1 }
  | .consume, wallet =>
      { wallet with
        reservedBalance := wallet.reservedBalance - amount
        totalSpent := wallet.totalSpent + amount
        version := wallet.version + 1 }

def readHeld (db : Db) (reservationId : ReservationId) : Except Failure WalletReservation :=
  match db.findReservation reservationId with
  | none => .error (.notFound s!"Reservation '{reservationId}' not found")
  | some reservation =>
      if reservation.status ≠ .held then
        .error (.badRequest (s!"Reservation '{reservationId}' is not active " ++
          s!"(Status: {reservation.status.name})"))
      else
        .ok reservation

/-- The transaction, on the reservation as it was read.  It neither locks nor
re-reads: the updates are unconditional. -/
def settleTransaction (settlement : Settlement) (reservationId : ReservationId)
    (reservation : WalletReservation) (db : Db) :
    Except Failure (Db × ReservationResponse) := do
  let db ← db.updateWallet reservation.walletId (settlement.wallet reservation.amount)
  let wallet := db.row reservation.walletId
  let db ← db.updateReservation reservationId settlement.status
  .ok (db,
    { id := reservationId
      status := settlement.status
      amount := toString reservation.amount
      walletAvailableBalance :=
        match settlement with
        | .release => some (toString wallet.availableBalance)
        | .consume => none
      walletReservedBalance := toString wallet.reservedBalance })

def settle (settlement : Settlement) (db : Db) (reservationId : ReservationId) :
    Db × Except Failure ReservationResponse :=
  match readHeld db reservationId with
  | .error failure => (db, .error failure)
  | .ok reservation =>
      match settleTransaction settlement reservationId reservation db with
      | .ok (after, response) => (after, .ok response)
      | .error failure => (db, .error failure)

def releaseReservation (db : Db) (reservationId : ReservationId) :
    Db × Except Failure ReservationResponse :=
  settle .release db reservationId

def consumeReservation (db : Db) (reservationId : ReservationId) :
    Db × Except Failure ReservationResponse :=
  settle .consume db reservationId

def settleWrites (settlement : Settlement) (reservationId : ReservationId)
    (reservation : WalletReservation) : Writes :=
  { row := onlyRow reservation.walletId (settlement.wallet reservation.amount)
    entries := []
    headers := []
    reservations := fun rows =>
      rows.modify reservationId fun row => { row with status := settlement.status } }

/-- The settlement goes through: the reservation is held by an existing wallet. -/
def Settles (db : Db) (reservationId : ReservationId) (reservation : WalletReservation) : Prop :=
  db.findReservation reservationId = some reservation ∧ reservation.status = .held ∧
    (db.findWallet reservation.walletId).isSome

def settled? (db : Db) (reservationId : ReservationId) : Option WalletReservation :=
  (db.findReservation reservationId).filter fun reservation =>
    reservation.status = .held ∧ (db.findWallet reservation.walletId).isSome

theorem settled?_eq_some_iff (db : Db) (reservationId : ReservationId)
    (reservation : WalletReservation) :
    settled? db reservationId = some reservation ↔ Settles db reservationId reservation := by
  unfold settled? Settles
  rw [Option.filter_eq_some_iff, decide_eq_true_iff]

theorem readHeld_ok_iff (db : Db) (reservationId : ReservationId)
    (reservation : WalletReservation) :
    readHeld db reservationId = .ok reservation ↔
      db.findReservation reservationId = some reservation ∧ reservation.status = .held := by
  unfold readHeld
  cases found : db.findReservation reservationId with
  | none => simp
  | some row =>
      by_cases held : row.status = .held
      · simp only [held, ne_eq, not_true_eq_false, if_false, Except.ok.injEq,
          Option.some.injEq]
        constructor
        · rintro rfl
          exact ⟨rfl, held⟩
        · exact And.left
      · simp only [held, ne_eq, not_false_eq_true, if_true, reduceCtorEq, Option.some.injEq,
          false_iff]
        rintro ⟨rfl, isHeld⟩
        exact held isHeld

theorem settleTransaction_of_found (settlement : Settlement) {reservationId : ReservationId}
    {reservation current : WalletReservation} {db : Db} {wallet : Wallet}
    (found : db.findWallet reservation.walletId = some wallet)
    (present : db.findReservation reservationId = some current) :
    ∃ after response,
      settleTransaction settlement reservationId reservation db = .ok (after, response) ∧
        db.Wrote after (settleWrites settlement reservationId reservation) := by
  have sameRow : db.row reservation.walletId = wallet := Db.row_eq_of_findWallet found
  simp only [settleTransaction, Db.updateWallet_of_found found, ok_bind]
  rw [Db.updateReservation_of_found (by exact present)]
  refine ⟨_, _, rfl, ?_, ?_, ?_, ?_⟩
  · intro other
    rw [← sameRow]
    exact Db.row_putWallet_update db reservation.walletId other
      (settlement.wallet reservation.amount)
  · exact (List.append_nil _).symm
  · exact (List.append_nil _).symm
  · rfl

theorem settle_of_settles {settlement : Settlement} {db : Db} {reservationId : ReservationId}
    {reservation : WalletReservation} (settles : Settles db reservationId reservation) :
    db.Wrote (settle settlement db reservationId).1
      (settleWrites settlement reservationId reservation) := by
  obtain ⟨present, held, walletExists⟩ := settles
  obtain ⟨wallet, found⟩ := Option.isSome_iff_exists.mp walletExists
  obtain ⟨after, response, committed, wrote⟩ :=
    settleTransaction_of_found settlement found present
  simp only [settle, (readHeld_ok_iff db reservationId reservation).mpr ⟨present, held⟩,
    committed]
  exact wrote

theorem settle_of_not_settles {settlement : Settlement} {db : Db}
    {reservationId : ReservationId}
    (refused : ∀ reservation, ¬Settles db reservationId reservation) :
    (settle settlement db reservationId).1 = db := by
  unfold settle
  cases read : readHeld db reservationId with
  | error failure => rfl
  | ok reservation =>
      obtain ⟨present, held⟩ := (readHeld_ok_iff db reservationId reservation).mp read
      have missing : db.findWallet reservation.walletId = none := by
        rw [← Option.not_isSome_iff_eq_none]
        exact fun found => refused reservation ⟨present, held, found⟩
      simp only [settleTransaction, Db.updateWallet, missing, error_bind]

end ReservationService

end Soulzaa
