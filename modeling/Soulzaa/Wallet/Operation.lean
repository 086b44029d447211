/-
The wallet module as a state machine.

An event is one operation together with what the platform services answer while
it runs.  `writes` says, from the state before, what the operation commits;
`step_wrote` is the one fact about `step` that the invariants below rest on.
-/

import Soulzaa.Lib.Runs
import Soulzaa.Wallet.Reservation
import Soulzaa.Wallet.Transaction

namespace Soulzaa

inductive WalletCall where
  | creditWallet
  | debitWallet
  | reverseWallet
  deriving DecidableEq, Repr

inductive Operation where
  | ensureWallet (userId : UserId)
  | updateWalletStatus (walletId : UserId) (status : WalletStatus)
  /-- `WalletService.credit` and `debit`. -/
  | move (type : WalletEntryType) (input : WalletMovementInput)
  | wallet (call : WalletCall) (dto : CreditWalletDto) (actorId : Option UserId)
  | transferCoins (dto : TransferWalletDto) (actorId : Option UserId)
  | reserveCoins (dto : ReserveCoinsDto)
  /-- `releaseReservation` and `consumeReservation`. -/
  | settle (settlement : ReservationService.Settlement) (reservationId : ReservationId)
  deriving DecidableEq, Repr

structure Event where
  platform : Platform
  operation : Operation
  deriving DecidableEq, Repr

open WalletTransactionService

namespace WalletCall

def method : WalletCall → CreditWalletDto → Method
  | .creditWallet => creditMethod
  | .debitWallet => debitMethod
  | .reverseWallet => reverseMethod

def guarded : WalletCall → CreditWalletDto → Except Failure Unit
  | .reverseWallet, dto => validateReversal dto
  | _, _ => .ok ()

def run : WalletCall → Platform → Db → CreditWalletDto → Option UserId →
    Db × Except Failure TransactionResponse
  | .creditWallet => WalletTransactionService.creditWallet
  | .debitWallet => WalletTransactionService.debitWallet
  | .reverseWallet => WalletTransactionService.reverseWallet

theorem run_eq (call : WalletCall) (platform : Platform) (db : Db) (dto : CreditWalletDto)
    (actorId : Option UserId) :
    call.run platform db dto actorId =
      match call.guarded dto with
      | .error failure => (db, .error failure)
      | .ok () => perform platform db (walletRequest (call.method dto) dto actorId) := by
  cases call <;> rfl

def Posts (call : WalletCall) (platform : Platform) (db : Db) (dto : CreditWalletDto)
    (actorId : Option UserId) : Prop :=
  call.guarded dto = .ok () ∧ (walletRequest (call.method dto) dto actorId).Posts platform db

instance (call : WalletCall) (platform : Platform) (db : Db) (dto : CreditWalletDto)
    (actorId : Option UserId) : Decidable (call.Posts platform db dto actorId) :=
  inferInstanceAs (Decidable (_ ∧ _))

theorem run_of_posts {call : WalletCall} {platform : Platform} {db : Db}
    {dto : CreditWalletDto} {actorId : Option UserId}
    (posts : call.Posts platform db dto actorId) :
    db.Wrote (call.run platform db dto actorId).1
      (walletWrites (call.method dto) dto actorId db) := by
  rw [run_eq, posts.1]
  exact perform_walletRequest posts.2

theorem run_of_not_posts {call : WalletCall} {platform : Platform} {db : Db}
    {dto : CreditWalletDto} {actorId : Option UserId}
    (refused : ¬call.Posts platform db dto actorId) :
    Db.Same db (call.run platform db dto actorId).1 := by
  rw [run_eq]
  cases allowed : call.guarded dto with
  | error failure => exact Db.Same.refl db
  | ok passed => exact perform_of_not_posts fun posts => refused ⟨allowed, posts⟩

end WalletCall

namespace Operation

def run (platform : Platform) (db : Db) : Operation → Db
  | .ensureWallet userId => WalletService.ensureWallet db userId
  | .updateWalletStatus walletId status =>
      (WalletService.updateWalletStatus db walletId status).1
  | .move type input => (WalletService.move platform db type input).1
  | .wallet call dto actorId => (call.run platform db dto actorId).1
  | .transferCoins dto actorId =>
      (WalletTransactionService.transferCoins platform db dto actorId).1
  | .reserveCoins dto => (ReservationService.reserveCoins platform db dto).1
  | .settle settlement reservationId =>
      (ReservationService.settle settlement db reservationId).1

/-- The operation commits writes of its own: it is neither refused nor a replay. -/
def Posts (platform : Platform) (db : Db) : Operation → Prop
  | .ensureWallet _ => False
  | .updateWalletStatus walletId _ => (db.findWallet walletId).isSome
  | .move type input => WalletService.Posts platform db type input
  | .wallet call dto actorId => call.Posts platform db dto actorId
  | .transferCoins dto actorId => (transferRequest dto actorId).Posts platform db
  | .reserveCoins dto => ReservationService.Posts platform db dto
  | .settle _ reservationId => (ReservationService.settled? db reservationId).isSome

instance (platform : Platform) (db : Db) : (operation : Operation) →
    Decidable (operation.Posts platform db)
  | .ensureWallet _ => inferInstanceAs (Decidable False)
  | .updateWalletStatus walletId _ =>
      inferInstanceAs (Decidable ((db.findWallet walletId).isSome = true))
  | .move type input => inferInstanceAs (Decidable (WalletService.Posts platform db type input))
  | .wallet call dto actorId => inferInstanceAs (Decidable (call.Posts platform db dto actorId))
  | .transferCoins dto actorId =>
      inferInstanceAs (Decidable ((transferRequest dto actorId).Posts platform db))
  | .reserveCoins dto => inferInstanceAs (Decidable (ReservationService.Posts platform db dto))
  | .settle _ reservationId =>
      inferInstanceAs (Decidable ((ReservationService.settled? db reservationId).isSome = true))

def writes (db : Db) : Operation → Writes
  | .ensureWallet _ => Writes.nothing
  | .updateWalletStatus walletId status =>
      { Writes.nothing with row := onlyRow walletId (Wallet.withStatus status) }
  | .move type input =>
      WalletRepository.movementWrites db (WalletService.movementInput type input)
  | .wallet call dto actorId => walletWrites (call.method dto) dto actorId db
  | .transferCoins dto actorId => transferWrites dto actorId db
  | .reserveCoins dto => ReservationService.reserveWrites dto
  | .settle settlement reservationId =>
      match ReservationService.settled? db reservationId with
      | some reservation =>
          ReservationService.settleWrites settlement reservationId reservation
      | none => Writes.nothing

/-- A settlement that posts writes what the reservation it found asks for. -/
theorem settles_of_posts {db : Db} {settlement : ReservationService.Settlement}
    {reservationId : ReservationId} {platform : Platform}
    (posts : Posts platform db (.settle settlement reservationId)) :
    ∃ reservation, ReservationService.Settles db reservationId reservation ∧
      writes db (.settle settlement reservationId) =
        ReservationService.settleWrites settlement reservationId reservation := by
  obtain ⟨reservation, settled⟩ := Option.isSome_iff_exists.mp posts
  refine ⟨reservation, (ReservationService.settled?_eq_some_iff db _ _).mp settled, ?_⟩
  simp only [writes, settled]

theorem run_of_posts {platform : Platform} {db : Db} {operation : Operation}
    (posts : operation.Posts platform db) :
    db.Wrote (operation.run platform db) (operation.writes db) := by
  cases operation with
  | ensureWallet userId => exact posts.elim
  | updateWalletStatus walletId status =>
      obtain ⟨wallet, found⟩ := Option.isSome_iff_exists.mp posts
      have changed : run platform db (.updateWalletStatus walletId status) =
          db.putWallet walletId (wallet.withStatus status) := by
        simp only [run, WalletService.updateWalletStatus, WalletService.getWalletById, found]
      rw [changed, ← Db.row_eq_of_findWallet found]
      exact ⟨fun other => Db.row_putWallet_update db walletId other (Wallet.withStatus status),
        (List.append_nil _).symm, (List.append_nil _).symm, rfl⟩
  | move type input =>
      change db.Wrote (WalletService.move platform db type input).1 _
      rw [WalletService.move_of_posts posts]
      exact WalletRepository.posted_wrote db _ _
  | wallet call dto actorId => exact WalletCall.run_of_posts posts
  | transferCoins dto actorId =>
      obtain ⟨response, succeeded, new, wrote⟩ := transferCoins_of_posts posts
      exact wrote
  | reserveCoins dto => exact ReservationService.reserveCoins_of_posts posts
  | settle settlement reservationId =>
      obtain ⟨reservation, settles, written⟩ := settles_of_posts posts
      rw [written]
      exact ReservationService.settle_of_settles settles

theorem run_of_not_posts {platform : Platform} {db : Db} {operation : Operation}
    (refused : ¬operation.Posts platform db) : Db.Same db (operation.run platform db) := by
  cases operation with
  | ensureWallet userId => exact Db.same_upsertWallet db userId
  | updateWalletStatus walletId status =>
      have missing : db.findWallet walletId = none :=
        Option.not_isSome_iff_eq_none.mp refused
      have unchanged : run platform db (.updateWalletStatus walletId status) = db := by
        simp only [run, WalletService.updateWalletStatus, WalletService.getWalletById, missing]
      rw [unchanged]
      exact Db.Same.refl db
  | move type input =>
      change Db.Same db (WalletService.move platform db type input).1
      rw [WalletService.move_of_not_posts refused]
      exact Db.Same.refl db
  | wallet call dto actorId => exact WalletCall.run_of_not_posts refused
  | transferCoins dto actorId => exact perform_of_not_posts refused
  | reserveCoins dto => exact ReservationService.reserveCoins_of_not_posts refused
  | settle settlement reservationId =>
      change Db.Same db (ReservationService.settle settlement db reservationId).1
      rw [ReservationService.settle_of_not_settles]
      · exact Db.Same.refl db
      · intro reservation settles
        apply refused
        change (ReservationService.settled? db reservationId).isSome = true
        rw [(ReservationService.settled?_eq_some_iff db reservationId reservation).mpr settles]
        rfl

end Operation

/-! ### Events -/

namespace Event

def Posts (db : Db) (event : Event) : Prop :=
  event.operation.Posts event.platform db

instance (db : Db) (event : Event) : Decidable (event.Posts db) :=
  inferInstanceAs (Decidable (event.operation.Posts event.platform db))

def writes (db : Db) (event : Event) : Writes :=
  if event.Posts db then event.operation.writes db else Writes.nothing

def ofOperation (operation : Operation) : Event :=
  { platform := Platform.normal
    operation := operation }

end Event

def step (db : Db) (event : Event) : Db :=
  event.operation.run event.platform db

/-- A step changes the tables by its writes and in no other way. -/
theorem step_wrote (db : Db) (event : Event) : db.Wrote (step db event) (event.writes db) := by
  unfold Event.writes step
  by_cases posts : event.Posts db
  · rw [if_pos posts]
    exact Operation.run_of_posts posts
  · rw [if_neg posts]
    exact (Operation.run_of_not_posts posts).wrote_nothing

end Soulzaa
