/-
Conservation of coins by transfers.

The two updates of a transfer cancel in the sum of the aggregates.  On a self
transfer the second update is skipped and the amount is lost.
-/

import Soulzaa.Wallet.Transaction

namespace Soulzaa.WalletTransactionService

/-- The aggregates of the wallets a transfer involves, each counted once. -/
def totalAvailable (db : Db) (dto : TransferWalletDto) : Int :=
  ((transferOwners dto).map fun owner => (db.row owner).availableBalance).sum

/-- The amount went from the sender to the recipient, or nowhere when they are
the same user. -/
structure Conserved (before after : Db) (dto : TransferWalletDto) : Prop where
  total : totalAvailable after dto = totalAvailable before dto
  sender : ¬isSelfTransfer dto →
    (after.row dto.senderUserId).availableBalance =
      (before.row dto.senderUserId).availableBalance - dto.amount
  recipient : ¬isSelfTransfer dto →
    (after.row dto.recipientUserId).availableBalance =
      (before.row dto.recipientUserId).availableBalance + dto.amount
  self : isSelfTransfer dto →
    (after.row dto.senderUserId).availableBalance =
      (before.row dto.senderUserId).availableBalance

def TransferSucceeds (platform : Platform) (db : Db) (dto : TransferWalletDto)
    (actorId : Option UserId) : Prop :=
  ∃ response, (transferCoins platform db dto actorId).2 = .ok response ∧
    response.isDuplicateReplay = false

/-- A success moves the amount; a failure or a replay moves nothing. -/
structure Conserves (platform : Platform) (db : Db) (dto : TransferWalletDto)
    (actorId : Option UserId) : Prop where
  success : TransferSucceeds platform db dto actorId →
    Conserved db (transferCoins platform db dto actorId).1 dto
  failure : ¬TransferSucceeds platform db dto actorId →
    Db.Same db (transferCoins platform db dto actorId).1

theorem transferSucceeds_iff_posts (platform : Platform) (db : Db) (dto : TransferWalletDto)
    (actorId : Option UserId) :
    TransferSucceeds platform db dto actorId ↔ (transferRequest dto actorId).Posts platform db := by
  constructor
  · rintro ⟨response, answered, new⟩
    by_contra refused
    have replay := perform_replay_of_not_posts refused answered
    rw [new] at replay
    cases replay
  · intro posts
    obtain ⟨response, answered, new, wrote⟩ := transferCoins_of_posts posts
    exact ⟨response, answered, new⟩

theorem available_sender {before after : Db} {dto : TransferWalletDto} {actorId : Option UserId}
    (wrote : before.Wrote after (transferWrites dto actorId before)) :
    (after.row dto.senderUserId).availableBalance =
      (before.row dto.senderUserId).availableBalance - dto.amount := by
  rw [wrote.row]
  change (transferRow dto _ _).availableBalance = _
  unfold transferRow
  rw [if_pos rfl]
  rfl

theorem available_recipient {before after : Db} {dto : TransferWalletDto}
    {actorId : Option UserId} (wrote : before.Wrote after (transferWrites dto actorId before))
    (different : ¬isSelfTransfer dto) :
    (after.row dto.recipientUserId).availableBalance =
      (before.row dto.recipientUserId).availableBalance + dto.amount := by
  rw [wrote.row]
  change (transferRow dto _ _).availableBalance = _
  unfold transferRow
  rw [if_neg fun same => different same.symm, if_pos rfl]
  rfl

theorem conserved_of_different {before after : Db} {dto : TransferWalletDto}
    {actorId : Option UserId} (wrote : before.Wrote after (transferWrites dto actorId before))
    (different : ¬isSelfTransfer dto) : Conserved before after dto := by
  have sender := available_sender wrote
  have recipient := available_recipient wrote different
  refine ⟨?_, fun _ => sender, fun _ => recipient, fun self => absurd self different⟩
  have owners : transferOwners dto = [dto.senderUserId, dto.recipientUserId] :=
    if_neg different
  simp only [totalAvailable, owners, List.map_cons, List.map_nil, List.sum_cons, List.sum_nil,
    sender, recipient]
  omega

theorem not_conserved_of_self {before after : Db} {dto : TransferWalletDto}
    {actorId : Option UserId} (wrote : before.Wrote after (transferWrites dto actorId before))
    (self : isSelfTransfer dto) (positive : 0 < dto.amount) : ¬Conserved before after dto := by
  intro conserved
  have lost := available_sender wrote
  have kept := conserved.self self
  omega

/-- A transfer conserves coins exactly when it is refused, replayed, or between
two different users. -/
theorem conserves_iff_different (platform : Platform) (db : Db) (dto : TransferWalletDto)
    (actorId : Option UserId) :
    Conserves platform db dto actorId ↔
      ((transferRequest dto actorId).Posts platform db →
        dto.senderUserId ≠ dto.recipientUserId) := by
  have succeeds := transferSucceeds_iff_posts platform db dto actorId
  constructor
  · intro conserves posts self
    obtain ⟨response, answered, new, wrote⟩ := transferCoins_of_posts posts
    exact not_conserved_of_self wrote self posts.2.1 (conserves.success (succeeds.mpr posts))
  · intro different
    constructor
    · intro success
      have posts := succeeds.mp success
      obtain ⟨response, answered, new, wrote⟩ := transferCoins_of_posts posts
      exact conserved_of_different wrote (different posts)
    · intro refused
      exact perform_of_not_posts fun posts => refused (succeeds.mpr posts)

/-- A user who sends 40 of 100 coins to themselves is left with 60. -/
theorem conserves_fails_on_self_transfer :
    ¬Conserves Platform.normal
      (Db.empty.putWallet "alice"
        { userId := "alice"
          goldBalance := 100
          availableBalance := 100 })
      { senderUserId := "alice"
        recipientUserId := "alice"
        amount := 40
        idempotencyKey := "k1" } none := by
  intro conserves
  have kept := (conserves.success
    ((transferSucceeds_iff_posts _ _ _ _).mpr (by decide))).self rfl
  revert kept
  decide

end Soulzaa.WalletTransactionService
