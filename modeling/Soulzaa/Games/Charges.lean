/-
The balance a stake is checked against, and the balance it is taken from.

A player who joins is asked for the coins of the game; the match that starts debits the column
that its currency names.
-/

import Soulzaa.Games.Lobby
import Soulzaa.Wallet.Movement

namespace Soulzaa

def Failure.IsInsufficient : Failure → Prop
  | .business code _ _ => code = .insufficientBalance
  | _ => False

namespace WalletService

variable {platform : Platform} {db : Db} {input : WalletMovementInput}

theorem insufficient_of_applyLocked {failure : Failure}
    {apply : ApplyMovementInput}
    (failed : WalletRepository.applyLocked apply (db.row apply.userId)
      (db.upsertWallet apply.userId) = .error failure) :
    failure.IsInsufficient ↔ (db.row apply.userId).status = .active ∧
      WalletRepository.balanceAfter (db.row apply.userId) apply < 0 := by
  have found := Db.findWallet_upsertWallet_self db apply.userId
  unfold WalletRepository.applyLocked at failed
  by_cases isActive : (db.row apply.userId).status = .active
  · rw [if_neg (not_not.mpr isActive)] at failed
    by_cases isShort : WalletRepository.balanceAfter (db.row apply.userId) apply < 0
    · rw [if_pos isShort] at failed
      cases failed
      exact iff_of_true rfl ⟨isActive, isShort⟩
    · rw [if_neg isShort] at failed
      simp only [Db.updateWallet_of_found found, ok_bind, Db.putWallet_upsertWallet,
        WalletRepository.movementHeader_upsertWallet] at failed
      by_cases absent : (db.putWallet apply.userId (WalletRepository.writtenWallet apply
          (db.row apply.userId) (db.row apply.userId))).transactions.Absent apply.idempotencyKey
      · rw [Db.createTransaction_of_absent absent] at failed
        cases failed
      · rw [Db.createTransaction_of_taken absent] at failed
        cases failed
        exact iff_of_false id fun isBoth => isShort isBoth.2
  · rw [if_pos isActive] at failed
    cases failed
    exact iff_of_false nofun fun isBoth => isActive isBoth.1

/-- A debit fails for want of coins exactly where it is made, and the column holds too little. -/
theorem insufficient_iff (platform : Platform) (db : Db) (input : WalletMovementInput) :
    (∃ failure, (debit platform db input).2 = .error failure ∧ failure.IsInsufficient) ↔
      (0 < input.amount ∧ platform.Open) ∧ db.transactions.Absent input.idempotencyKey ∧
        (db.row input.userId).status = .active ∧
          (db.row input.userId).balance input.currency < input.amount := by
  have isShort : WalletRepository.balanceAfter (db.row input.userId) (movementInput .debit input) <
      0 ↔ (db.row input.userId).balance input.currency < input.amount := by
    change (db.row input.userId).balance input.currency + -input.amount < 0 ↔ _
    omega
  have allowed := validateMove_ok_iff platform .debit input
  unfold debit move
  cases checked : validateMove platform .debit input with
  | error failure =>
      have refused : ¬(0 < input.amount ∧ platform.Open) := fun both => by
        rw [allowed.mpr ⟨both.1, fun _ => both.2⟩] at checked
        cases checked
      refine iff_of_false ?_ fun all => refused all.1
      rintro ⟨_, same, isInsufficient⟩
      cases same
      unfold validateMove at checked
      split at checked
      · cases checked
        cases isInsufficient
      · unfold WalletValidationService.validateEconomyStatus at checked
        (repeat' split at checked) <;> cases checked <;> exact isInsufficient
  | ok passed =>
      obtain ⟨positive, isOpen⟩ := allowed.mp checked
      have absent_iff := replay_eq_none_iff db input
      cases replayed : replay db input with
      | some result =>
          refine iff_of_false ?_ fun all => ?_
          · rintro ⟨_, same, _⟩
            cases same
          · rw [absent_iff.mpr all.2.1] at replayed
            cases replayed
      | none =>
          have absent := absent_iff.mp replayed
          by_cases posts : WalletRepository.Posts db (movementInput .debit input)
          · simp only [applyMove, WalletRepository.applyMovement_of_posts posts, ok_bind]
            refine iff_of_false ?_ fun all => ?_
            · rintro ⟨_, same, _⟩
              cases same
            · exact absurd (isShort.mpr all.2.2.2) (Int.not_lt.mpr posts.2.1)
          · obtain ⟨failure, failed⟩ := WalletRepository.applyMovement_of_not_posts posts
            simp only [applyMove, failed, error_bind]
            rw [WalletRepository.applyMovement_eq] at failed
            have insufficient : failure.IsInsufficient ↔ (db.row input.userId).status = .active ∧
                WalletRepository.balanceAfter (db.row input.userId) (movementInput .debit input) <
                  0 := insufficient_of_applyLocked failed
            rw [isShort] at insufficient
            constructor
            · rintro ⟨_, same, isInsufficient⟩
              cases same
              exact ⟨⟨positive, isOpen rfl⟩, absent, insufficient.mp isInsufficient⟩
            · exact fun all => ⟨failure, rfl, insufficient.mpr all.2.2⟩

end WalletService

namespace Games

/-! ### Balances and currencies -/

/-- A user without a wallet holds nothing. -/
def getBalance (db : Db) (userId : UserId) : Balances :=
  { gold := toNumber (db.row userId).goldBalance
    game := toNumber (db.row userId).gameBalance }

def walletCurrency : GameCurrency → WalletCurrency
  | .gold => .gold
  | .game => .game
  | .free => .free

/-- The transport boundary refuses stakes above it. -/
def maxStakeSanityCeiling : Nat := 1000000000

/-- A stake as the requests carry it. -/
structure Stake where
  amount : Nat
  capped : amount ≤ maxStakeSanityCeiling

/-- The debit of one participant when a session starts. -/
def stakeInput (sessionId : String) (userId : UserId) (currency : GameCurrency) (stake : Stake) :
    WalletMovementInput :=
  { userId := userId
    currency := walletCurrency currency
    amount := toNumber stake.amount
    reason := .gameStake
    idempotencyKey := s!"game-stake:{sessionId}:{userId}"
    referenceType := some "game_session"
    referenceId := some sessionId
    actorId := some userId }

/-- A friendly match takes nothing. -/
def takeStake (platform : Platform) (db : Db) (sessionId : String) (userId : UserId)
    (currency : GameCurrency) (stake : Stake) : Except Failure Unit :=
  if toNumber stake.amount = 0 then .ok ()
  else
    (WalletService.debit platform db (stakeInput sessionId userId currency stake)).2.map
      fun _ => ()

/-- Where the check passes, no match that finds the wallet as it was fails for want of coins. -/
def ChecksTheCharge (db : Db) (userId : UserId) (currency : GameCurrency) (stake : Stake) : Prop :=
  assertCanAfford (getBalance db userId) currency stake.amount = .ok () →
    ∀ (platform : Platform) (later : Db) (sessionId : String),
      later.row userId = db.row userId →
        ∀ failure, takeStake platform later sessionId userId currency stake = .error failure →
          ¬failure.IsInsufficient

theorem Stake.exact (stake : Stake) : toNumber stake.amount = stake.amount := by
  have capped := stake.capped
  unfold maxStakeSanityCeiling at capped
  refine Binary64.round_eq_self ?_
  rw [Int.natAbs_natCast]
  exact Nat.le_trans capped (by decide)

theorem le_toNumber_iff {stake : Stake} (positive : 0 < stake.amount) (balance : Int) :
    (stake.amount : Int) ≤ toNumber balance ↔ (stake.amount : Int) ≤ balance :=
  Binary64.le_round_iff positive (Nat.le_trans stake.capped (by decide)) balance

/-- The column that the check reads. -/
def checkedCurrency : GameCurrency → WalletCurrency
  | .gold => .gold
  | .game => .game
  | .free => .game

theorem assertCanAfford_iff {stake : Stake} (positive : 0 < stake.amount) (db : Db)
    (userId : UserId) (currency : GameCurrency) :
    assertCanAfford (getBalance db userId) currency stake.amount = .ok () ↔
      (stake.amount : Int) ≤ (db.row userId).balance (checkedCurrency currency) := by
  unfold assertCanAfford
  rw [require_eq_ok]
  cases currency <;> exact le_toNumber_iff positive _

theorem takeStake_insufficient_iff {stake : Stake} (positive : 0 < stake.amount)
    (platform : Platform) (db : Db) (sessionId : String) (userId : UserId)
    (currency : GameCurrency) :
    (∃ failure, takeStake platform db sessionId userId currency stake = .error failure ∧
        failure.IsInsufficient) ↔
      platform.Open ∧ db.transactions.Absent s!"game-stake:{sessionId}:{userId}" ∧
        (db.row userId).status = .active ∧
          (db.row userId).balance (walletCurrency currency) < stake.amount := by
  have isPositive : (0 : Int) < toNumber stake.amount := by
    rw [stake.exact]
    exact Int.natCast_pos.mpr positive
  have insufficient := WalletService.insufficient_iff platform db
    (stakeInput sessionId userId currency stake)
  unfold takeStake
  rw [if_neg (Int.ne_of_gt isPositive)]
  have sameFailure : ∀ failure : Failure,
      (WalletService.debit platform db (stakeInput sessionId userId currency stake)).2.map
          (fun _ => ()) = .error failure ↔
        (WalletService.debit platform db (stakeInput sessionId userId currency stake)).2 =
          .error failure := by
    intro failure
    cases (WalletService.debit platform db (stakeInput sessionId userId currency stake)).2 with
    | error other => exact ⟨fun same => by cases same; rfl, fun same => by cases same; rfl⟩
    | ok result => exact iff_of_false nofun nofun
  simp only [sameFailure]
  rw [insufficient]
  change (0 < toNumber stake.amount ∧ _) ∧ _ ∧ _ ∧ _ < toNumber stake.amount ↔ _
  rw [stake.exact, and_iff_right (Int.natCast_pos.mpr positive)]
  rfl

/-- The check reads the column that is charged, but for games in the old free coins: there it passes
on the new coins alone. -/
theorem checksTheCharge_iff (db : Db) (userId : UserId) (currency : GameCurrency) (stake : Stake) :
    ChecksTheCharge db userId currency stake ↔
      ¬(currency = .free ∧ (db.row userId).status = .active ∧ 0 < stake.amount ∧
        (db.row userId).freeBalance < stake.amount ∧
          stake.amount ≤ (db.row userId).gameBalance) := by
  rcases Nat.eq_zero_or_pos stake.amount with isZero | positive
  · refine iff_of_true ?_ fun isBad => Nat.ne_of_gt isBad.2.2.1 isZero
    intro _ platform later sessionId _ failure failed
    unfold takeStake at failed
    rw [isZero] at failed
    cases failed
  · unfold ChecksTheCharge
    rw [assertCanAfford_iff positive]
    constructor
    · rintro checks ⟨rfl, isActive, _, isShort, affords⟩
      obtain ⟨failure, failed, isInsufficient⟩ := (takeStake_insufficient_iff positive .normal
        { db with transactions := .empty } "session" userId .free).mpr
          ⟨by decide, nofun, isActive, isShort⟩
      exact checks affords .normal { db with transactions := .empty } "session" rfl failure failed
        isInsufficient
    · intro isGood affords platform later sessionId sameRow failure failed isInsufficient
      obtain ⟨_, _, isActive, isShort⟩ := (takeStake_insufficient_iff positive platform later
        sessionId userId currency).mp ⟨failure, failed, isInsufficient⟩
      rw [sameRow] at isActive isShort
      cases currency with
      | gold => exact absurd affords (Int.not_le.mpr isShort)
      | game => exact absurd affords (Int.not_le.mpr isShort)
      | free => exact isGood ⟨rfl, isActive, positive, isShort, affords⟩

/-- Ann holds a hundred of the new coins. -/
def convertedWallet : Db :=
  Db.empty.putWallet "ann" { userId := "ann", gameBalance := 100 }

theorem not_checksTheCharge_free :
    ¬ChecksTheCharge convertedWallet "ann" .free ⟨100, by decide⟩ := by
  intro checks
  exact checks (by decide) .normal convertedWallet "session" rfl
    (.business .insufficientBalance "Insufficient balance for this transaction." .conflict)
    (by decide +kernel) rfl

end Games

end Soulzaa
