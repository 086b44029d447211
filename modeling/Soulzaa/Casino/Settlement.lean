/-
Settling a casino round.

One transaction credits every winning bet its stake times its multiplier and
closes the round; when it throws, every bet is refunded on its own and the round
is closed ABORTED.  `faults` says which of the calls to the database throw, so a
settlement is a function of the tables and of these.
-/

import Soulzaa.Casino.Engines
import Soulzaa.Wallet.Movement

namespace Soulzaa.Casino

abbrev RoundId := String
abbrev BetId := String

/-! ### Rows -/

inductive CasinoRoundStatus where
  | betting
  | spinning
  | settled
  | aborted
  deriving DecidableEq, Repr

inductive CasinoBetStatus where
  | placed
  | won
  | lost
  | refunded
  deriving DecidableEq, Repr

structure CasinoRound where
  id : RoundId
  game : CasinoGame
  status : CasinoRoundStatus := .betting
  winningOutcome : Option Item := none
  roundNumber : Nat := 1
  deriving DecidableEq, Repr

structure CasinoBet where
  id : BetId
  roundId : RoundId
  userId : UserId
  game : CasinoGame
  betItem : Item
  betAmount : Int
  clientBetId : String
  status : CasinoBetStatus := .placed
  payoutAmount : Int := 0
  betTxnId : Option TransactionId := none
  winTxnId : Option TransactionId := none
  deriving DecidableEq, Repr

def CasinoBet.betLike (bet : CasinoBet) : CasinoBetLike :=
  { item := bet.betItem
    amount := bet.betAmount }

structure Tables where
  db : Db
  rounds : List CasinoRound
  bets : List CasinoBet

/-! ### CasinoRepository -/

namespace CasinoRepository

def listPlacedBets (tables : Tables) (roundId : RoundId) : List CasinoBet :=
  tables.bets.filter fun bet => bet.roundId = roundId ∧ bet.status = .placed

/-- The fields `updateBet` may change; the others stay. -/
def updateBet (tables : Tables) (id : BetId) (update : CasinoBet → CasinoBet) : Option Tables :=
  if tables.bets.any fun bet => bet.id = id then
    some { tables with bets := tables.bets.map fun bet => if bet.id = id then update bet else bet }
  else none

def closeRound (tables : Tables) (id : RoundId) (status : CasinoRoundStatus)
    (winningOutcome : Option Item) : Option Tables :=
  if tables.rounds.any fun round => round.id = id then
    some
      { tables with
        rounds := tables.rounds.map fun round =>
          if round.id = id then
            { round with
              status := status
              winningOutcome := winningOutcome }
          else round }
  else none

end CasinoRepository

/-! ### CasinoService -/

def casinoWinIdempotencyKey (roundId : RoundId) (betId : BetId) : String :=
  s!"casino-win:{roundId}:{betId}"

def casinoRefundIdempotencyKey (roundId : RoundId) (betId : BetId) : String :=
  s!"casino-refund:{roundId}:{betId}"

inductive SettleStep where
  | listPlacedBets
  | walletLocks
  | creditWin (betId : BetId)
  | updateBet (betId : BetId)
  | closeRound
  | commit
  | creditRefund (betId : BetId)
  | updateRefunded (betId : BetId)
  | closeAborted
  deriving DecidableEq, Repr

/-- A user's total so far, in the order of the first wins. -/
abbrev Payouts := List (UserId × Int)

structure SettleRoundResult where
  winningOutcome : Item
  payouts : Payouts
  winners : Payouts
  aborted : Bool := false
  deriving DecidableEq, Repr

def topWinners : Nat := 3

namespace CasinoService

structure Settlement where
  platform : Platform
  faults : SettleStep → Bool
  game : CasinoGame
  roundId : RoundId
  winningOutcome : Item

def attempt {Result : Type} (settlement : Settlement) (step : SettleStep)
    (result : Option Result) : Option Result :=
  if settlement.faults step then none else result

def payout (game : CasinoGame) (winningOutcome : Item) (bet : CasinoBet) : Int :=
  bet.betAmount * game.effectiveMultiplier bet.betItem winningOutcome

/-- `payouts[userId] = (payouts[userId] ?? 0) + amount`. -/
def addPayout (userId : UserId) (amount : Int) : Payouts → Payouts
  | [] => [(userId, amount)]
  | (other, total) :: rest =>
      if other = userId then (other, total + amount) :: rest
      else (other, total) :: addPayout userId amount rest

def creditInput (settlement : Settlement) (bet : CasinoBet) (amount : Int)
    (reason : WalletTxnReason) (idempotencyKey : String) : WalletMovementInput :=
  { userId := bet.userId
    currency := .gold
    amount := amount
    reason := reason
    idempotencyKey := idempotencyKey
    referenceType := some "casino_round"
    referenceId := some settlement.roundId }

def winInput (settlement : Settlement) (bet : CasinoBet) (amount : Int) : WalletMovementInput :=
  creditInput settlement bet amount .casinoWin (casinoWinIdempotencyKey settlement.roundId bet.id)

def refundInput (settlement : Settlement) (bet : CasinoBet) : WalletMovementInput :=
  creditInput settlement bet bet.betAmount .casinoRefund
    (casinoRefundIdempotencyKey settlement.roundId bet.id)

/-- `wallet.credit`, with the transaction it returns. -/
def credit (settlement : Settlement) (step : SettleStep) (tables : Tables)
    (input : WalletMovementInput) : Option (Tables × TransactionId) :=
  attempt settlement step <|
    match WalletService.credit settlement.platform tables.db input with
    | (db, .ok result) => some ({ tables with db := db }, result.transactionId)
    | (_, .error _) => none

def markWon (amount : Int) (transactionId : TransactionId) (bet : CasinoBet) : CasinoBet :=
  { bet with
    status := .won
    payoutAmount := amount
    winTxnId := some transactionId }

def markLost (bet : CasinoBet) : CasinoBet :=
  { bet with status := .lost }

def markRefunded (amount : Int) (transactionId : TransactionId) (bet : CasinoBet) : CasinoBet :=
  { bet with
    status := .refunded
    payoutAmount := amount
    winTxnId := some transactionId }

def settleBet (settlement : Settlement) (state : Tables × Payouts) (bet : CasinoBet) :
    Option (Tables × Payouts) :=
  let amount := payout settlement.game settlement.winningOutcome bet
  if 0 < amount then do
    let (tables, transactionId) ←
      credit settlement (.creditWin bet.id) state.1 (winInput settlement bet amount)
    let tables ← attempt settlement (.updateBet bet.id)
      (CasinoRepository.updateBet tables bet.id (markWon amount transactionId))
    some (tables, addPayout bet.userId amount state.2)
  else do
    let tables ← attempt settlement (.updateBet bet.id)
      (CasinoRepository.updateBet state.1 bet.id markLost)
    some (tables, state.2)

/-- The transaction; `none` when it throws and is rolled back. -/
def settleTransaction (settlement : Settlement) (tables : Tables) (placed : List CasinoBet) :
    Option (Tables × Payouts) := do
  attempt settlement .walletLocks (some ())
  let (tables, payouts) ← placed.foldlM (settleBet settlement) (tables, [])
  let tables ← attempt settlement .closeRound
    (CasinoRepository.closeRound tables settlement.roundId .settled
      (some settlement.winningOutcome))
  attempt settlement .commit (some (tables, payouts))

/-- A bet whose refund throws is left to the next; what was credited stays. -/
def refundBet (settlement : Settlement) (tables : Tables) (bet : CasinoBet) : Tables :=
  match credit settlement (.creditRefund bet.id) tables (refundInput settlement bet) with
  | none => tables
  | some (tables, transactionId) =>
      (attempt settlement (.updateRefunded bet.id)
        (CasinoRepository.updateBet tables bet.id
          (markRefunded bet.betAmount transactionId))).getD tables

def refundRound (settlement : Settlement) (tables : Tables) (placed : List CasinoBet) : Tables :=
  let tables := placed.foldl (refundBet settlement) tables
  (attempt settlement .closeAborted
    (CasinoRepository.closeRound tables settlement.roundId .aborted none)).getD tables

/-- The `winners` of a settled round; the sort is stable. -/
def winnersOf (payouts : Payouts) : Payouts :=
  (payouts.mergeSort fun first second => decide (second.2 ≤ first.2)).take topWinners

/-- The result is `none` when the bets could not be read. -/
def settleRound (settlement : Settlement) (tables : Tables) :
    Tables × Option SettleRoundResult :=
  match attempt settlement .listPlacedBets
      (some (CasinoRepository.listPlacedBets tables settlement.roundId)) with
  | none => (tables, none)
  | some placed =>
      match settleTransaction settlement tables placed with
      | some (settled, payouts) =>
          (settled, some
            { winningOutcome := settlement.winningOutcome
              payouts := payouts
              winners := winnersOf payouts })
      | none =>
          (refundRound settlement tables placed, some
            { winningOutcome := settlement.winningOutcome
              payouts := []
              winners := []
              aborted := true })

/-! ### A settlement that completes -/

/-! ### What a settlement pays -/

def totalPaid (payouts : Payouts) : Int :=
  (payouts.map Prod.snd).sum

def staked (bets : List CasinoBet) : Int :=
  (bets.map CasinoBet.betAmount).sum

def won (game : CasinoGame) (winningOutcome : Item) (bets : List CasinoBet) : Int :=
  (bets.map (payout game winningOutcome)).sum

theorem totalPaid_addPayout (userId : UserId) (amount : Int) (payouts : Payouts) :
    totalPaid (addPayout userId amount payouts) = totalPaid payouts + amount := by
  induction payouts with
  | nil => simp [addPayout, totalPaid]
  | cons first rest ih =>
      obtain ⟨other, total⟩ := first
      unfold addPayout
      split
      · simp only [totalPaid, List.map_cons, List.sum_cons]
        omega
      · simp only [totalPaid, List.map_cons, List.sum_cons] at ih ⊢
        omega

theorem attempt_eq_some {Result : Type} {settlement : Settlement} {step : SettleStep}
    {result : Option Result} {value : Result}
    (succeeded : attempt settlement step result = some value) : result = some value := by
  unfold attempt at succeeded
  split at succeeded
  · cases succeeded
  · exact succeeded

theorem totalPaid_of_settleBet {settlement : Settlement} {state after : Tables × Payouts}
    {bet : CasinoBet} (winning : 0 ≤ payout settlement.game settlement.winningOutcome bet)
    (settled : settleBet settlement state bet = some after) :
    totalPaid after.2 =
      totalPaid state.2 + payout settlement.game settlement.winningOutcome bet := by
  unfold settleBet at settled
  by_cases positive : 0 < payout settlement.game settlement.winningOutcome bet
  · simp only [if_pos positive, Option.bind_eq_bind, Option.bind_eq_some_iff,
      Option.some.injEq] at settled
    obtain ⟨_, -, _, -, rfl⟩ := settled
    exact totalPaid_addPayout _ _ _
  · simp only [if_neg positive, Option.bind_eq_bind, Option.bind_eq_some_iff,
      Option.some.injEq] at settled
    obtain ⟨_, -, rfl⟩ := settled
    change totalPaid state.2 = _
    omega

theorem totalPaid_of_foldlM {settlement : Settlement} {placed : List CasinoBet}
    {state after : Tables × Payouts}
    (winning : ∀ bet ∈ placed, 0 ≤ payout settlement.game settlement.winningOutcome bet)
    (settled : placed.foldlM (settleBet settlement) state = some after) :
    totalPaid after.2 =
      totalPaid state.2 + won settlement.game settlement.winningOutcome placed := by
  induction placed generalizing state with
  | nil =>
      cases settled
      exact (Int.add_zero _).symm
  | cons first rest ih =>
      obtain ⟨middle, head, tail⟩ := Option.bind_eq_some_iff.mp settled
      rw [ih (fun bet member => winning bet (List.mem_cons_of_mem first member)) tail,
        totalPaid_of_settleBet (winning first List.mem_cons_self) head]
      change _ = _ + (payout settlement.game settlement.winningOutcome first +
        won settlement.game settlement.winningOutcome rest)
      omega

theorem totalPaid_of_settleTransaction {settlement : Settlement} {tables settled : Tables}
    {placed : List CasinoBet} {payouts : Payouts}
    (winning : ∀ bet ∈ placed, 0 ≤ payout settlement.game settlement.winningOutcome bet)
    (committed : settleTransaction settlement tables placed = some (settled, payouts)) :
    totalPaid payouts = won settlement.game settlement.winningOutcome placed := by
  unfold settleTransaction at committed
  simp only [Option.bind_eq_bind, Option.bind_eq_some_iff] at committed
  obtain ⟨-, -, ⟨_, paid⟩, looped, _, -, last⟩ := committed
  cases attempt_eq_some last
  rw [totalPaid_of_foldlM winning looped]
  exact Int.zero_add _

theorem totalPaid_of_settleRound {settlement : Settlement} {tables : Tables}
    {result : SettleRoundResult}
    (winning : ∀ bet ∈ CasinoRepository.listPlacedBets tables settlement.roundId,
      0 ≤ payout settlement.game settlement.winningOutcome bet)
    (returned : (settleRound settlement tables).2 = some result) :
    totalPaid result.payouts =
      if result.aborted then 0
      else won settlement.game settlement.winningOutcome
        (CasinoRepository.listPlacedBets tables settlement.roundId) := by
  unfold settleRound at returned
  cases listed : attempt settlement .listPlacedBets
      (some (CasinoRepository.listPlacedBets tables settlement.roundId)) with
  | none =>
      simp only [listed] at returned
      cases returned
  | some placed =>
      cases attempt_eq_some listed
      cases transaction : settleTransaction settlement tables
          (CasinoRepository.listPlacedBets tables settlement.roundId) with
      | none =>
          simp only [listed, transaction] at returned
          cases returned
          rfl
      | some committed =>
          simp only [listed, transaction] at returned
          cases returned
          exact totalPaid_of_settleTransaction winning transaction

end CasinoService

end Soulzaa.Casino
