/-
Calls of placeBet that repeat one tap.

The debit is idempotent on the tap's key and the insert on the tap's row, each on its own.  A
call that stops between the two leaves a debit that the next call of the tap takes as its own,
whatever amount that call asks for.
-/

import Soulzaa.Casino.Placement

namespace Soulzaa

theorem UniqueTable.find?_insert {Row Key : Type} {key : Row → Key} [DecidableEq Key]
    {table : UniqueTable key} {row : Row} (absent : table.Absent (key row)) :
    (table.insert row absent).find? (key row) = some row := by
  have missing := (table.find?_eq_none_iff (key row)).mpr absent
  unfold find? at missing
  unfold find? insert
  rw [List.find?_append, missing, Option.none_or]
  exact List.find?_cons_of_pos (decide_eq_true rfl)

/-- What a movement that posts answers. -/
theorem WalletService.answer_of_posts {platform : Platform} {db : Db} {type : WalletEntryType}
    {input : WalletMovementInput} (posts : Posts platform db type input) :
    move platform db type input =
      (WalletRepository.posted db (movementInput type input) posts.2.2.2,
        .ok
          { transactionId := db.nextTransactionId
            currency := input.currency
            balanceAfter := toNumber
              (WalletRepository.balanceAfter (db.row input.userId) (movementInput type input))
            duplicate := false }) := by
  obtain ⟨allowed, movement⟩ := posts
  simp only [move, (validateMove_ok_iff platform type input).mpr allowed,
    (replay_eq_none_iff db input).mpr movement.2.2, applyMove,
    WalletRepository.applyMovement_of_posts movement, ok_bind]
  rfl

namespace Casino

namespace CasinoService

/-- One call, on its own.  `interrupted` is what it throws between its debit and its insert. -/
def placeBet (platform : Platform) (interrupted : Option Failure) (tables : Tables)
    (input : PlaceBetInput) (betId : BetId) : Tables × Except PlaceBetFailure PlaceBetResult :=
  match checkBet input with
  | .error failure => (tables, .error failure)
  | .ok () =>
      match checkLocked tables input with
      | .error failure => (tables, .error failure)
      | .ok () =>
          match debitBet platform tables input, interrupted with
          | (tables, .error failure), _ => (tables, .error failure)
          | (tables, .ok _), some failure => (tables, .error (.wallet failure))
          | (tables, .ok debit), none =>
              let (tables, result) := insertBet tables input betId debit
              (tables, .ok result)

end CasinoService

/-- What the calls have in common. -/
structure Tap where
  roundId : RoundId
  userId : UserId
  clientBetId : String
  deriving DecidableEq, Repr

/-- What each of them brings. -/
structure Attempt where
  game : CasinoGame
  item : Item
  amount : Int
  activeRoundId : Option RoundId
  phase : CasinoPhase
  platform : Platform
  interrupted : Option Failure
  betId : BetId

namespace Tap

def key (tap : Tap) : String :=
  casinoBetIdempotencyKey tap.roundId tap.userId tap.clientBetId

def row (tap : Tap) (tables : Tables) : Option CasinoBet :=
  (CasinoRepository.userBets tables tap.roundId tap.userId).find? fun bet =>
    bet.clientBetId = tap.clientBetId

def input (tap : Tap) (attempt : Attempt) : PlaceBetInput :=
  { userId := tap.userId
    game := attempt.game
    roundId := tap.roundId
    item := attempt.item
    amount := attempt.amount
    activeRoundId := attempt.activeRoundId
    phase := attempt.phase
    clientBetId := tap.clientBetId }

def step (tap : Tap) (tables : Tables) (attempt : Attempt) : Tables :=
  (CasinoService.placeBet attempt.platform attempt.interrupted tables (tap.input attempt)
    attempt.betId).1

/-- Neither debited nor placed yet. -/
structure New (tap : Tap) (tables : Tables) : Prop where
  undebited : tables.db.transactions.Absent tap.key
  unplaced : tap.row tables = none

/-- The call gets past everything that could stop it if its debit is answered. -/
def Inserts (tap : Tap) (tables : Tables) (attempt : Attempt) : Prop :=
  CasinoService.checkBet (tap.input attempt) = .ok () ∧
    CasinoService.checkLocked tables (tap.input attempt) = .ok () ∧
    attempt.platform.Open ∧ attempt.interrupted = none

/-- A call that completes a debit left behind asks for the amount of that debit. -/
def Agrees (tap : Tap) (tables : Tables) (attempt : Attempt) : Prop :=
  ∀ header ∈ tables.db.findByIdempotencyKey tap.key, tap.row tables = none →
    tap.Inserts tables attempt → header.amount = attempt.amount

instance (tap : Tap) (tables : Tables) (attempt : Attempt) :
    Decidable (tap.Inserts tables attempt) :=
  inferInstanceAs (Decidable (_ ∧ _ ∧ _ ∧ _))

instance (tap : Tap) (tables : Tables) : DecidablePred (tap.Agrees tables) :=
  fun attempt => inferInstanceAs (Decidable (∀ header ∈ tables.db.findByIdempotencyKey tap.key,
    tap.row tables = none → tap.Inserts tables attempt → header.amount = attempt.amount))

end Tap

/-- The row stands for the amount that its transaction debited. -/
structure Backs (entry : LedgerEntry) (bet : CasinoBet) : Prop where
  type : entry.type = .debit
  transaction : bet.betTxnId = some entry.transactionId
  amount : bet.betAmount = entry.amount

/-- What has come of the calls since `start`: at most one debit, at most one row, and the row
for the amount of the debit. -/
def Faithful (start tables : Tables) : Prop :=
  ∃ debits bets, tables.db.ledger = start.db.ledger ++ debits ∧
    tables.bets = start.bets ++ bets ∧ debits.length ≤ 1 ∧ bets.length ≤ 1 ∧
    ∀ bet ∈ bets, ∃ entry ∈ debits, Backs entry bet

/-! ### One call -/

namespace Tap

variable {tap : Tap} {start tables : Tables} {attempt : Attempt}

theorem positive_of_checkBet {input : PlaceBetInput}
    (checked : CasinoService.checkBet input = .ok ()) : 0 < input.amount := by
  unfold CasinoService.checkBet at checked
  split at checked
  · cases checked
  · split at checked
    · cases checked
    · rename_i isChip
      have chips : ∀ amount ∈ casinoChips, 0 < amount := by decide
      exact chips input.amount (List.contains_iff_mem.mp (not_not.mp isChip))

/-- The row a call inserts, debited as `debit` answers. -/
def placed (tap : Tap) (attempt : Attempt) (debit : WalletMovementResult) : CasinoBet :=
  CasinoService.betRow (tap.input attempt) attempt.betId debit

theorem insertBet_eq (tap : Tap) (tables : Tables) (attempt : Attempt)
    (debit : WalletMovementResult) :
    (CasinoService.insertBet tables (tap.input attempt) attempt.betId debit).1 =
      match tap.row tables with
      | some _ => tables
      | none => { tables with bets := tables.bets ++ [tap.placed attempt debit] } := by
  have created : CasinoRepository.createBet tables (tap.placed attempt debit) =
      match tap.row tables with
      | some existing => (tables, existing)
      | none => ({ tables with bets := tables.bets ++ [tap.placed attempt debit] },
          tap.placed attempt debit) := rfl
  change (CasinoRepository.createBet tables (tap.placed attempt debit)).1 = _
  rw [created]
  cases tap.row tables <;> rfl

/-- What a call does with the answer to its debit. -/
def finish (tap : Tap) (attempt : Attempt) (tables : Tables)
    (answer : Except Failure WalletMovementResult) : Tables :=
  match answer, attempt.interrupted with
  | .ok debit, none =>
      (CasinoService.insertBet tables (tap.input attempt) attempt.betId debit).1
  | _, _ => tables

/-- A call stops at one of its checks, or gets as far as its debit. -/
theorem step_eq (tap : Tap) (tables : Tables) (attempt : Attempt) :
    tap.step tables attempt =
      if CasinoService.checkBet (tap.input attempt) = .ok () ∧
          CasinoService.checkLocked tables (tap.input attempt) = .ok () then
        let (db, answer) := WalletService.debit attempt.platform tables.db
          (CasinoService.betInput (tap.input attempt))
        tap.finish attempt { tables with db := db } answer
      else tables := by
  unfold step CasinoService.placeBet
  cases CasinoService.checkBet (tap.input attempt) with
  | error failure => rfl
  | ok _ =>
      cases CasinoService.checkLocked tables (tap.input attempt) with
      | error failure => rfl
      | ok _ =>
          rw [if_pos ⟨rfl, rfl⟩]
          unfold CasinoService.debitBet finish
          rcases WalletService.debit attempt.platform tables.db
            (CasinoService.betInput (tap.input attempt)) with ⟨db, failure | debit⟩
          · rfl
          · cases attempt.interrupted <;> rfl

/-- The answer to the debit when the key has been used. -/
theorem debit_of_taken {tables : Tables} {header : WalletTransaction}
    (found : tables.db.findByIdempotencyKey tap.key = some header)
    (checked : CasinoService.checkBet (tap.input attempt) = .ok ()) :
    ∃ answer, WalletService.debit attempt.platform tables.db
        (CasinoService.betInput (tap.input attempt)) = (tables.db, answer) ∧
      ((¬attempt.platform.Open ∧ ∃ failure, answer = .error failure) ∨
        (attempt.platform.Open ∧
          ∃ debit : WalletMovementResult, answer = .ok debit ∧ debit.transactionId = header.id)) := by
  have positive : 0 < attempt.amount := positive_of_checkBet checked
  have replayed : (WalletService.replay tables.db
      (CasinoService.betInput (tap.input attempt))) = some _ :=
    congrArg (Option.map _) found
  unfold WalletService.debit WalletService.move
  by_cases isOpen : attempt.platform.Open
  · have valid : WalletService.validateMove attempt.platform .debit
        (CasinoService.betInput (tap.input attempt)) = .ok () :=
      (WalletService.validateMove_ok_iff _ _ _).mpr ⟨positive, fun _ => isOpen⟩
    rw [valid, replayed]
    exact ⟨_, rfl, Or.inr ⟨isOpen, _, rfl, rfl⟩⟩
  · cases valid : WalletService.validateMove attempt.platform .debit
        (CasinoService.betInput (tap.input attempt)) with
    | ok _ =>
        exact absurd (((WalletService.validateMove_ok_iff _ _ _).mp valid).2 rfl) isOpen
    | error failure => exact ⟨_, rfl, Or.inl ⟨isOpen, failure, rfl⟩⟩

/-- Once the tap is debited, a call moves no money, and adds the row if that is missing. -/
theorem step_of_taken {tables : Tables} {header : WalletTransaction}
    (found : tables.db.findByIdempotencyKey tap.key = some header) :
    (tap.Inserts tables attempt ∧ tap.row tables = none ∧
        ∃ debit : WalletMovementResult, debit.transactionId = header.id ∧
          tap.step tables attempt =
            { tables with bets := tables.bets ++ [tap.placed attempt debit] }) ∨
      ((tap.Inserts tables attempt → tap.row tables ≠ none) ∧
        tap.step tables attempt = tables) := by
  rw [step_eq]
  split
  · rename_i passed
    obtain ⟨answer, debited, refused | answered⟩ :=
      @debit_of_taken tap attempt tables _ found passed.1
    · obtain ⟨closed, failure, rfl⟩ := refused
      rw [debited]
      exact Or.inr ⟨fun inserts => absurd inserts.2.2.1 closed, rfl⟩
    · obtain ⟨isOpen, debit, rfl, isHeader⟩ := answered
      rw [debited]
      unfold finish
      cases interrupted : attempt.interrupted with
      | some failure =>
          refine Or.inr ⟨fun inserts => ?_, rfl⟩
          rw [inserts.2.2.2] at interrupted
          cases interrupted
      | none =>
          change _ ∨ _ ∧ (CasinoService.insertBet tables (tap.input attempt) attempt.betId
            debit).1 = tables
          cases row : tap.row tables with
          | some bet =>
              refine Or.inr ⟨fun _ => Option.some_ne_none bet, ?_⟩
              rw [insertBet_eq, row]
          | none =>
              refine Or.inl ⟨⟨passed.1, passed.2, isOpen, interrupted⟩, rfl, debit, isHeader, ?_⟩
              exact (insertBet_eq tap tables attempt debit).trans (by rw [row])
  · rename_i stopped
    exact Or.inr ⟨fun inserts => absurd ⟨inserts.1, inserts.2.1⟩ stopped, rfl⟩

/-! ### The tap through its calls -/

/-- What the calls made so far have left of the tap. -/
inductive Stage (tap : Tap) (start tables : Tables) : Prop where
  | untouched (ledger : tables.db.ledger = start.db.ledger) (bets : tables.bets = start.bets)
      (new : tap.New tables)
  /-- Debited, by a call that did not get to its insert. -/
  | owing {entry : LedgerEntry} {header : WalletTransaction}
      (ledger : tables.db.ledger = start.db.ledger ++ [entry]) (bets : tables.bets = start.bets)
      (type : entry.type = .debit) (id : header.id = entry.transactionId)
      (amount : header.amount = entry.amount)
      (found : tables.db.findByIdempotencyKey tap.key = some header)
      (unplaced : tap.row tables = none)
  | placed {entry : LedgerEntry} {header : WalletTransaction} {bet : CasinoBet}
      (ledger : tables.db.ledger = start.db.ledger ++ [entry])
      (bets : tables.bets = start.bets ++ [bet]) (backs : Backs entry bet)
      (found : tables.db.findByIdempotencyKey tap.key = some header)
      (isPlaced : tap.row tables ≠ none)

theorem Stage.faithful (stage : tap.Stage start tables) : Faithful start tables := by
  cases stage with
  | untouched ledger bets new =>
      exact ⟨[], [], by rw [ledger, List.append_nil], by rw [bets, List.append_nil],
        Nat.zero_le 1, Nat.zero_le 1, List.forall_mem_nil _⟩
  | owing ledger bets =>
      exact ⟨[_], [], ledger, by rw [bets, List.append_nil], Nat.le_refl 1, Nat.zero_le 1,
        List.forall_mem_nil _⟩
  | placed ledger bets backs =>
      refine ⟨[_], [_], ledger, bets, Nat.le_refl 1, Nat.le_refl 1, ?_⟩
      intro bet member
      rw [List.mem_singleton.mp member]
      exact ⟨_, List.mem_singleton_self _, backs⟩

theorem row_concat (tables : Tables) (attempt : Attempt) (debit : WalletMovementResult) :
    tap.row { tables with bets := tables.bets ++ [tap.placed attempt debit] } ≠ none := by
  unfold row CasinoRepository.userBets
  rw [ne_eq, List.find?_eq_none]
  intro missing
  refine missing (tap.placed attempt debit) ?_ (decide_eq_true rfl)
  exact List.mem_filter.mpr
    ⟨List.mem_append_right _ (List.mem_singleton_self _), decide_eq_true ⟨rfl, rfl⟩⟩

/-- The first debit of the tap. -/
theorem debit_of_posts {platform : Platform} {db : Db} {input : WalletMovementInput}
    (posts : WalletService.Posts platform db .debit input) :
    ∃ after entry header debit, WalletService.debit platform db input = (after, .ok debit) ∧
      after.ledger = db.ledger ++ [entry] ∧
      after.findByIdempotencyKey input.idempotencyKey = some header ∧
      entry.type = .debit ∧ entry.amount = input.amount ∧ header.amount = input.amount ∧
      header.id = entry.transactionId ∧ debit.transactionId = entry.transactionId := by
  have wrote := WalletRepository.posted_wrote db (WalletService.movementInput .debit input)
    posts.2.2.2
  exact ⟨_, _, _, _, WalletService.answer_of_posts posts, wrote.ledger,
    UniqueTable.find?_insert posts.2.2.2, rfl, rfl, rfl, rfl, rfl⟩

theorem stage_of_untouched (ledger : tables.db.ledger = start.db.ledger)
    (bets : tables.bets = start.bets) (new : tap.New tables) :
    tap.Stage start (tap.step tables attempt) := by
  rw [step_eq]
  split
  · by_cases posts : WalletService.Posts attempt.platform tables.db .debit
        (CasinoService.betInput (tap.input attempt))
    · obtain ⟨after, entry, header, debit, debited, written, found, isDebit, entryAmount,
        headerAmount, sameId, debitId⟩ := debit_of_posts posts
      rw [debited]
      rw [ledger] at written
      unfold finish
      cases attempt.interrupted with
      | some failure =>
          exact .owing written bets isDebit sameId (headerAmount.trans entryAmount.symm) found
            new.unplaced
      | none =>
          change tap.Stage start (CasinoService.insertBet { tables with db := after }
            (tap.input attempt) attempt.betId debit).1
          have unplaced : tap.row { tables with db := after } = none := new.unplaced
          rw [insertBet_eq, unplaced]
          refine .placed written (congrArg (· ++ [tap.placed attempt debit]) bets)
            ⟨isDebit, ?_, entryAmount.symm⟩ found
            (row_concat { tables with db := after } attempt debit)
          exact congrArg some debitId
    · have unanswered : ∃ failure, WalletService.debit attempt.platform tables.db
          (CasinoService.betInput (tap.input attempt)) = (tables.db, .error failure) := by
        cases moved : WalletService.debit attempt.platform tables.db
          (CasinoService.betInput (tap.input attempt)) with
        | mk after answer =>
            cases answer with
            | ok debit => exact absurd (WalletService.posts_of_move_ok moved new.undebited) posts
            | error failure =>
                exact ⟨failure, by rw [WalletService.unmoved_of_error moved]⟩
      obtain ⟨failure, refused⟩ := unanswered
      rw [refused]
      exact .untouched ledger bets new
  · exact .untouched ledger bets new

theorem stage_of_placed {entry : LedgerEntry} {header : WalletTransaction} {bet : CasinoBet}
    (ledger : tables.db.ledger = start.db.ledger ++ [entry])
    (bets : tables.bets = start.bets ++ [bet]) (backs : Backs entry bet)
    (found : tables.db.findByIdempotencyKey tap.key = some header)
    (isPlaced : tap.row tables ≠ none) : tap.Stage start (tap.step tables attempt) := by
  rcases @step_of_taken tap attempt tables _ found with ⟨_, unplaced, _⟩ | ⟨_, unchanged⟩
  · exact absurd unplaced isPlaced
  · rw [unchanged]
    exact .placed ledger bets backs found isPlaced

theorem Stage.step (stage : tap.Stage start tables) (agrees : tap.Agrees tables attempt) :
    tap.Stage start (tap.step tables attempt) := by
  cases stage with
  | untouched ledger bets new => exact stage_of_untouched ledger bets new
  | @owing entry header ledger bets type id amount found unplaced =>
      rcases @step_of_taken tap attempt tables _ found with
        ⟨inserts, _, debit, isHeader, inserted⟩ | ⟨_, unchanged⟩
      · rw [inserted]
        refine .placed ledger (congrArg (· ++ [tap.placed attempt debit]) bets)
          ⟨type, ?_, ?_⟩ found (row_concat tables attempt debit)
        · exact congrArg some (isHeader.trans id)
        · exact (agrees header found unplaced inserts).symm.trans amount
      · rw [unchanged]
        exact .owing ledger bets type id amount found unplaced
  | placed ledger bets backs found isPlaced =>
      exact stage_of_placed ledger bets backs found isPlaced

/-- A call that completes the debit of another amount spoils the row. -/
theorem Stage.faithful_step_iff (stage : tap.Stage start tables) (attempt : Attempt) :
    Faithful start (tap.step tables attempt) ↔ tap.Agrees tables attempt := by
  constructor
  · intro faithful header found unplaced inserts
    cases stage with
    | untouched ledger bets new =>
        have missing := (UniqueTable.find?_eq_none_iff _ _).mpr new.undebited
        rw [show tables.db.transactions.find? tap.key = some header from found] at missing
        cases missing
    | placed _ _ _ _ isPlaced => exact absurd unplaced isPlaced
    | @owing entry stored ledger bets type id amount isStored =>
        rw [found] at isStored
        cases isStored
        rcases @step_of_taken tap attempt tables _ found with
          ⟨_, _, debit, isHeader, inserted⟩ | ⟨placed, _⟩
        · rw [inserted] at faithful
          obtain ⟨debits, rows, sameLedger, sameBets, _, _, backed⟩ := faithful
          have isDebit : debits = [entry] := List.append_cancel_left (sameLedger.symm.trans ledger)
          have isRow : rows = [tap.placed attempt debit] :=
            List.append_cancel_left (sameBets.symm.trans (congrArg (· ++ [_]) bets))
          obtain ⟨other, member, backs⟩ :=
            backed (tap.placed attempt debit) (isRow ▸ List.mem_singleton_self _)
          rw [isDebit] at member
          rw [List.mem_singleton.mp member] at backs
          exact amount.trans backs.amount.symm
        · exact absurd unplaced (placed inserts)
  · exact fun agrees => (stage.step agrees).faithful

/-! ### Every sequence of calls -/

/-- Whatever the calls of one tap ask for and wherever they stop, there is one debit and one
row at most, and the row is for the debit, exactly when no call completes the debit of another
amount. -/
theorem faithful_iff_agrees (tap : Tap) (start : Tables) (new : tap.New start)
    (attempts : List Attempt) :
    Runs.Always tap.step (Faithful start) start attempts ↔
      Runs.Each tap.step tap.Agrees start attempts := by
  have untouched : tap.Stage start start := .untouched rfl rfl new
  apply Runs.always_iff_each (tap.Stage start)
  · exact fun tables attempt stage _ agrees => stage.step agrees
  · exact fun tables attempt stage _ => stage.faithful_step_iff attempt
  · exact untouched
  · exact untouched.faithful

end Tap

/-! ### A tap repeated for more -/

namespace DearerTap

open RoundPlay.LateBet (openPlatform start)

def tap : Tap :=
  { roundId := "round"
    userId := "alice"
    clientBetId := "tap" }

def attempt (amount : Int) (interrupted : Option Failure) (betId : BetId) : Attempt :=
  { game := .greedyFood
    item := "carrot"
    amount := amount
    activeRoundId := some "round"
    phase := .betting
    platform := openPlatform
    interrupted := interrupted
    betId := betId }

/-- The first call stops after its debit of 100; the second asks for 1000. -/
def attempts : List Attempt :=
  [attempt 100 (some .recordNotFound) "bet-1", attempt 1000 none "bet-2"]

/-- The second call asks for what the first was debited, the third for something else. -/
def sameAmount : List Attempt :=
  [attempt 100 (some .recordNotFound) "bet-1", attempt 100 none "bet-2", attempt 500 none "bet-3"]

theorem tap_new : tap.New start where
  undebited := by decide
  unplaced := rfl

end DearerTap

namespace Tap

open RoundPlay.LateBet (start)

theorem faithful_sameAmount :
    Runs.Always DearerTap.tap.step (Faithful start) start DearerTap.sameAmount :=
  (faithful_iff_agrees DearerTap.tap start DearerTap.tap_new DearerTap.sameAmount).mpr
    (by decide +kernel)

theorem not_faithful_dearerTap :
    ¬Runs.Always DearerTap.tap.step (Faithful start) start DearerTap.attempts := by
  intro always
  obtain ⟨debits, bets, sameLedger, sameBets, _, _, backed⟩ := Runs.Always.final always
  have ledger : (Runs.run DearerTap.tap.step start DearerTap.attempts).db.ledger.map
      LedgerEntry.amount = [100] := by
    decide +kernel
  have placed : (Runs.run DearerTap.tap.step start DearerTap.attempts).bets.map
      CasinoBet.betAmount = [1000] := by
    decide +kernel
  rw [sameLedger] at ledger
  rw [sameBets] at placed
  obtain ⟨bet, isBet, betAmount⟩ := List.map_eq_singleton_iff.mp placed
  obtain ⟨debit, isDebit, debitAmount⟩ := List.map_eq_singleton_iff.mp ledger
  have betIn : bet ∈ bets := (show bets = [bet] from isBet) ▸ List.mem_singleton_self _
  obtain ⟨entry, member, backs⟩ := backed bet betIn
  rw [show debits = [debit] from isDebit] at member
  have isEntry := List.mem_singleton.mp member
  have same := backs.amount
  rw [isEntry, betAmount, debitAmount] at same
  cases same

end Tap

end Casino

end Soulzaa
