/-
Placing bets while the loop locks a round.

`placeBet` checks the phase held in memory, then waits for its locks, re-reads the
round row under them, debits and inserts.  The loop flips the phase, reads the bets
and fixes the outcome without a lock, and closes the round row only when it settles,
so between the two the row still says BETTING.

The loop's transitions follow each other here; a tick that overlaps another or
fails is in `Soulzaa.Casino.Loop`.
-/

import Soulzaa.Casino.Settlement
import Soulzaa.Lib.Runs

namespace Soulzaa.Casino

inductive CasinoPhase where
  | betting
  | spinning
  | results
  deriving DecidableEq, Repr

def luckyMaxSymbols : Nat := 6

def casinoBetIdempotencyKey (roundId : RoundId) (userId : UserId) (clientBetId : String) :
    String :=
  s!"casino-bet:{roundId}:{userId}:{clientBetId}"

/-! ### CasinoRepository -/

namespace CasinoRepository

def getRound (tables : Tables) (id : RoundId) : Option CasinoRound :=
  tables.rounds.find? fun round => round.id = id

def userBets (tables : Tables) (roundId : RoundId) (userId : UserId) : List CasinoBet :=
  tables.bets.filter fun bet => bet.roundId = roundId ∧ bet.userId = userId

def countDistinctSymbols (tables : Tables) (roundId : RoundId) (userId : UserId) : Nat :=
  ((userBets tables roundId userId).map CasinoBet.betItem).dedup.length

def hasSymbol (tables : Tables) (roundId : RoundId) (userId : UserId) (item : Item) : Bool :=
  (userBets tables roundId userId).any fun bet => bet.betItem = item

/-- A replay of the same tap returns the row that exists. -/
def createBet (tables : Tables) (bet : CasinoBet) : Tables × CasinoBet :=
  match (userBets tables bet.roundId bet.userId).find? fun row =>
      row.clientBetId = bet.clientBetId with
  | some existing => (tables, existing)
  | none => ({ tables with bets := tables.bets ++ [bet] }, bet)

end CasinoRepository

/-! ### CasinoService.placeBet -/

structure PlaceBetInput where
  userId : UserId
  game : CasinoGame
  roundId : RoundId
  item : Item
  amount : Int
  activeRoundId : Option RoundId
  phase : CasinoPhase
  clientBetId : String
  deriving DecidableEq, Repr

structure PlaceBetResult where
  balanceAfter : Int
  betId : BetId
  deriving DecidableEq, Repr

inductive PlaceBetFailure where
  | casino (message : String)
  | wallet (failure : Failure)
  deriving DecidableEq, Repr

namespace CasinoService

/-- The checks before any lock, on what the caller read from memory. -/
def checkBet (input : PlaceBetInput) : Except PlaceBetFailure Unit :=
  if input.phase ≠ .betting ∨ input.activeRoundId.getD "" = "" ∨
      input.activeRoundId ≠ some input.roundId then
    .error (.casino "Betting is locked for this round")
  else if ¬casinoChips.contains input.amount then
    .error (.casino "Invalid chip/bet amount")
  else if ¬input.game.bettable input.item then
    .error (.casino (if input.game = .luckyFruit then "Invalid symbol" else "Invalid item"))
  else .ok ()

/-- The checks under both locks, on the rows as they are then. -/
def checkLocked (tables : Tables) (input : PlaceBetInput) : Except PlaceBetFailure Unit :=
  if (CasinoRepository.getRound tables input.roundId).map CasinoRound.status ≠ some .betting then
    .error (.casino "Betting is locked for this round")
  else if input.game = .luckyFruit ∧
      luckyMaxSymbols ≤ CasinoRepository.countDistinctSymbols tables input.roundId input.userId ∧
      ¬CasinoRepository.hasSymbol tables input.roundId input.userId input.item then
    .error (.casino "You can bet on a maximum of 6 symbols.")
  else .ok ()

def betInput (input : PlaceBetInput) : WalletMovementInput :=
  { userId := input.userId
    currency := .gold
    amount := input.amount
    reason := .casinoBet
    idempotencyKey := casinoBetIdempotencyKey input.roundId input.userId input.clientBetId
    referenceType := some "casino_round"
    referenceId := some input.roundId }

def debitFailure (game : CasinoGame) : Failure → PlaceBetFailure
  | .business .insufficientBalance _ _ =>
      .casino (if game = .luckyFruit then "Insufficient coins." else "Insufficient wallet balance")
  | failure => .wallet failure

def debitBet (platform : Platform) (tables : Tables) (input : PlaceBetInput) :
    Tables × Except PlaceBetFailure WalletMovementResult :=
  match WalletService.debit platform tables.db (betInput input) with
  | (db, .ok result) => ({ tables with db := db }, .ok result)
  | (db, .error failure) => ({ tables with db := db }, .error (debitFailure input.game failure))

/-- The row the insert asks for; `betId` is the id the database draws. -/
def betRow (input : PlaceBetInput) (betId : BetId) (debit : WalletMovementResult) : CasinoBet :=
  { id := betId
    roundId := input.roundId
    userId := input.userId
    game := input.game
    betItem := input.item
    betAmount := input.amount
    clientBetId := input.clientBetId
    betTxnId := some debit.transactionId }

def insertBet (tables : Tables) (input : PlaceBetInput) (betId : BetId)
    (debit : WalletMovementResult) : Tables × PlaceBetResult :=
  let (tables, bet) := CasinoRepository.createBet tables (betRow input betId debit)
  (tables,
    { balanceAfter := debit.balanceAfter
      betId := bet.id })

end CasinoService

/-! ### Bettors and the loop -/

/-- Where a call of `placeBet` has got to. -/
inductive Placing where
  /-- The checks on memory passed; the locks are waited for. -/
  | checked
  /-- Both locks are held and the re-read of the round passed. -/
  | locked
  | debited (debit : WalletMovementResult)
  | finished (outcome : Except PlaceBetFailure PlaceBetResult)

structure Bettor where
  input : PlaceBetInput
  betId : BetId
  placing : Placing

def Placing.Holds : Placing → Bool
  | .locked => true
  | .debited _ => true
  | _ => false

def Placing.Finished : Placing → Bool
  | .finished _ => true
  | _ => false

/-- One round: the tables, the loop's memory of it, and the calls under way.
`selectedFrom` and `settledBets` record the two reads of the bets. -/
structure RoundPlay where
  tables : Tables
  phase : CasinoPhase
  winningOutcome : Option Item
  bettors : List Bettor
  selectedFrom : Option (List CasinoBet)
  settledBets : Option (List CasinoBet)

/-- A random source within its contract. -/
abbrev Rng := { rng : Nat → Nat // InRange rng }

inductive RoundEvent where
  /-- The gateway calls `placeBet` with the phase it reads from memory. -/
  | place (userId : UserId) (roundId : RoundId) (item : Item) (amount : Int)
      (clientBetId : String) (betId : BetId)
  | advance (position : Nat) (platform : Platform)
  | abort (position : Nat) (failure : Failure)
  | beginSpin
  | select (rng : Rng)
  | settle (platform : Platform) (faults : SettleStep → Bool)

/-- The round a play is about. -/
structure RoundOf where
  game : CasinoGame
  id : RoundId

namespace RoundPlay

def place (round : RoundOf) (play : RoundPlay) (userId : UserId) (roundId : RoundId)
    (item : Item) (amount : Int) (clientBetId : String) (betId : BetId) : RoundPlay :=
  let input : PlaceBetInput :=
    { userId := userId
      game := round.game
      roundId := roundId
      item := item
      amount := amount
      activeRoundId := some round.id
      phase := play.phase
      clientBetId := clientBetId }
  let placing :=
    match CasinoService.checkBet input with
    | .error failure => Placing.finished (.error failure)
    | .ok () => .checked
  { play with
    bettors := play.bettors ++
      [{ input := input
         betId := betId
         placing := placing }] }

/-- Nobody holds the lock of the round. -/
def RoundFree (play : RoundPlay) : Prop :=
  ∀ bettor ∈ play.bettors, bettor.placing.Holds = false

instance (play : RoundPlay) : Decidable play.RoundFree :=
  inferInstanceAs (Decidable (∀ bettor ∈ play.bettors, bettor.placing.Holds = false))

/-- The next step of one call. -/
def advanceBettor (platform : Platform) (play : RoundPlay) (bettor : Bettor) :
    Tables × Placing :=
  match bettor.placing with
  | .checked =>
      -- The lock of the user is taken inside that of the round for every bet on it.
      if play.RoundFree then
        match CasinoService.checkLocked play.tables bettor.input with
        | .error failure => (play.tables, .finished (.error failure))
        | .ok () => (play.tables, .locked)
      else (play.tables, .checked)
  | .locked =>
      match CasinoService.debitBet platform play.tables bettor.input with
      | (tables, .error failure) => (tables, .finished (.error failure))
      | (tables, .ok debit) => (tables, .debited debit)
  | .debited debit =>
      let (tables, result) :=
        CasinoService.insertBet play.tables bettor.input bettor.betId debit
      (tables, .finished (.ok result))
  | .finished outcome => (play.tables, .finished outcome)

def advance (play : RoundPlay) (position : Nat) (platform : Platform) : RoundPlay :=
  match play.bettors[position]? with
  | none => play
  | some bettor =>
      let (tables, placing) := play.advanceBettor platform bettor
      { play with
        tables := tables
        bettors := play.bettors.set position { bettor with placing := placing } }

/-- A call gives up, at a lock or on a database error. -/
def abort (play : RoundPlay) (position : Nat) (failure : Failure) : RoundPlay :=
  match play.bettors[position]? with
  | none => play
  | some bettor =>
      match bettor.placing with
      | .finished _ => play
      | _ =>
          { play with
            bettors := play.bettors.set position
              { bettor with placing := .finished (.error (.wallet failure)) } }

/-- `transitionBettingToSpinning` up to its read. -/
def beginSpin (play : RoundPlay) : RoundPlay :=
  if play.phase = .betting then { play with phase := .spinning } else play

/-- The rest of it: the bets read, the outcome chosen and broadcast. -/
def select (round : RoundOf) (play : RoundPlay) (rng : Rng) : RoundPlay :=
  if play.phase = .spinning ∧ play.selectedFrom = none then
    let placed := CasinoRepository.listPlacedBets play.tables round.id
    { play with
      winningOutcome := round.game.selectOutcome (placed.map CasinoBet.betLike) rng.val
      selectedFrom := some placed }
  else play

/-- `transitionSpinningToResults`: the settlement takes the lock of the round. -/
def settle (round : RoundOf) (play : RoundPlay) (platform : Platform)
    (faults : SettleStep → Bool) : RoundPlay :=
  match play.winningOutcome with
  | none => play
  | some winningOutcome =>
      if play.phase = .spinning ∧ play.RoundFree then
        let settlement : CasinoService.Settlement :=
          { platform := platform
            faults := faults
            game := round.game
            roundId := round.id
            winningOutcome := winningOutcome }
        { play with
          tables := (CasinoService.settleRound settlement play.tables).1
          phase := .results
          settledBets :=
            CasinoService.attempt settlement .listPlacedBets
              (some (CasinoRepository.listPlacedBets play.tables round.id)) }
      else play

def step (round : RoundOf) (play : RoundPlay) : RoundEvent → RoundPlay
  | .place userId roundId item amount clientBetId betId =>
      play.place round userId roundId item amount clientBetId betId
  | .advance position platform => play.advance position platform
  | .abort position failure => play.abort position failure
  | .beginSpin => play.beginSpin
  | .select rng => play.select round rng
  | .settle platform faults => play.settle round platform faults

/-- A round that has just been created, with no bets under way. -/
def fresh (tables : Tables) : RoundPlay :=
  { tables := tables
    phase := .betting
    winningOutcome := none
    bettors := []
    selectedFrom := none
    settledBets := none }

/-- `outcome` costs the house no more over `bets` than any other. -/
def Lowest (game : CasinoGame) (bets : List CasinoBet) (outcome : Item) : Prop :=
  ∀ other ∈ game.outcomes,
    liability game.effectiveMultiplier (bets.map CasinoBet.betLike) outcome ≤
      liability game.effectiveMultiplier (bets.map CasinoBet.betLike) other

/-- The bets settled are those the outcome was selected against, none was accepted
after that, and the outcome is a lowest one over them. -/
structure Fair (round : RoundOf) (play : RoundPlay) : Prop where
  noneLater : ∀ bets, play.selectedFrom = some bets → play.phase = .spinning →
    CasinoRepository.listPlacedBets play.tables round.id = bets
  same : ∀ bets, play.settledBets = some bets → play.selectedFrom = some bets
  lowest : ∀ bets, play.settledBets = some bets →
    ∃ outcome, play.winningOutcome = some outcome ∧ Lowest round.game bets outcome

/-- The outcome is selected only when every call that passed the phase check has
finished. -/
def Drained (play : RoundPlay) : RoundEvent → Prop
  | .select _ => ∀ bettor ∈ play.bettors, bettor.placing.Finished = true
  | _ => True

/-! ### What every step keeps -/

/-- Beside the claim itself: once the outcome is selected no call is under way, and
nothing is selected before the phase flips. -/
structure Inv (round : RoundOf) (play : RoundPlay) : Prop where
  drained : play.selectedFrom ≠ none → ∀ bettor ∈ play.bettors, bettor.placing.Finished = true
  before : play.phase = .betting → play.selectedFrom = none
  unselected : play.selectedFrom = none → play.winningOutcome = none ∧ play.settledBets = none
  noneLater : ∀ bets, play.selectedFrom = some bets → play.phase = .spinning →
    CasinoRepository.listPlacedBets play.tables round.id = bets
  chosen : ∀ bets, play.selectedFrom = some bets →
    ∃ outcome, play.winningOutcome = some outcome ∧ Lowest round.game bets outcome
  same : ∀ bets, play.settledBets = some bets → play.selectedFrom = some bets

variable {round : RoundOf} {play : RoundPlay}

theorem fair_of_inv (inv : Inv round play) : Fair round play where
  noneLater := inv.noneLater
  same := inv.same
  lowest := fun bets settled => inv.chosen bets (inv.same bets settled)

theorem inv_fresh (round : RoundOf) (tables : Tables) : Inv round (fresh tables) where
  drained := fun selected => absurd rfl selected
  before := fun _ => rfl
  unselected := fun _ => ⟨rfl, rfl⟩
  noneLater := fun _ impossible => by cases impossible
  chosen := fun _ impossible => by cases impossible
  same := fun _ impossible => by cases impossible

/-- Nothing but the bettors changes, and they are finished if they have to be. -/
theorem inv_of_bettors (inv : Inv round play) {bettors : List Bettor}
    (drained : play.selectedFrom ≠ none → ∀ bettor ∈ bettors, bettor.placing.Finished = true) :
    Inv round { play with bettors := bettors } where
  drained := drained
  before := inv.before
  unselected := inv.unselected
  noneLater := inv.noneLater
  chosen := inv.chosen
  same := inv.same

theorem inv_place (inv : Inv round play) (userId : UserId) (roundId : RoundId) (item : Item)
    (amount : Int) (clientBetId : String) (betId : BetId) :
    Inv round (play.place round userId roundId item amount clientBetId betId) := by
  apply inv_of_bettors inv
  intro selected bettor member
  rcases List.mem_append.mp member with earlier | latest
  · exact inv.drained selected bettor earlier
  · -- The phase has flipped by then, so the call is refused at once.
    have flipped : play.phase ≠ .betting := fun betting => selected (inv.before betting)
    rw [List.mem_singleton.mp latest]
    simp only [CasinoService.checkBet, ne_eq, flipped, not_false_eq_true, true_or, if_true]
    rfl

theorem inv_advance (inv : Inv round play) (position : Nat) (platform : Platform) :
    Inv round (play.advance position platform) := by
  unfold advance
  cases found : play.bettors[position]? with
  | none => exact inv
  | some bettor =>
      have member := List.mem_of_getElem? found
      by_cases selected : play.selectedFrom = none
      · have quiet := inv.unselected selected
        exact
          { drained := fun some => absurd selected some
            before := inv.before
            unselected := inv.unselected
            noneLater := fun bets read => by
              change play.selectedFrom = some bets at read
              rw [selected] at read
              cases read
            chosen := inv.chosen
            same := inv.same }
      · -- Every call has finished, so this one does nothing.
        have finished := inv.drained selected bettor member
        cases at_ : bettor.placing with
        | finished outcome =>
            simp only [advanceBettor, at_]
            apply inv_of_bettors inv
            intro _ other inSet
            rcases List.mem_or_eq_of_mem_set inSet with old | new
            · exact inv.drained selected other old
            · rw [new]
              rfl
        | checked => rw [at_] at finished; cases finished
        | locked => rw [at_] at finished; cases finished
        | debited debit => rw [at_] at finished; cases finished

theorem inv_abort (inv : Inv round play) (position : Nat) (failure : Failure) :
    Inv round (play.abort position failure) := by
  unfold abort
  cases found : play.bettors[position]? with
  | none => exact inv
  | some bettor =>
      dsimp only
      split
      · exact inv
      · apply inv_of_bettors inv
        intro selected other inSet
        rcases List.mem_or_eq_of_mem_set inSet with old | new
        · exact inv.drained selected other old
        · rw [new]
          rfl

theorem inv_beginSpin (inv : Inv round play) : Inv round play.beginSpin := by
  unfold beginSpin
  split
  · next betting =>
      have notYet := inv.before betting
      exact
        { drained := inv.drained
          before := fun impossible => by cases impossible
          unselected := inv.unselected
          noneLater := fun bets read => by
            change play.selectedFrom = some bets at read
            rw [notYet] at read
            cases read
          chosen := inv.chosen
          same := inv.same }
  · exact inv

theorem lowest_selectOutcome (game : CasinoGame) (bets : List CasinoBet) (rng : Rng) :
    ∃ outcome, game.selectOutcome (bets.map CasinoBet.betLike) rng.val = some outcome ∧
      Lowest game bets outcome := by
  obtain ⟨outcome, _, selected, lowest⟩ :=
    pickLowestLiability_lowest game.outcomes_ne_nil (bets.map CasinoBet.betLike)
      game.effectiveMultiplier rng.property
  exact ⟨outcome, (game.selectOutcome_eq _ _).trans selected, lowest⟩

theorem inv_select (inv : Inv round play) (rng : Rng)
    (drained : ∀ bettor ∈ play.bettors, bettor.placing.Finished = true) :
    Inv round (play.select round rng) := by
  unfold select
  split
  · next ready =>
      exact
        { drained := fun _ => drained
          before := fun betting => by
            change play.phase = .betting at betting
            rw [ready.1] at betting
            cases betting
          unselected := fun impossible => by cases impossible
          noneLater := fun bets read _ => Option.some.inj read
          chosen := fun bets read => by
            cases read
            exact lowest_selectOutcome round.game _ rng
          same := fun bets settled => by
            change play.settledBets = some bets at settled
            rw [(inv.unselected ready.2).2] at settled
            cases settled }
  · exact inv

theorem inv_settle (inv : Inv round play) (platform : Platform) (faults : SettleStep → Bool) :
    Inv round (play.settle round platform faults) := by
  unfold settle
  split
  · exact inv
  · next winningOutcome outcome =>
      split
      · next ready =>
          have isSelected : play.selectedFrom ≠ none := by
            intro none
            rw [(inv.unselected none).1] at outcome
            cases outcome
          exact
            { drained := inv.drained
              before := fun impossible => by cases impossible
              unselected := fun none => absurd none isSelected
              noneLater := fun _ _ impossible => by cases impossible
              chosen := inv.chosen
              same := by
                intro bets settled
                have read := CasinoService.attempt_eq_some settled
                obtain ⟨snapshot, selected⟩ := Option.ne_none_iff_exists'.mp isSelected
                rw [inv.noneLater snapshot selected ready.1] at read
                change play.selectedFrom = some bets
                rw [selected, read] }
      · exact inv

theorem inv_step (inv : Inv round play) {event : RoundEvent} (drained : play.Drained event) :
    Inv round (step round play event) := by
  cases event with
  | place userId roundId item amount clientBetId betId =>
      exact inv_place inv userId roundId item amount clientBetId betId
  | advance position platform => exact inv_advance inv position platform
  | abort position failure => exact inv_abort inv position failure
  | beginSpin => exact inv_beginSpin inv
  | select rng => exact inv_select inv rng drained
  | settle platform faults => exact inv_settle inv platform faults

/-- Whatever calls are placed and however they interleave with the loop, a round
whose bets are read only once no checked call is under way is settled on exactly
those bets. -/
theorem placements_fair (round : RoundOf) (tables : Tables) (events : List RoundEvent)
    (drained : Runs.Each (step round) Drained (fresh tables) events) :
    Runs.Always (step round) (Fair round) (fresh tables) events := by
  have kept : Runs.Always (step round) (Inv round) (fresh tables) events := by
    refine Runs.always_of_each ?_ (fresh tables) (inv_fresh round tables) events drained
    intro play event inv permitted
    exact inv_step inv permitted
  apply Runs.Always.imp _ kept
  intro play inv
  exact fair_of_inv inv

/-! ### A bet that slips in -/

namespace LateBet

def openPlatform : Platform :=
  { economyFrozen := false
    walletEnabled := true }

def start : Tables :=
  { db := Db.empty.putWallet "alice" { Wallet.fresh "alice" with goldBalance := 1000 }
    rounds := [{ id := "round", game := .greedyFood }]
    bets := [] }

def greedyRound : RoundOf :=
  { game := .greedyFood
    id := "round" }

/-- Ties go to the first candidate. -/
def first : Rng :=
  ⟨fun _ => 0, fun _ positive => positive⟩

def placeCarrot : RoundEvent :=
  .place "alice" "round" "carrot" 100 "tap" "bet"

/-- The call passes the phase check, the outcome is selected without its bet, and
the call then finds the round row still open. -/
def events : List RoundEvent :=
  [placeCarrot, .beginSpin, .select first, .advance 0 openPlatform, .advance 0 openPlatform,
    .advance 0 openPlatform, .settle openPlatform fun _ => false]

def final : RoundPlay :=
  Runs.run (step greedyRound) (fresh start) events

end LateBet

open LateBet in
theorem late_bet_is_settled :
    final.selectedFrom = some [] ∧
      (final.settledBets.map fun bets => bets.map CasinoBet.id) = some ["bet"] ∧
      final.winningOutcome = some "carrot" ∧
      ¬Runs.Always (step greedyRound) (Fair greedyRound) (fresh start) events := by
  have selected : final.selectedFrom = some [] := by decide
  have settled : (final.settledBets.map fun bets => bets.map CasinoBet.id) = some ["bet"] := by
    decide
  refine ⟨selected, settled, by decide, ?_⟩
  intro always
  have fair : Fair greedyRound final := Runs.Always.final always
  obtain ⟨bets, read, ids⟩ := Option.map_eq_some_iff.mp settled
  have same := fair.same bets read
  rw [selected] at same
  cases same
  cases ids

open LateBet in
theorem placements_fair_of_early_bet :
    Runs.Always (step greedyRound) (Fair greedyRound) (fresh start)
      [placeCarrot, .advance 0 openPlatform, .advance 0 openPlatform, .advance 0 openPlatform,
        .beginSpin, .select first, .settle openPlatform fun _ => false] := by
  apply placements_fair
  refine ⟨trivial, trivial, trivial, trivial, trivial, ?_, trivial, trivial⟩
  change ∀ bettor ∈ (Runs.run (step greedyRound) (fresh start)
    [placeCarrot, .advance 0 openPlatform, .advance 0 openPlatform, .advance 0 openPlatform,
      .beginSpin]).bettors, bettor.placing.Finished = true
  decide

end RoundPlay

end Soulzaa.Casino
