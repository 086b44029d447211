/-
What the bets of a round are credited over repeated settlements.

A settlement that throws refunds bet by bet: the credit commits on its own and
the status is written afterwards.  A bet whose refund was credited but whose
status write failed is still PLACED, and a later settlement may pay its win as
well, under the other idempotency key.
-/

import Mathlib.Data.List.Nodup
import Soulzaa.Casino.Settlement
import Soulzaa.Lib.Runs

namespace Soulzaa.Casino

open CasinoService

/-! ### Repeated settlements -/

/-- One call of `settleRound`, and which of its steps throw. -/
structure Invocation where
  platform : Platform
  faults : SettleStep → Bool
  winningOutcome : Item

def Invocation.settlement (game : CasinoGame) (roundId : RoundId) (invocation : Invocation) :
    Settlement :=
  { platform := invocation.platform
    faults := invocation.faults
    game := game
    roundId := roundId
    winningOutcome := invocation.winningOutcome }

def settleAgain (game : CasinoGame) (roundId : RoundId) (tables : Tables)
    (invocation : Invocation) : Tables :=
  (settleRound (invocation.settlement game roundId) tables).1

/-- `header` is a credit under one of the two keys of `betId`. -/
def Credits (roundId : RoundId) (betId : BetId) (header : WalletTransaction) : Prop :=
  header.idempotencyKey = casinoWinIdempotencyKey roundId betId ∨
    header.idempotencyKey = casinoRefundIdempotencyKey roundId betId

instance (roundId : RoundId) (betId : BetId) (header : WalletTransaction) :
    Decidable (Credits roundId betId header) :=
  inferInstanceAs (Decidable (_ ∨ _))

/-- The wallet credits a bet has received, wins and refunds. -/
def creditsOf (roundId : RoundId) (tables : Tables) (betId : BetId) : List WalletTransaction :=
  tables.db.transactions.rows.filter fun header => Credits roundId betId header

/-- What a credit of `bet` may be: a win at some outcome, or the stake. -/
def IsCreditOf (game : CasinoGame) (roundId : RoundId) (bet : CasinoBet) (key : String)
    (amount : Int) : Prop :=
  (key = casinoWinIdempotencyKey roundId bet.id ∧
      ∃ outcome, amount = payout game outcome bet) ∨
    (key = casinoRefundIdempotencyKey roundId bet.id ∧ amount = bet.betAmount)

/-- Every bet of the round has one credit at most, its win or its refund. -/
def CreditedOnce (game : CasinoGame) (roundId : RoundId) (tables : Tables) : Prop :=
  ∀ bet ∈ tables.bets, bet.roundId = roundId →
    (creditsOf roundId tables bet.id).length ≤ 1 ∧
      ∀ header ∈ creditsOf roundId tables bet.id,
        IsCreditOf game roundId bet header.idempotencyKey header.amount

/-- No bet of the round has been credited yet; bet ids are a primary key. -/
structure Unsettled (roundId : RoundId) (tables : Tables) : Prop where
  distinct : (tables.bets.map CasinoBet.id).Nodup
  uncredited : ∀ betId, creditsOf roundId tables betId = []

/-- Whenever the refund of a bet goes through, so does the status write after it. -/
def Invocation.RecordsRefunds (invocation : Invocation) : Prop :=
  ∀ betId, invocation.faults (.creditRefund betId) = false →
    invocation.faults (.updateRefunded betId) = false

/-! ### Keys -/

theorem casinoWinIdempotencyKey_eq (roundId : RoundId) (betId : BetId) :
    casinoWinIdempotencyKey roundId betId = "casino-win:" ++ roundId ++ ":" ++ betId :=
  rfl

theorem casinoRefundIdempotencyKey_eq (roundId : RoundId) (betId : BetId) :
    casinoRefundIdempotencyKey roundId betId = "casino-refund:" ++ roundId ++ ":" ++ betId :=
  rfl

theorem casinoWinIdempotencyKey_ne_refund (roundId : RoundId) (first second : BetId) :
    casinoWinIdempotencyKey roundId first ≠ casinoRefundIdempotencyKey roundId second := by
  rw [casinoWinIdempotencyKey_eq, casinoRefundIdempotencyKey_eq]
  intro same
  have spelled := congrArg String.toList same
  simp at spelled

theorem casinoWinIdempotencyKey_inj {roundId : RoundId} {first second : BetId}
    (same : casinoWinIdempotencyKey roundId first = casinoWinIdempotencyKey roundId second) :
    first = second := by
  rw [casinoWinIdempotencyKey_eq, casinoWinIdempotencyKey_eq] at same
  simpa using same

theorem casinoRefundIdempotencyKey_inj {roundId : RoundId} {first second : BetId}
    (same : casinoRefundIdempotencyKey roundId first =
      casinoRefundIdempotencyKey roundId second) : first = second := by
  rw [casinoRefundIdempotencyKey_eq, casinoRefundIdempotencyKey_eq] at same
  simpa using same

/-! ### The invariant -/

/-- A PLACED bet of the round has no credit, no bet has two, and every credit has
the amount of its bet. -/
structure Safe (game : CasinoGame) (roundId : RoundId) (tables : Tables) : Prop where
  distinct : (tables.bets.map CasinoBet.id).Nodup
  pending : ∀ bet ∈ tables.bets, bet.roundId = roundId → bet.status = .placed →
    ∀ header ∈ tables.db.transactions.rows, ¬Credits roundId bet.id header
  exclusive : ∀ betId, ∀ first ∈ tables.db.transactions.rows,
    ∀ second ∈ tables.db.transactions.rows,
      Credits roundId betId first → Credits roundId betId second →
        first.idempotencyKey = second.idempotencyKey
  amounts : ∀ bet ∈ tables.bets, bet.roundId = roundId →
    ∀ header ∈ tables.db.transactions.rows, Credits roundId bet.id header →
      IsCreditOf game roundId bet header.idempotencyKey header.amount

theorem betId_eq_of_credits {roundId : RoundId} {first second : BetId}
    {header : WalletTransaction} (ofFirst : Credits roundId first header)
    (ofSecond : Credits roundId second header) : first = second := by
  rcases ofFirst with isWin | isRefund
  · rcases ofSecond with alsoWin | isRefund
    · exact casinoWinIdempotencyKey_inj (isWin.symm.trans alsoWin)
    · exact absurd (isWin.symm.trans isRefund) (casinoWinIdempotencyKey_ne_refund _ _ _)
  · rcases ofSecond with isWin | alsoRefund
    · exact absurd (isWin.symm.trans isRefund) (casinoWinIdempotencyKey_ne_refund _ _ _)
    · exact casinoRefundIdempotencyKey_inj (isRefund.symm.trans alsoRefund)

theorem safe_of_unsettled {roundId : RoundId} {tables : Tables}
    (unsettled : Unsettled roundId tables) (game : CasinoGame) : Safe game roundId tables := by
  have none : ∀ betId, ∀ header ∈ tables.db.transactions.rows,
      ¬Credits roundId betId header := by
    intro betId header member credits
    have listed : header ∈ creditsOf roundId tables betId :=
      List.mem_filter.mpr ⟨member, decide_eq_true credits⟩
    rw [unsettled.uncredited betId] at listed
    cases listed
  exact
    { distinct := unsettled.distinct
      pending := fun bet _ _ _ header member => none bet.id header member
      exclusive := fun betId first member _ _ credits _ => absurd credits (none betId first member)
      amounts := fun bet _ _ header member credits => absurd credits (none bet.id header member) }

theorem creditedOnce_of_safe {game : CasinoGame} {roundId : RoundId} {tables : Tables}
    (safe : Safe game roundId tables) : CreditedOnce game roundId tables := by
  intro bet member ofRound
  constructor
  · cases listed : creditsOf roundId tables bet.id with
    | nil => exact Nat.zero_le 1
    | cons first rest =>
        -- All of them have the key of the first, and a key occurs once.
        have isListed : ∀ header ∈ creditsOf roundId tables bet.id,
            header ∈ tables.db.transactions.rows ∧ Credits roundId bet.id header := by
          intro header inside
          have filtered := List.mem_filter.mp inside
          exact ⟨filtered.1, of_decide_eq_true filtered.2⟩
        have firstListed := isListed first (by rw [listed]; exact List.mem_cons_self)
        have oneKey : ∀ header ∈ creditsOf roundId tables bet.id,
            header.idempotencyKey = first.idempotencyKey := by
          intro header inside
          have headerListed := isListed header inside
          exact safe.exclusive bet.id header headerListed.1 first firstListed.1
            headerListed.2 firstListed.2
        have bounded := tables.db.transactions.length_filter_le_one first.idempotencyKey
        rw [← listed]
        apply le_trans _ bounded
        apply List.Sublist.length_le
        have same : creditsOf roundId tables bet.id =
            (creditsOf roundId tables bet.id).filter fun header =>
              header.idempotencyKey = first.idempotencyKey := by
          rw [List.filter_eq_self.mpr]
          intro header inside
          exact decide_eq_true (oneKey header inside)
        rw [same]
        exact List.Sublist.filter _ List.filter_sublist
  · intro header inside
    have filtered := List.mem_filter.mp inside
    exact safe.amounts bet member ofRound header filtered.1 (of_decide_eq_true filtered.2)

/-! ### One credit and the status write after it -/

/-- A bet of the round that has not been settled. -/
structure Open (roundId : RoundId) (tables : Tables) (bet : CasinoBet) : Prop where
  member : bet ∈ tables.bets
  ofRound : bet.roundId = roundId
  placed : bet.status = .placed

theorem open_of_listed {roundId : RoundId} {tables : Tables} {bet : CasinoBet}
    (listed : bet ∈ CasinoRepository.listPlacedBets tables roundId) :
    Open roundId tables bet := by
  obtain ⟨member, isPlaced⟩ := List.mem_filter.mp listed
  obtain ⟨ofRound, placed⟩ := of_decide_eq_true isPlaced
  exact ⟨member, ofRound, placed⟩

/-- A status write that settles a bet and changes nothing else that is read here. -/
structure Settles (update : CasinoBet → CasinoBet) : Prop where
  id : ∀ bet, (update bet).id = bet.id
  roundId : ∀ bet, (update bet).roundId = bet.roundId
  betItem : ∀ bet, (update bet).betItem = bet.betItem
  betAmount : ∀ bet, (update bet).betAmount = bet.betAmount
  settled : ∀ bet, (update bet).status ≠ .placed

theorem settles_markWon (amount : Int) (transactionId : TransactionId) :
    Settles (markWon amount transactionId) :=
  ⟨fun _ => rfl, fun _ => rfl, fun _ => rfl, fun _ => rfl, fun _ same => by cases same⟩

theorem settles_markLost : Settles markLost :=
  ⟨fun _ => rfl, fun _ => rfl, fun _ => rfl, fun _ => rfl, fun _ same => by cases same⟩

theorem settles_markRefunded (amount : Int) (transactionId : TransactionId) :
    Settles (markRefunded amount transactionId) :=
  ⟨fun _ => rfl, fun _ => rfl, fun _ => rfl, fun _ => rfl, fun _ same => by cases same⟩

/-- What a credit leaves: nothing new, when the key was known, or one transaction. -/
inductive Credited (before : Tables) (key : String) (amount : Int) (after : Tables) : Prop where
  | replayed (same : after.db.transactions.rows = before.db.transactions.rows)
  | stored (header : WalletTransaction) (keyed : header.idempotencyKey = key)
      (paid : header.amount = amount)
      (rows : after.db.transactions.rows = before.db.transactions.rows ++ [header])

theorem credited_of_credit {settlement : Settlement} {step : SettleStep}
    {tables after : Tables} {input : WalletMovementInput} {transactionId : TransactionId}
    (credit : credit settlement step tables input = some (after, transactionId)) :
    after.bets = tables.bets ∧ after.rounds = tables.rounds ∧
      Credited tables input.idempotencyKey input.amount after := by
  have moved := attempt_eq_some credit
  have after_eq : after =
      { tables with db := (WalletService.credit settlement.platform tables.db input).1 } := by
    revert moved
    cases WalletService.credit settlement.platform tables.db input with
    | mk db result =>
        cases result with
        | error failure =>
            intro impossible
            cases impossible
        | ok result =>
            intro same
            cases same
            rfl
  rw [after_eq]
  refine ⟨rfl, rfl, ?_⟩
  by_cases posts : WalletService.Posts settlement.platform tables.db .credit input
  · refine .stored (WalletRepository.movementHeader tables.db
      (WalletService.movementInput .credit input)) rfl rfl ?_
    change (WalletService.move settlement.platform tables.db .credit input).1.transactions.rows = _
    rw [WalletService.move_of_posts posts]
    rfl
  · apply Credited.replayed
    change (WalletService.move settlement.platform tables.db .credit input).1.transactions.rows = _
    rw [WalletService.move_of_not_posts posts]

theorem updateBet_eq_some {tables after : Tables} {id : BetId} {update : CasinoBet → CasinoBet}
    (updated : CasinoRepository.updateBet tables id update = some after) :
    after.db = tables.db ∧ after.rounds = tables.rounds ∧
      after.bets = tables.bets.map fun bet => if bet.id = id then update bet else bet := by
  unfold CasinoRepository.updateBet at updated
  split at updated
  · cases updated
    exact ⟨rfl, rfl, rfl⟩
  · cases updated

theorem updateBet_isSome {tables : Tables} {bet : CasinoBet} (member : bet ∈ tables.bets)
    (update : CasinoBet → CasinoBet) :
    (CasinoRepository.updateBet tables bet.id update).isSome := by
  unfold CasinoRepository.updateBet
  rw [if_pos (List.any_eq_true.mpr ⟨bet, member, decide_eq_true rfl⟩)]
  rfl

/-- The row a status write leaves comes from a row with the same id. -/
theorem exists_of_mem_updated {bets : List CasinoBet} {id : BetId}
    {update : CasinoBet → CasinoBet} (settles : Settles update) {row : CasinoBet}
    (member : row ∈ bets.map fun bet => if bet.id = id then update bet else bet) :
    ∃ bet ∈ bets, row.id = bet.id ∧ row.roundId = bet.roundId ∧ row.betItem = bet.betItem ∧
      row.betAmount = bet.betAmount ∧ (row.status = .placed → row = bet ∧ bet.id ≠ id) := by
  obtain ⟨bet, inside, written⟩ := List.mem_map.mp member
  refine ⟨bet, inside, ?_⟩
  by_cases isTarget : bet.id = id
  · rw [if_pos isTarget] at written
    rw [← written]
    exact ⟨settles.id bet, settles.roundId bet, settles.betItem bet, settles.betAmount bet,
      fun placed => absurd placed (settles.settled bet)⟩
  · rw [if_neg isTarget] at written
    rw [← written]
    exact ⟨rfl, rfl, rfl, rfl, fun _ => ⟨rfl, isTarget⟩⟩

theorem ids_updated (bets : List CasinoBet) (id : BetId) {update : CasinoBet → CasinoBet}
    (settles : Settles update) :
    (bets.map fun bet => if bet.id = id then update bet else bet).map CasinoBet.id =
      bets.map CasinoBet.id := by
  rw [List.map_map]
  apply List.map_congr_left
  intro bet _
  change (if bet.id = id then update bet else bet).id = bet.id
  split
  · exact settles.id bet
  · rfl

theorem payout_congr {game : CasinoGame} {first second : CasinoBet}
    (item : first.betItem = second.betItem) (amount : first.betAmount = second.betAmount)
    (outcome : Item) : payout game outcome first = payout game outcome second := by
  unfold payout
  rw [item, amount]

theorem isCreditOf_congr {game : CasinoGame} {roundId : RoundId} {first second : CasinoBet}
    (id : first.id = second.id) (item : first.betItem = second.betItem)
    (amount : first.betAmount = second.betAmount) {key : String} {credited : Int}
    (isCredit : IsCreditOf game roundId second key credited) :
    IsCreditOf game roundId first key credited := by
  rcases isCredit with ⟨isWin, outcome, paid⟩ | ⟨isRefund, paid⟩
  · exact Or.inl ⟨by rw [id, isWin], outcome, by rw [payout_congr item amount, paid]⟩
  · exact Or.inr ⟨by rw [id, isRefund], by rw [amount, paid]⟩

theorem credits_of_isCreditOf {game : CasinoGame} {roundId : RoundId} {bet : CasinoBet}
    {header : WalletTransaction}
    (isCredit : IsCreditOf game roundId bet header.idempotencyKey header.amount) :
    Credits roundId bet.id header := by
  rcases isCredit with ⟨isWin, _⟩ | ⟨isRefund, _⟩
  · exact Or.inl isWin
  · exact Or.inr isRefund

/-- A status write without a credit. -/
theorem safe_of_updated {game : CasinoGame} {roundId : RoundId} {tables after : Tables}
    (safe : Safe game roundId tables) {id : BetId} {update : CasinoBet → CasinoBet}
    (settles : Settles update)
    (rows : after.db.transactions.rows = tables.db.transactions.rows)
    (bets : after.bets = tables.bets.map fun bet => if bet.id = id then update bet else bet) :
    Safe game roundId after := by
  refine ⟨?_, ?_, ?_, ?_⟩
  · rw [bets, ids_updated _ _ settles]
    exact safe.distinct
  · rw [rows, bets]
    intro row member ofRound placed
    obtain ⟨bet, inside, _, _, _, _, same⟩ := exists_of_mem_updated settles member
    obtain ⟨rfl, _⟩ := same placed
    exact safe.pending row inside ofRound placed
  · rw [rows]
    exact safe.exclusive
  · rw [rows, bets]
    intro row member ofRound header stored credits
    obtain ⟨bet, inside, sameId, sameRound, sameItem, sameAmount, _⟩ :=
      exists_of_mem_updated settles member
    rw [sameRound] at ofRound
    rw [sameId] at credits
    exact isCreditOf_congr sameId sameItem sameAmount
      (safe.amounts bet inside ofRound header stored credits)

/-- A credit of an open bet together with the status write after it. -/
theorem safe_of_paid {game : CasinoGame} {roundId : RoundId} {tables after : Tables}
    (safe : Safe game roundId tables) {bet : CasinoBet} (isOpen : Open roundId tables bet)
    {key : String} {amount : Int} (isCredit : IsCreditOf game roundId bet key amount)
    {update : CasinoBet → CasinoBet} (settles : Settles update)
    (credited : Credited tables key amount after)
    (bets : after.bets = tables.bets.map fun row => if row.id = bet.id then update row else row) :
    Safe game roundId after := by
  rcases credited with rows | ⟨header, keyed, paid, rows⟩
  · exact safe_of_updated safe settles rows bets
  · rw [← keyed, ← paid] at isCredit
    have ofBet := credits_of_isCreditOf isCredit
    have unpaid := safe.pending bet isOpen.member isOpen.ofRound isOpen.placed
    refine ⟨?_, ?_, ?_, ?_⟩
    · rw [bets, ids_updated _ _ settles]
      exact safe.distinct
    · rw [rows, bets]
      intro row member ofRound placed other stored credits
      obtain ⟨source, inside, _, _, _, _, same⟩ := exists_of_mem_updated settles member
      obtain ⟨rfl, notBet⟩ := same placed
      rcases List.mem_append.mp stored with earlier | latest
      · exact safe.pending row inside ofRound placed other earlier credits
      · rw [List.mem_singleton.mp latest] at credits
        exact notBet (betId_eq_of_credits credits ofBet)
    · rw [rows]
      intro betId first firstStored second secondStored firstCredits secondCredits
      rcases List.mem_append.mp firstStored with firstEarlier | firstLatest
      · rcases List.mem_append.mp secondStored with secondEarlier | secondLatest
        · exact safe.exclusive betId first firstEarlier second secondEarlier firstCredits
            secondCredits
        · rw [List.mem_singleton.mp secondLatest] at secondCredits
          have same := betId_eq_of_credits secondCredits ofBet
          rw [same] at firstCredits
          exact absurd firstCredits (unpaid first firstEarlier)
      · rw [List.mem_singleton.mp firstLatest] at firstCredits ⊢
        rcases List.mem_append.mp secondStored with secondEarlier | secondLatest
        · have same := betId_eq_of_credits firstCredits ofBet
          rw [same] at secondCredits
          exact absurd secondCredits (unpaid second secondEarlier)
        · rw [List.mem_singleton.mp secondLatest]
    · rw [rows, bets]
      intro row member ofRound other stored credits
      obtain ⟨source, inside, sameId, sameRound, sameItem, sameAmount, _⟩ :=
        exists_of_mem_updated settles member
      rw [sameRound] at ofRound
      rw [sameId] at credits
      rcases List.mem_append.mp stored with earlier | latest
      · exact isCreditOf_congr sameId sameItem sameAmount
          (safe.amounts source inside ofRound other earlier credits)
      · rw [List.mem_singleton.mp latest] at credits ⊢
        have same := betId_eq_of_credits credits ofBet
        have isBet : source = bet :=
          List.inj_on_of_nodup_map safe.distinct inside isOpen.member same
        rw [isBet] at sameId sameItem sameAmount
        exact isCreditOf_congr sameId sameItem sameAmount isCredit

/-- The other open bets stay as they are. -/
theorem open_of_updated {roundId : RoundId} {tables after : Tables} {bet other : CasinoBet}
    (isOpen : Open roundId tables other) (different : other.id ≠ bet.id)
    {update : CasinoBet → CasinoBet}
    (bets : after.bets = tables.bets.map fun row => if row.id = bet.id then update row else row) :
    Open roundId after other := by
  refine ⟨?_, isOpen.ofRound, isOpen.placed⟩
  rw [bets]
  exact List.mem_map.mpr ⟨other, isOpen.member, if_neg different⟩

/-! ### One settlement -/

variable {game : CasinoGame} {roundId : RoundId} {invocation : Invocation}

theorem safe_of_settleBet {state after : Tables × Payouts} {bet : CasinoBet}
    (safe : Safe game roundId state.1) (isOpen : Open roundId state.1 bet)
    (settled : settleBet (invocation.settlement game roundId) state bet = some after) :
    Safe game roundId after.1 ∧
      ∀ other, Open roundId state.1 other → other.id ≠ bet.id → Open roundId after.1 other := by
  unfold settleBet at settled
  by_cases positive : 0 < payout (invocation.settlement game roundId).game
      (invocation.settlement game roundId).winningOutcome bet
  · simp only [if_pos positive, Option.bind_eq_bind, Option.bind_eq_some_iff,
      Option.some.injEq] at settled
    obtain ⟨⟨paid, transactionId⟩, credit, marked, written, rfl⟩ := settled
    obtain ⟨sameBets, _, credited⟩ := credited_of_credit credit
    obtain ⟨sameDb, _, bets⟩ := updateBet_eq_some (attempt_eq_some written)
    rw [sameBets] at bets
    have creditedMarked : Credited state.1 (casinoWinIdempotencyKey roundId bet.id)
        (payout game invocation.winningOutcome bet) marked := by
      rcases credited with rows | ⟨header, keyed, amount, rows⟩
      · exact .replayed (by rw [sameDb, rows])
      · exact .stored header keyed amount (by rw [sameDb, rows])
    constructor
    · exact safe_of_paid safe isOpen (Or.inl ⟨rfl, _, rfl⟩) (settles_markWon _ _)
        creditedMarked bets
    · intro other otherOpen different
      exact open_of_updated otherOpen different bets
  · simp only [if_neg positive, Option.bind_eq_bind, Option.bind_eq_some_iff,
      Option.some.injEq] at settled
    obtain ⟨marked, written, rfl⟩ := settled
    obtain ⟨sameDb, _, bets⟩ := updateBet_eq_some (attempt_eq_some written)
    constructor
    · exact safe_of_updated safe settles_markLost (by rw [sameDb]) bets
    · intro other otherOpen different
      exact open_of_updated otherOpen different bets

theorem safe_of_foldlM {placed : List CasinoBet} {state after : Tables × Payouts}
    (safe : Safe game roundId state.1) (distinct : (placed.map CasinoBet.id).Nodup)
    (areOpen : ∀ bet ∈ placed, Open roundId state.1 bet)
    (settled : placed.foldlM (settleBet (invocation.settlement game roundId)) state =
      some after) : Safe game roundId after.1 := by
  induction placed generalizing state with
  | nil =>
      cases settled
      exact safe
  | cons first rest ih =>
      obtain ⟨middle, head, tail⟩ := Option.bind_eq_some_iff.mp settled
      obtain ⟨notLater, restDistinct⟩ := List.nodup_cons.mp distinct
      obtain ⟨middleSafe, stayOpen⟩ :=
        safe_of_settleBet safe (areOpen first List.mem_cons_self) head
      apply ih middleSafe restDistinct _ tail
      intro bet member
      apply stayOpen bet (areOpen bet (List.mem_cons_of_mem first member))
      intro same
      exact notLater (same ▸ List.mem_map_of_mem member)

theorem safe_of_closeRound {tables after : Tables} {id : RoundId} {status : CasinoRoundStatus}
    {outcome : Option Item} (safe : Safe game roundId tables)
    (closed : CasinoRepository.closeRound tables id status outcome = some after) :
    Safe game roundId after := by
  unfold CasinoRepository.closeRound at closed
  split at closed
  · cases closed
    exact ⟨safe.distinct, safe.pending, safe.exclusive, safe.amounts⟩
  · cases closed

/-- The refund of one bet, when its status write does not fail after the credit. -/
theorem safe_of_refundBet {tables : Tables} {bet : CasinoBet}
    (safe : Safe game roundId tables) (isOpen : Open roundId tables bet)
    (records : invocation.RecordsRefunds) :
    Safe game roundId (refundBet (invocation.settlement game roundId) tables bet) ∧
      ∀ other, Open roundId tables other → other.id ≠ bet.id →
        Open roundId (refundBet (invocation.settlement game roundId) tables bet) other := by
  unfold refundBet
  cases credit : CasinoService.credit (invocation.settlement game roundId) (.creditRefund bet.id)
      tables (refundInput (invocation.settlement game roundId) bet) with
  | none => exact ⟨safe, fun _ otherOpen _ => otherOpen⟩
  | some result =>
      obtain ⟨paid, transactionId⟩ := result
      obtain ⟨sameBets, _, credited⟩ := credited_of_credit credit
      have creditRan : invocation.faults (.creditRefund bet.id) = false := by
        cases failed : invocation.faults (.creditRefund bet.id) with
        | false => rfl
        | true =>
            unfold CasinoService.credit attempt at credit
            rw [show (invocation.settlement game roundId).faults (.creditRefund bet.id) = true
              from failed, if_pos rfl] at credit
            cases credit
      have writeRan : (invocation.settlement game roundId).faults (.updateRefunded bet.id) = false :=
        records bet.id creditRan
      have inside : bet ∈ paid.bets := by
        rw [sameBets]
        exact isOpen.member
      obtain ⟨marked, written⟩ := Option.isSome_iff_exists.mp
        (updateBet_isSome inside (markRefunded bet.betAmount transactionId))
      obtain ⟨sameDb, _, bets⟩ := updateBet_eq_some written
      rw [sameBets] at bets
      have creditedMarked : Credited tables (casinoRefundIdempotencyKey roundId bet.id)
          bet.betAmount marked := by
        rcases credited with rows | ⟨header, keyed, amount, rows⟩
        · exact .replayed (by rw [sameDb, rows])
        · exact .stored header keyed amount (by rw [sameDb, rows])
      simp only [attempt, writeRan, Bool.false_eq_true, if_false, written, Option.getD_some]
      constructor
      · exact safe_of_paid safe isOpen (Or.inr ⟨rfl, rfl⟩) (settles_markRefunded _ _)
          creditedMarked bets
      · intro other otherOpen different
        exact open_of_updated otherOpen different bets

theorem safe_of_refunds {placed : List CasinoBet} {tables : Tables}
    (safe : Safe game roundId tables) (distinct : (placed.map CasinoBet.id).Nodup)
    (areOpen : ∀ bet ∈ placed, Open roundId tables bet) (records : invocation.RecordsRefunds) :
    Safe game roundId
      (placed.foldl (refundBet (invocation.settlement game roundId)) tables) := by
  induction placed generalizing tables with
  | nil => exact safe
  | cons first rest ih =>
      obtain ⟨notLater, restDistinct⟩ := List.nodup_cons.mp distinct
      obtain ⟨middleSafe, stayOpen⟩ :=
        safe_of_refundBet safe (areOpen first List.mem_cons_self) records
      apply ih middleSafe restDistinct
      intro bet member
      apply stayOpen bet (areOpen bet (List.mem_cons_of_mem first member))
      intro same
      exact notLater (same ▸ List.mem_map_of_mem member)

theorem safe_of_getD {tables : Tables} {result : Option Tables} (safe : Safe game roundId tables)
    (kept : ∀ after, result = some after → Safe game roundId after) :
    Safe game roundId (result.getD tables) := by
  cases result with
  | none => exact safe
  | some after => exact kept after rfl

theorem safe_of_refundRound {placed : List CasinoBet} {tables : Tables}
    (safe : Safe game roundId tables) (distinct : (placed.map CasinoBet.id).Nodup)
    (areOpen : ∀ bet ∈ placed, Open roundId tables bet) (records : invocation.RecordsRefunds) :
    Safe game roundId (refundRound (invocation.settlement game roundId) tables placed) := by
  have refunded := safe_of_refunds safe distinct areOpen records
  unfold refundRound
  apply safe_of_getD refunded
  intro after closed
  exact safe_of_closeRound refunded (attempt_eq_some closed)

theorem safe_settleAgain {tables : Tables} (safe : Safe game roundId tables)
    (records : invocation.RecordsRefunds) :
    Safe game roundId (settleAgain game roundId tables invocation) := by
  have distinct : ((CasinoRepository.listPlacedBets tables roundId).map CasinoBet.id).Nodup :=
    safe.distinct.sublist (List.Sublist.map _ List.filter_sublist)
  have areOpen : ∀ bet ∈ CasinoRepository.listPlacedBets tables roundId,
      Open roundId tables bet := fun bet listed => open_of_listed listed
  unfold settleAgain settleRound
  cases listed : attempt (invocation.settlement game roundId) .listPlacedBets
      (some (CasinoRepository.listPlacedBets tables roundId)) with
  | none =>
      rw [show CasinoRepository.listPlacedBets tables
        (invocation.settlement game roundId).roundId =
          CasinoRepository.listPlacedBets tables roundId from rfl, listed]
      exact safe
  | some placed =>
      rw [show CasinoRepository.listPlacedBets tables
        (invocation.settlement game roundId).roundId =
          CasinoRepository.listPlacedBets tables roundId from rfl, listed]
      cases attempt_eq_some listed
      cases transaction : settleTransaction (invocation.settlement game roundId) tables
          (CasinoRepository.listPlacedBets tables roundId) with
      | none =>
          simp only [transaction]
          exact safe_of_refundRound safe distinct areOpen records
      | some committed =>
          obtain ⟨settled, payouts⟩ := committed
          simp only [transaction]
          unfold settleTransaction at transaction
          simp only [Option.bind_eq_bind, Option.bind_eq_some_iff] at transaction
          obtain ⟨-, -, ⟨_, paid⟩, looped, _, closed, last⟩ := transaction
          cases attempt_eq_some last
          have loopSafe := safe_of_foldlM safe distinct areOpen looped
          exact safe_of_closeRound loopSafe (attempt_eq_some closed)

namespace DoubleCredit

def bet : CasinoBet :=
  { id := "bet"
    roundId := "round"
    userId := "alice"
    game := .greedyFood
    betItem := "carrot"
    betAmount := 100
    clientBetId := "tap" }

def tables : Tables :=
  { db := Db.empty
    rounds := [{ id := "round", game := .greedyFood }]
    bets := [bet] }

def openPlatform : Platform :=
  { economyFrozen := false
    walletEnabled := true }

/-- The transaction fails at its end, and so does the write after the refund. -/
def failing : Invocation :=
  { platform := openPlatform
    faults := fun step => step = .closeRound ∨ step = .updateRefunded "bet"
    winningOutcome := "carrot" }

def working : Invocation :=
  { platform := openPlatform
    faults := fun _ => false
    winningOutcome := "carrot" }

end DoubleCredit

end Soulzaa.Casino
