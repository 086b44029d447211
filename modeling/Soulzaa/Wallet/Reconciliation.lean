/-
The reconciliation sweep: WalletReconciliationService and the repository
queries it runs.

The sweep visits every wallet once.  What it can miss is drift: it compares a
column only where the ledger has rows of its currency, and compares the two as
floating-point numbers.
-/

import Mathlib.Data.List.Sort
import Mathlib.Data.String.Basic
import Soulzaa.Lib.CursorScan
import Soulzaa.Wallet.Ledger

namespace Soulzaa

def WalletCurrency.all : List WalletCurrency :=
  [.gold, .diamond, .game, .free, .earnings]

theorem WalletCurrency.mem_all (currency : WalletCurrency) : currency ∈ all := by
  cases currency <;> decide

namespace WalletRepository

/-! ### aggregateSignedByCurrency -/

structure GroupedAmount where
  currency : WalletCurrency
  type : WalletEntryType
  amount : Int
  deriving DecidableEq, Repr

/-- The row of a currency and a type, when the wallet has an entry of both. -/
def groupedAmount? (ledger : List LedgerEntry) (walletId : UserId)
    (key : WalletCurrency × WalletEntryType) : Option GroupedAmount :=
  if ledger.any fun entry =>
      entry.walletId = walletId ∧ entry.currency = key.1 ∧ entry.type = key.2 then
    some
      { currency := key.1
        type := key.2
        amount := ledgerSum ledger walletId key.1 key.2 }
  else none

/-- The database may return the rows in any order. -/
def groupByCurrencyAndType (ledger : List LedgerEntry) (walletId : UserId) :
    List GroupedAmount :=
  (WalletCurrency.all.product [WalletEntryType.credit, .debit]).filterMap
    (groupedAmount? ledger walletId)

structure SignedSums where
  credited : Int
  debited : Int
  deriving DecidableEq, Repr

def SignedSums.zero : SignedSums :=
  { credited := 0
    debited := 0 }

abbrev SumsByCurrency := AList fun _ : WalletCurrency => SignedSums

def SumsByCurrency.get (sums : SumsByCurrency) (currency : WalletCurrency) : SignedSums :=
  (sums.lookup currency).getD SignedSums.zero

def addGrouped (sums : SumsByCurrency) (row : GroupedAmount) : SumsByCurrency :=
  let current := sums.get row.currency
  sums.insert row.currency
    (match row.type with
    | .credit => { current with credited := current.credited + row.amount }
    | .debit => { current with debited := current.debited + row.amount })

def aggregateSignedByCurrency (db : Db) (userId : UserId) :
    List (WalletCurrency × SignedSums) :=
  match db.findWallet userId with
  | none => []
  | some _ =>
      ((groupByCurrencyAndType db.ledger userId).foldl addGrouped ∅).entries.map
        fun entry => (entry.1, entry.2)

/-! ### listUserIdsAfter -/

def userIds (db : Db) : List UserId :=
  db.wallets.keys.insertionSort fun left right => left ≤ right

/-- A user id is a UUID and never empty, so a cursor that is set is truthy. -/
def listUserIdsAfter (db : Db) (cursorUserId : Option UserId) (take : Nat) : List UserId :=
  CursorScan.pageAfter (userIds db) cursorUserId take

end WalletRepository

namespace WalletReconciliationService

open WalletRepository

structure CurrencyDrift where
  currency : WalletCurrency
  ledgerComputed : Int
  balanceColumn : Int
  drift : Int
  deriving DecidableEq, Repr

structure ReconciliationReport where
  userId : UserId
  perCurrency : List CurrencyDrift
  strandedSettlements : List String
  deriving DecidableEq, Repr

/-- The column of a wallet, or 0 for a user without one. -/
def balanceColumn (db : Db) (userId : UserId) (currency : WalletCurrency) : Int :=
  match db.findWallet userId with
  | some wallet => wallet.balance currency
  | none => 0

def currencyDrift (db : Db) (userId : UserId) (currency : WalletCurrency)
    (sums : SignedSums) : CurrencyDrift :=
  let ledgerComputed := toNumber (sums.credited - sums.debited)
  let column := toNumber (balanceColumn db userId currency)
  { currency := currency
    ledgerComputed := ledgerComputed
    balanceColumn := column
    drift := Binary64.sub ledgerComputed column }

def reconcileUser (db : Db) (userId : UserId) : ReconciliationReport :=
  { userId := userId
    perCurrency := (aggregateSignedByCurrency db userId).map fun (currency, sums) =>
      currencyDrift db userId currency sums
    strandedSettlements := [] }

/-- `report.perCurrency.some((c) => c.drift !== 0)`. -/
def ReconciliationReport.hasDrift (report : ReconciliationReport) : Bool :=
  report.perCurrency.any fun entry => entry.drift ≠ 0

/-- The two counters of the sweep, and the users it has reconciled. -/
structure Sweep where
  reconciled : List UserId
  scanned : Nat
  drifted : Nat
  deriving DecidableEq, Repr

def Sweep.begin : Sweep :=
  { reconciled := []
    scanned := 0
    drifted := 0 }

def Sweep.visit (db : Db) (sweep : Sweep) (userId : UserId) : Sweep :=
  { reconciled := sweep.reconciled ++ [userId]
    scanned := sweep.scanned + 1
    drifted :=
      if (reconcileUser db userId).hasDrift then sweep.drifted + 1 else sweep.drifted }

structure BatchSize where
  size : Nat
  positive : 0 < size

def walletReconcileBatchSize : BatchSize :=
  { size := 500
    positive := by decide }

inductive SweepResult where
  | user (report : ReconciliationReport)
  | fleet (sweep : Sweep)
  deriving DecidableEq, Repr

/-- One user's report, or the fleet-wide loop; `none` when the loop has not ended
within the fuel. -/
def handleSweep (db : Db) (batch : BatchSize) (fuel : Nat) : Option UserId → Option SweepResult
  | some userId => some (.user (reconcileUser db userId))
  | none =>
      (CursorScan.scan (fun cursor => listUserIdsAfter db cursor batch.size) batch.size
        (Sweep.visit db) fuel none Sweep.begin).map .fleet

end WalletReconciliationService

/-! ### The aggregation -/

namespace WalletRepository

def groupedTotal (rows : List GroupedAmount) (currency : WalletCurrency)
    (type : WalletEntryType) : Int :=
  ((rows.filter fun row => row.currency = currency ∧ row.type = type).map
    GroupedAmount.amount).sum

theorem groupedTotal_cons (row : GroupedAmount) (rest : List GroupedAmount)
    (currency : WalletCurrency) (type : WalletEntryType) :
    groupedTotal (row :: rest) currency type =
      (if row.currency = currency ∧ row.type = type then row.amount else 0) +
        groupedTotal rest currency type := by
  unfold groupedTotal
  by_cases same : row.currency = currency ∧ row.type = type
  · rw [List.filter_cons_of_pos (by simpa using same), if_pos same, List.map_cons,
      List.sum_cons]
  · rw [List.filter_cons_of_neg (by simpa using same), if_neg same, Int.zero_add]

theorem get_addGrouped (sums : SumsByCurrency) (row : GroupedAmount)
    (currency : WalletCurrency) :
    (addGrouped sums row).get currency =
      { credited := (sums.get currency).credited +
          if row.currency = currency ∧ row.type = .credit then row.amount else 0
        debited := (sums.get currency).debited +
          if row.currency = currency ∧ row.type = .debit then row.amount else 0 } := by
  unfold addGrouped SumsByCurrency.get
  by_cases same : currency = row.currency
  · subst same
    rw [AList.lookup_insert]
    cases type : row.type <;> simp
  · rw [AList.lookup_insert_ne same]
    simp [show ¬row.currency = currency from fun equal => same equal.symm]

theorem get_foldl_addGrouped (rows : List GroupedAmount) (sums : SumsByCurrency)
    (currency : WalletCurrency) :
    (rows.foldl addGrouped sums).get currency =
      { credited := (sums.get currency).credited + groupedTotal rows currency .credit
        debited := (sums.get currency).debited + groupedTotal rows currency .debit } := by
  induction rows generalizing sums with
  | nil => simp [groupedTotal]
  | cons row rest ih =>
      rw [List.foldl_cons, ih, get_addGrouped, groupedTotal_cons, groupedTotal_cons]
      simp only [Int.add_assoc]

theorem mem_foldl_addGrouped (rows : List GroupedAmount) (sums : SumsByCurrency)
    (currency : WalletCurrency) :
    currency ∈ rows.foldl addGrouped sums ↔
      currency ∈ sums ∨ ∃ row ∈ rows, row.currency = currency := by
  induction rows generalizing sums with
  | nil => simp
  | cons row rest ih =>
      rw [List.foldl_cons, ih]
      unfold addGrouped
      rw [AList.mem_insert, List.exists_mem_cons_iff, or_assoc, or_left_comm,
        eq_comm (a := currency)]

def HasRows (ledger : List LedgerEntry) (userId : UserId) (currency : WalletCurrency) : Prop :=
  ∃ entry ∈ ledger, entry.walletId = userId ∧ entry.currency = currency

theorem groupedAmount?_eq_some {ledger : List LedgerEntry} {walletId : UserId}
    {key : WalletCurrency × WalletEntryType} {row : GroupedAmount}
    (stored : groupedAmount? ledger walletId key = some row) :
    (∃ entry ∈ ledger, entry.walletId = walletId ∧ entry.currency = key.1) ∧
      row.currency = key.1 ∧ row.type = key.2 ∧
        row.amount = ledgerSum ledger walletId key.1 key.2 := by
  unfold groupedAmount? at stored
  split at stored
  · rename_i found
    cases stored
    obtain ⟨entry, inLedger, same⟩ := List.any_eq_true.mp found
    simp only [decide_eq_true_eq] at same
    exact ⟨⟨entry, inLedger, same.1, same.2.1⟩, rfl, rfl, rfl⟩
  · cases stored

theorem groupedAmount?_eq_none_iff (ledger : List LedgerEntry) (walletId : UserId)
    (key : WalletCurrency × WalletEntryType) :
    groupedAmount? ledger walletId key = none ↔
      ∀ entry ∈ ledger,
        ¬(entry.walletId = walletId ∧ entry.currency = key.1 ∧ entry.type = key.2) := by
  unfold groupedAmount?
  rw [ite_eq_right_iff]
  simp

theorem ledgerSum_eq_zero {ledger : List LedgerEntry} {walletId : UserId}
    {key : WalletCurrency × WalletEntryType}
    (missing : groupedAmount? ledger walletId key = none) :
    ledgerSum ledger walletId key.1 key.2 = 0 := by
  unfold ledgerSum
  rw [List.filter_eq_nil_iff.mpr]
  · rfl
  · intro entry member
    simpa using (groupedAmount?_eq_none_iff ledger walletId key).mp missing entry member

theorem mem_keys (currency : WalletCurrency) (type : WalletEntryType) :
    (currency, type) ∈ WalletCurrency.all.product [WalletEntryType.credit, .debit] := by
  rw [List.pair_mem_product]
  exact ⟨WalletCurrency.mem_all currency, by cases type <;> simp⟩

theorem exists_grouped_iff (ledger : List LedgerEntry) (userId : UserId)
    (currency : WalletCurrency) :
    (∃ row ∈ groupByCurrencyAndType ledger userId, row.currency = currency) ↔
      HasRows ledger userId currency := by
  unfold groupByCurrencyAndType HasRows
  constructor
  · rintro ⟨row, member, rfl⟩
    obtain ⟨key, -, stored⟩ := List.mem_filterMap.mp member
    obtain ⟨⟨entry, inLedger, same⟩, named, -⟩ := groupedAmount?_eq_some stored
    exact ⟨entry, inLedger, same.1, named ▸ same.2⟩
  · rintro ⟨entry, inLedger, sameWallet, rfl⟩
    obtain ⟨row, stored⟩ : ∃ row,
        groupedAmount? ledger userId (entry.currency, entry.type) = some row := by
      rw [← Option.ne_none_iff_exists']
      intro missing
      exact (groupedAmount?_eq_none_iff _ _ _).mp missing entry inLedger ⟨sameWallet, rfl, rfl⟩
    exact ⟨row, List.mem_filterMap.mpr ⟨_, mem_keys _ _, stored⟩,
      (groupedAmount?_eq_some stored).2.1⟩

theorem groupedTotal_filterMap (ledger : List LedgerEntry) (userId : UserId)
    (keys : List (WalletCurrency × WalletEntryType)) (wanted : WalletCurrency × WalletEntryType) :
    groupedTotal (keys.filterMap (groupedAmount? ledger userId)) wanted.1 wanted.2 =
      keys.count wanted * ledgerSum ledger userId wanted.1 wanted.2 := by
  induction keys with
  | nil => simp [groupedTotal]
  | cons key rest ih =>
      cases stored : groupedAmount? ledger userId key with
      -- A group without entries sums to zero, whether or not it is the one wanted.
      | none =>
          rw [List.filterMap_cons_none stored, ih, List.count_cons]
          by_cases same : key = wanted
          · rw [← same, ledgerSum_eq_zero stored, Int.mul_zero, Int.mul_zero]
          · rw [beq_false_of_ne same]
            rfl
      | some row =>
          obtain ⟨-, named, ofType, amount⟩ := groupedAmount?_eq_some stored
          rw [List.filterMap_cons_some stored, groupedTotal_cons, ih, List.count_cons, named,
            ofType, amount]
          by_cases same : key = wanted
          · subst same
            rw [if_pos ⟨rfl, rfl⟩, beq_self_eq_true, if_pos rfl]
            push_cast
            rw [Int.add_mul, Int.one_mul, Int.add_comm]
          · rw [beq_false_of_ne same, if_neg fun both => same (Prod.ext both.1 both.2)]
            simp

theorem groupedTotal_groupBy (ledger : List LedgerEntry) (userId : UserId)
    (currency : WalletCurrency) (type : WalletEntryType) :
    groupedTotal (groupByCurrencyAndType ledger userId) currency type =
      ledgerSum ledger userId currency type := by
  have once : (WalletCurrency.all.product [WalletEntryType.credit, .debit]).count
      (currency, type) = 1 := by
    cases currency <;> cases type <;> decide
  have total := groupedTotal_filterMap ledger userId
    (WalletCurrency.all.product [WalletEntryType.credit, .debit]) (currency, type)
  rw [once] at total
  rw [groupByCurrencyAndType, total]
  exact Int.one_mul _

/-- The aggregation lists the currencies the wallet has rows in, each with the
sums of its credits and debits. -/
theorem mem_aggregateSignedByCurrency_iff {db : Db} {userId : UserId} {wallet : Wallet}
    (found : db.findWallet userId = some wallet) (currency : WalletCurrency)
    (sums : SignedSums) :
    (currency, sums) ∈ aggregateSignedByCurrency db userId ↔
      HasRows db.ledger userId currency ∧
        sums =
          { credited := ledgerSum db.ledger userId currency .credit
            debited := ledgerSum db.ledger userId currency .debit } := by
  let grouped := (groupByCurrencyAndType db.ledger userId).foldl addGrouped ∅
  have listed : (currency, sums) ∈ aggregateSignedByCurrency db userId ↔
      grouped.lookup currency = some sums := by
    simp only [aggregateSignedByCurrency, found]
    rw [List.mem_map]
    constructor
    · rintro ⟨entry, member, same⟩
      cases same
      exact AList.mem_lookup_iff.mpr member
    · intro stored
      exact ⟨⟨currency, sums⟩, AList.mem_lookup_iff.mp stored, rfl⟩
  have total : grouped.get currency =
      { credited := ledgerSum db.ledger userId currency .credit
        debited := ledgerSum db.ledger userId currency .debit } := by
    have folded := get_foldl_addGrouped (groupByCurrencyAndType db.ledger userId) ∅ currency
    rw [groupedTotal_groupBy, groupedTotal_groupBy] at folded
    rw [folded]
    simp [SumsByCurrency.get, SignedSums.zero]
  have present : (grouped.lookup currency).isSome ↔ HasRows db.ledger userId currency := by
    rw [AList.lookup_isSome, mem_foldl_addGrouped, exists_grouped_iff]
    simp
  rw [listed, ← total, ← present]
  unfold SumsByCurrency.get
  cases grouped.lookup currency with
  | none => simp
  | some stored => simp [eq_comm]

end WalletRepository

/-! ### One user -/

namespace WalletReconciliationService

open WalletRepository

/-- Some currency with ledger rows differs from its column as a `Number`. -/
def ShowsDrift (db : Db) (userId : UserId) : Prop :=
  ∃ currency, HasRows db.ledger userId currency ∧
    toNumber (ledgerNet db.ledger userId currency) ≠
      toNumber ((db.row userId).balance currency)

def Drifts (db : Db) (userId : UserId) : Prop :=
  ∃ currency, (db.row userId).balance currency ≠ ledgerNet db.ledger userId currency

instance (db : Db) (userId : UserId) : Decidable (Drifts db userId) :=
  decidable_of_iff
    (∃ currency ∈ WalletCurrency.all,
      (db.row userId).balance currency ≠ ledgerNet db.ledger userId currency)
    ⟨fun ⟨currency, _, different⟩ => ⟨currency, different⟩,
      fun ⟨currency, different⟩ => ⟨currency, WalletCurrency.mem_all currency, different⟩⟩

theorem drifts_of_showsDrift {db : Db} {userId : UserId} (shows : ShowsDrift db userId) :
    Drifts db userId := by
  obtain ⟨currency, -, different⟩ := shows
  exact ⟨currency, fun same => different (by rw [same])⟩

theorem hasDrift_iff {db : Db} {userId : UserId} {wallet : Wallet}
    (found : db.findWallet userId = some wallet) :
    (reconcileUser db userId).hasDrift = true ↔ ShowsDrift db userId := by
  have column (currency : WalletCurrency) :
      balanceColumn db userId currency = (db.row userId).balance currency := by
    rw [Db.row_eq_of_findWallet found]
    simp only [balanceColumn, found]
  unfold ReconciliationReport.hasDrift ShowsDrift reconcileUser
  rw [List.any_eq_true]
  constructor
  · rintro ⟨drift, member, nonzero⟩
    obtain ⟨⟨currency, sums⟩, listed, rfl⟩ := List.mem_map.mp member
    obtain ⟨rows, rfl⟩ := (mem_aggregateSignedByCurrency_iff found currency sums).mp listed
    refine ⟨currency, rows, fun same => ?_⟩
    simp only [decide_eq_true_eq] at nonzero
    apply nonzero
    simp only [currencyDrift, column]
    exact (Binary64.sub_eq_zero_iff _ _).mpr same
  · rintro ⟨currency, rows, different⟩
    refine ⟨_, List.mem_map.mpr
      ⟨_, (mem_aggregateSignedByCurrency_iff found currency _).mpr ⟨rows, rfl⟩, rfl⟩, ?_⟩
    simp only [decide_eq_true_eq, currencyDrift, column]
    exact fun zero => different ((Binary64.sub_eq_zero_iff _ _).mp zero)

/-! ### The sweep -/

theorem foldl_visit (db : Db) (userIds : List UserId) (sweep : Sweep) :
    userIds.foldl (Sweep.visit db) sweep =
      { reconciled := sweep.reconciled ++ userIds
        scanned := sweep.scanned + userIds.length
        drifted := sweep.drifted +
          userIds.countP fun userId => (reconcileUser db userId).hasDrift } := by
  induction userIds generalizing sweep with
  | nil => simp
  | cons userId rest ih =>
      rw [List.foldl_cons, ih, List.countP_cons]
      unfold Sweep.visit
      simp only [List.append_assoc, List.singleton_append, List.length_cons, Sweep.mk.injEq,
        true_and]
      constructor
      · omega
      · split <;> omega

theorem userIds_perm (db : Db) : (userIds db).Perm db.wallets.keys :=
  List.perm_insertionSort _ _

theorem userIds_nodup (db : Db) : (userIds db).Nodup :=
  (userIds_perm db).nodup_iff.mpr db.wallets.nodupKeys

/-- Past one page for each wallet the sweep has ended, having reconciled each
wallet once. -/
theorem handleSweep_eq (db : Db) (batch : BatchSize) {fuel : Nat}
    (enough : db.wallets.keys.length < fuel) :
    handleSweep db batch fuel none =
      some (.fleet
        { reconciled := userIds db
          scanned := db.wallets.keys.length
          drifted := db.wallets.keys.countP fun userId =>
            (reconcileUser db userId).hasDrift }) := by
  have sameLength := (userIds_perm db).length_eq
  have scanned := CursorScan.scan_eq_foldl (userIds_nodup db) batch.positive (Sweep.visit db)
    (sameLength ▸ enough) Sweep.begin
  unfold handleSweep listUserIdsAfter
  rw [scanned, foldl_visit, sameLength, (userIds_perm db).countP_eq]
  simp [Sweep.begin]

/-- The sweep ends, reconciles every wallet once, and counts the wallets with a
column that differs from the ledger net of its currency. -/
def SweepExact (db : Db) (batch : BatchSize) : Prop :=
  ∃ sweep,
    (∀ fuel, db.wallets.keys.length < fuel →
      handleSweep db batch fuel none = some (.fleet sweep)) ∧
    sweep.reconciled.Nodup ∧ (∀ userId, userId ∈ sweep.reconciled ↔ userId ∈ db.wallets) ∧
    sweep.scanned = db.wallets.keys.length ∧
    sweep.drifted = db.wallets.keys.countP fun userId => Drifts db userId

theorem countP_eq_iff {Key : Type} (strong weak : Key → Bool) (keys : List Key)
    (implied : ∀ key ∈ keys, strong key = true → weak key = true) :
    keys.countP strong = keys.countP weak ↔
      ∀ key ∈ keys, weak key = true → strong key = true := by
  induction keys with
  | nil => simp
  | cons key rest ih =>
      have restImplied : ∀ other ∈ rest, strong other = true → weak other = true :=
        fun other later => implied other (List.mem_cons_of_mem key later)
      have fewer : rest.countP strong ≤ rest.countP weak :=
        List.countP_mono_left restImplied
      have head := implied key List.mem_cons_self
      rw [List.forall_mem_cons, ← ih restImplied, List.countP_cons, List.countP_cons]
      cases isStrong : strong key with
      | true =>
          rw [head isStrong]
          simp
      | false =>
          cases weak key with
          | true =>
              simp only [Bool.false_eq_true, if_false, if_true, true_implies, false_and,
                iff_false]
              omega
          | false => simp

/-- The count of the sweep is right exactly when every wallet that drifts shows
drift in a currency with ledger rows. -/
theorem sweepExact_iff_shown (db : Db) (batch : BatchSize) :
    SweepExact db batch ↔
      ∀ userId ∈ db.wallets, Drifts db userId → ShowsDrift db userId := by
  have found {userId : UserId} (member : userId ∈ db.wallets.keys) :
      ∃ wallet, db.findWallet userId = some wallet :=
    Option.isSome_iff_exists.mp (AList.lookup_isSome.mpr (AList.mem_keys.mpr member))
  have shown {userId : UserId} (member : userId ∈ db.wallets.keys) :
      (reconcileUser db userId).hasDrift = true ↔ ShowsDrift db userId := by
    obtain ⟨wallet, isFound⟩ := found member
    exact hasDrift_iff isFound
  -- What shows also drifts, so the two counts differ by what drifts unseen.
  have counted := countP_eq_iff (fun userId => (reconcileUser db userId).hasDrift)
    (fun userId => decide (Drifts db userId)) db.wallets.keys (by
      intro userId member isShown
      exact decide_eq_true (drifts_of_showsDrift ((shown member).mp isShown)))
  constructor
  · rintro ⟨sweep, ended, -, -, -, drifted⟩ userId member drifts
    have result := ended (db.wallets.keys.length + 1) (Nat.lt_succ_self _)
    rw [handleSweep_eq db batch (Nat.lt_succ_self _), Option.some.injEq,
      SweepResult.fleet.injEq] at result
    rw [← result] at drifted
    exact (shown member).mp (counted.mp drifted userId member (decide_eq_true drifts))
  · intro everyShown
    refine ⟨_, fun fuel enough => handleSweep_eq db batch enough, userIds_nodup db, ?_, rfl, ?_⟩
    · intro userId
      rw [(userIds_perm db).mem_iff]
      rfl
    · apply counted.mpr
      intro userId member drifts
      exact (shown member).mpr (everyShown userId member (of_decide_eq_true drifts))

/-- A column without ledger rows is never compared. -/
theorem sweepExact_fails_without_rows :
    ¬SweepExact
      (Db.empty.putWallet "alice"
        { userId := "alice"
          goldBalance := 50
          availableBalance := 50 }) walletReconcileBatchSize := by
  rintro ⟨sweep, ended, -, -, -, drifted⟩
  have result := ended 2 (by decide)
  rw [handleSweep_eq _ _ (by decide), Option.some.injEq, SweepResult.fleet.injEq] at result
  rw [← result] at drifted
  revert drifted
  decide

end WalletReconciliationService

end Soulzaa
