/-
Concurrent calls under one idempotency key.

A call runs in steps: its checks and the look-up of the key, for Path B the
wallets it fetches or creates, the row locks with the rows read under them, the
transaction on those rows, and the recovery of a lost insertion race.  Between
two steps any other call may run, and a call may abort at any point.

The Redis lock of Path A is left out, which only adds interleavings, and an
outer transaction decides when a movement commits or aborts, which are steps of
their own.  A transfer takes both its locks at once: it reads its rows when it
has the second.
-/

import Soulzaa.Wallet.Operation

namespace Soulzaa.Idempotency

open WalletTransactionService

inductive Call where
  | move (type : WalletEntryType) (input : WalletMovementInput)
  | wallet (call : WalletCall) (dto : CreditWalletDto) (actorId : Option UserId)
  | transferCoins (dto : TransferWalletDto) (actorId : Option UserId)
  deriving DecidableEq, Repr

inductive Outcome where
  | posted
  | replayed
  | failed (failure : Failure)
  | aborted
  deriving DecidableEq, Repr

inductive Phase where
  | start
  /-- The key was not in use. -/
  | checked
  /-- The wallets exist and passed the checks on the rows read. -/
  | prepared
  /-- The row locks are held; the rows are those read under them. -/
  | locked (rows : UserId → Wallet)
  | rolledBack (failure : Failure)
  | done (outcome : Outcome)

namespace Call

def idempotencyKey : Call → String
  | .move _ input => input.idempotencyKey
  | .wallet _ dto _ => dto.idempotencyKey
  | .transferCoins dto _ => dto.idempotencyKey

def owners : Call → List UserId
  | .move _ input => [input.userId]
  | .wallet _ dto _ => [dto.userId]
  | .transferCoins dto _ => transferOwners dto

def operation : Call → Operation
  | .move type input => .move type input
  | .wallet call dto actorId => .wallet call dto actorId
  | .transferCoins dto actorId => .transferCoins dto actorId

def writes (call : Call) (db : Db) : Writes :=
  call.operation.writes db

/-- The checks and the look-up of the key; `true` is a replay. -/
def precheck (platform : Platform) (db : Db) : Call → Except Failure Bool
  | .move type input => do
      WalletService.validateMove platform type input
      .ok (WalletService.replay db input).isSome
  | .wallet call dto actorId => do
      call.guarded dto
      let found ← WalletTransactionService.precheck platform db
        (walletRequest (call.method dto) dto actorId)
      .ok found.isSome
  | .transferCoins dto actorId => do
      let found ← WalletTransactionService.precheck platform db (transferRequest dto actorId)
      .ok found.isSome

def prepare (db : Db) : Call → Db × Except Failure Unit
  | .move _ _ => (db, .ok ())
  | .wallet call dto actorId =>
      let request := walletRequest (call.method dto) dto actorId
      let ready := getOrCreateWallets db request.owners
      (ready, request.validate ready.row)
  | .transferCoins dto actorId =>
      let request := transferRequest dto actorId
      let ready := getOrCreateWallets db request.owners
      (ready, request.validate ready.row)

/-- The rows read under the locks.  Path A creates its row in the same
transaction, so it reads the row the wallet is created with. -/
def readLocked (db : Db) : Call → Except Failure (UserId → Wallet)
  | .move _ _ => .ok db.row
  | .wallet _ dto _ =>
      if (db.findWallet dto.userId).isSome then .ok db.row
      else .error (.notFound "Wallet not found")
  | .transferCoins dto _ =>
      if (db.findWallet dto.senderUserId).isSome ∧ (db.findWallet dto.recipientUserId).isSome then
        .ok db.row
      else .error (.notFound "One or both transfer wallets not found")

def commit (rows : UserId → Wallet) (db : Db) : Call → Except Failure Db
  | .move type input => do
      let (after, _) ← WalletRepository.applyLocked (WalletService.movementInput type input)
        (rows input.userId) (db.upsertWallet input.userId)
      .ok after
  | .wallet call dto actorId => do
      let (after, _) ← postLocked (call.method dto) dto actorId (rows dto.userId) db
      .ok after
  | .transferCoins dto actorId => do
      let (after, _) ← transferLocked dto actorId (rows dto.senderUserId)
        (rows dto.recipientUserId) db
      .ok after

/-- Path A throws what the transaction threw; Path B looks the key up again. -/
def recover (db : Db) (failure : Failure) : Call → Outcome
  | .move _ _ => .failed failure
  | .wallet _ dto _ =>
      if (recoverDuplicate db dto.idempotencyKey failure).isSome then .replayed
      else .failed failure
  | .transferCoins dto _ =>
      if (recoverDuplicate db dto.idempotencyKey failure).isSome then .replayed
      else .failed failure

end Call

structure Process where
  call : Call
  phase : Phase

structure System where
  db : Db
  processes : List Process

def launch (db : Db) (calls : List Call) : System :=
  { db := db
    processes := calls.map fun call =>
      { call := call
        phase := .start } }

def Phase.isLocked : Phase → Bool
  | .locked _ => true
  | _ => false

def Free (processes : List Process) (call : Call) : Prop :=
  ∀ process ∈ processes, process.phase.isLocked = true →
    ∀ owner ∈ call.owners, owner ∉ process.call.owners

instance (processes : List Process) (call : Call) : Decidable (Free processes call) :=
  inferInstanceAs (Decidable (∀ process ∈ processes, process.phase.isLocked = true →
    ∀ owner ∈ call.owners, owner ∉ process.call.owners))

/-- The next step of one call; a call waits for its locks. -/
def advance (platform : Platform) (processes : List Process) (db : Db) (call : Call) :
    Phase → Db × Phase
  | .start =>
      match call.precheck platform db with
      | .error failure => (db, .done (.failed failure))
      | .ok true => (db, .done .replayed)
      | .ok false => (db, .checked)
  | .checked =>
      match call.prepare db with
      | (ready, .error failure) => (ready, .done (.failed failure))
      | (ready, .ok ()) => (ready, .prepared)
  -- A row lock that another call holds is waited for.
  | .prepared =>
      if Free processes call then
        match call.readLocked db with
        | .error failure => (db, .rolledBack failure)
        | .ok rows => (db, .locked rows)
      else (db, .prepared)
  | .locked rows =>
      match call.commit rows db with
      | .error failure => (db, .rolledBack failure)
      | .ok after => (after, .done .posted)
  | .rolledBack failure => (db, .done (call.recover db failure))
  | .done outcome => (db, .done outcome)

inductive Action where
  | advance (position : Nat) (platform : Platform)
  | abort (position : Nat)
  deriving DecidableEq, Repr

def act (system : System) : Action → System
  | .advance position platform =>
      match system.processes[position]? with
      | none => system
      | some process =>
          let (db, phase) :=
            advance platform system.processes system.db process.call process.phase
          { db := db
            processes := system.processes.set position { process with phase := phase } }
  | .abort position =>
      match system.processes[position]? with
      | none => system
      | some process =>
          match process.phase with
          | .done _ => system
          | _ =>
              { system with
                processes := system.processes.set position
                  { process with phase := .done .aborted } }

/-- One header at most has the key, and the tables differ from those at the start
by nothing, when no call posted, or by the writes of the one call that did. -/
structure ExactlyOnce (start : Db) (key : String) (system : System) : Prop where
  header : (system.db.transactions.rows.filter fun header =>
    header.idempotencyKey = key).length ≤ 1
  effect :
    (Db.Same start system.db ∧
      ∀ process ∈ system.processes, process.phase ≠ .done .posted) ∨
    ∃ (position : Nat) (winner : Process), system.processes[position]? = some winner ∧
      winner.phase = .done .posted ∧
      start.Wrote system.db (winner.call.writes start) ∧
      ∀ (other : Nat) (process : Process), system.processes[other]? = some process →
        process.phase = .done .posted → other = position

/-! ### The transaction of one call -/

theorem row_of_not_owner {call : Call} {owner : UserId} (other : owner ∉ call.owners)
    (db : Db) (wallet : Wallet) : (call.writes db).row owner wallet = wallet := by
  cases call with
  | move type input => exact onlyRow_other (List.ne_of_not_mem_cons other) _ wallet
  | wallet call dto actorId => exact onlyRow_other (List.ne_of_not_mem_cons other) _ wallet
  | transferCoins dto actorId =>
      have notSender : owner ≠ dto.senderUserId := fun same =>
        other (same ▸ senderUserId_mem_transferOwners dto)
      have notRecipient : owner ≠ dto.recipientUserId := fun same =>
        other (same ▸ recipientUserId_mem_transferOwners dto)
      change transferRow dto owner wallet = wallet
      unfold transferRow
      rw [if_neg notSender, if_neg notRecipient]

theorem writes_congr {before after : Db} (same : Db.Same before after) (call : Call) :
    call.writes after = call.writes before := by
  cases call with
  | move type input => exact WalletRepository.movementWrites_congr same _
  | wallet call dto actorId => exact walletWrites_congr same (call.method dto) dto actorId
  | transferCoins dto actorId => exact transferWrites_congr same dto actorId

theorem commit_congr {call : Call} {rows others : UserId → Wallet}
    (agree : ∀ owner ∈ call.owners, rows owner = others owner) (db : Db) :
    call.commit rows db = call.commit others db := by
  cases call with
  | move type input =>
      have sameRow := agree input.userId (List.mem_singleton_self _)
      simp only [Call.commit, sameRow]
  | wallet call dto actorId =>
      have sameRow := agree dto.userId (List.mem_singleton_self _)
      simp only [Call.commit, sameRow]
  | transferCoins dto actorId =>
      have sameSender := agree dto.senderUserId (senderUserId_mem_transferOwners dto)
      have sameRecipient := agree dto.recipientUserId (recipientUserId_mem_transferOwners dto)
      simp only [Call.commit, sameSender, sameRecipient]

/-- A transaction on current rows commits only under an unused key, and then
makes the writes of the call running alone. -/
theorem wrote_of_commit {call : Call} {db after : Db}
    (committed : call.commit db.row db = .ok after) :
    db.transactions.Absent call.idempotencyKey ∧ db.Wrote after (call.writes db) := by
  cases call with
  | move type input =>
      by_cases posts : WalletRepository.Posts db (WalletService.movementInput type input)
      · have applied := WalletRepository.applyLocked_of_posts posts
        simp only [Call.commit] at committed
        rw [show input.userId = (WalletService.movementInput type input).userId from rfl,
          applied] at committed
        rw [← Except.ok.inj committed]
        exact ⟨posts.2.2, WalletRepository.posted_wrote db _ posts.2.2⟩
      · obtain ⟨failure, failed⟩ := WalletRepository.applyLocked_of_not_posts posts
        simp only [Call.commit] at committed
        rw [show input.userId = (WalletService.movementInput type input).userId from rfl,
          failed] at committed
        cases committed
  | wallet call dto actorId =>
      obtain ⟨⟨result, response⟩, posted, same⟩ := bind_eq_ok.mp committed
      rw [← Except.ok.inj same]
      exact wrote_of_postLocked posted
  | transferCoins dto actorId =>
      obtain ⟨⟨result, response⟩, posted, same⟩ := bind_eq_ok.mp committed
      rw [← Except.ok.inj same]
      exact wrote_of_transferLocked posted

theorem taken_of_wrote {call : Call} {before after : Db}
    (wrote : before.Wrote after (call.writes before)) :
    ¬after.transactions.Absent call.idempotencyKey := by
  have stored : ∃ header ∈ (call.writes before).headers,
      header.idempotencyKey = call.idempotencyKey := by
    cases call <;> exact ⟨_, List.mem_singleton_self _, rfl⟩
  obtain ⟨header, member, same⟩ := stored
  intro absent
  apply absent
  rw [wrote.headers, List.map_append, List.mem_append, ← same]
  exact Or.inr (List.mem_map_of_mem member)

theorem same_prepare (db : Db) (call : Call) : Db.Same db (call.prepare db).1 := by
  cases call with
  | move type input => exact Db.Same.refl db
  | wallet call dto actorId => exact same_getOrCreateWallets db _
  | transferCoins dto actorId => exact same_getOrCreateWallets db _

theorem readLocked_eq {db : Db} {call : Call} {rows : UserId → Wallet}
    (read : call.readLocked db = .ok rows) : rows = db.row := by
  cases call with
  | move type input => exact (Except.ok.inj read).symm
  | wallet call dto actorId =>
      simp only [Call.readLocked] at read
      split at read
      · exact (Except.ok.inj read).symm
      · cases read
  | transferCoins dto actorId =>
      simp only [Call.readLocked] at read
      split at read
      · exact (Except.ok.inj read).symm
      · cases read

theorem recover_ne_posted (db : Db) (failure : Failure) (call : Call) :
    call.recover db failure ≠ .posted := by
  cases call with
  | move type input => exact nofun
  | wallet call dto actorId =>
      simp only [Call.recover]
      split <;> exact nofun
  | transferCoins dto actorId =>
      simp only [Call.recover]
      split <;> exact nofun

/-! ### What survives every step -/

/-- Beside the claim itself: every call has the key, the rows a call read under
its locks are still current, and no lock is held twice. -/
structure Consistent (start : Db) (key : String) (system : System) : Prop where
  exactlyOnce : ExactlyOnce start key system
  keyed : ∀ process ∈ system.processes, process.call.idempotencyKey = key
  current : ∀ (position : Nat) (process : Process) (rows : UserId → Wallet),
    system.processes[position]? = some process → process.phase = .locked rows →
      ∀ owner ∈ process.call.owners, rows owner = system.db.row owner
  exclusive : ∀ (first second : Nat) (left right : Process),
    system.processes[first]? = some left → system.processes[second]? = some right →
      first ≠ second → left.phase.isLocked = true → right.phase.isLocked = true →
        ∀ owner ∈ left.call.owners, owner ∉ right.call.owners

/-- What one step of a call can do: nothing, a step without an effect that ends
in the locks only when they are free, or its transaction. -/
theorem advance_cases (platform : Platform) (processes : List Process) (db : Db) (call : Call)
    (phase : Phase) :
    advance platform processes db call phase = (db, phase) ∨
    (∃ after next, advance platform processes db call phase = (after, next) ∧
      phase ≠ .done .posted ∧ next ≠ .done .posted ∧ Db.Same db after ∧
      ∀ rows, next = .locked rows → Free processes call ∧ rows = db.row) ∨
    ∃ rows after, phase = .locked rows ∧ call.commit rows db = .ok after ∧
      advance platform processes db call phase = (after, .done .posted) := by
  cases phase with
  | start =>
      right
      left
      cases checked : call.precheck platform db with
      | error failure =>
          exact ⟨db, .done (.failed failure), by simp only [advance, checked], nofun, nofun,
            Db.Same.refl db, nofun⟩
      | ok replayed =>
          cases replayed with
          | true =>
              exact ⟨db, .done .replayed, by simp only [advance, checked], nofun, nofun,
                Db.Same.refl db, nofun⟩
          | false =>
              exact ⟨db, .checked, by simp only [advance, checked], nofun, nofun,
                Db.Same.refl db, nofun⟩
  | checked =>
      right
      left
      obtain ⟨ready, valid⟩ : ∃ ready valid, call.prepare db = (ready, valid) := ⟨_, _, rfl⟩
      obtain ⟨valid, prepared⟩ := valid
      have same : Db.Same db ready := by
        have created := same_prepare db call
        rw [prepared] at created
        exact created
      cases valid with
      | error failure =>
          exact ⟨ready, .done (.failed failure), by simp only [advance, prepared], nofun, nofun,
            same, nofun⟩
      | ok passed =>
          exact ⟨ready, .prepared, by simp only [advance, prepared], nofun, nofun, same, nofun⟩
  | prepared =>
      by_cases free : Free processes call
      · right
        left
        cases read : call.readLocked db with
        | error failure =>
            exact ⟨db, .rolledBack failure, by simp only [advance, if_pos free, read], nofun,
              nofun, Db.Same.refl db, nofun⟩
        | ok rows =>
            refine ⟨db, .locked rows, by simp only [advance, if_pos free, read], nofun, nofun,
              Db.Same.refl db, ?_⟩
            rintro others same
            cases same
            exact ⟨free, readLocked_eq read⟩
      · left
        simp only [advance, if_neg free]
  | locked rows =>
      cases committed : call.commit rows db with
      | error failure =>
          right
          left
          exact ⟨db, .rolledBack failure, by simp only [advance, committed], nofun, nofun,
            Db.Same.refl db, nofun⟩
      | ok after =>
          right
          right
          exact ⟨rows, after, rfl, committed, by simp only [advance, committed]⟩
  | rolledBack failure =>
      right
      left
      refine ⟨db, .done (call.recover db failure), rfl, nofun, ?_, Db.Same.refl db, nofun⟩
      intro same
      exact recover_ne_posted db failure call (Phase.done.inj same)
  | done outcome =>
      left
      rfl

theorem header_le_one (db : Db) (key : String) :
    (db.transactions.rows.filter fun header => header.idempotencyKey = key).length ≤ 1 :=
  db.transactions.length_filter_le_one key

theorem getElem?_replaced {processes : List Process} {position other : Nat}
    {replaced process : Process}
    (found : (processes.set position replaced)[other]? = some process) :
    (other = position ∧ process = replaced) ∨
      (other ≠ position ∧ processes[other]? = some process) := by
  by_cases same : other = position
  · subst same
    left
    refine ⟨rfl, ?_⟩
    rw [List.getElem?_set] at found
    split at found
    · split at found
      · exact (Option.some.inj found).symm
      · cases found
    · contradiction
  · right
    rw [List.getElem?_set_ne fun equal => same equal.symm] at found
    exact ⟨same, found⟩

theorem getElem?_replaced_self {processes : List Process} {position : Nat}
    {process : Process} (found : processes[position]? = some process) (replaced : Process) :
    (processes.set position replaced)[position]? = some replaced :=
  List.getElem?_set_self (List.getElem?_eq_some_iff.mp found).1

section Step

variable {start : Db} {key : String} {system : System} {position : Nat} {process : Process}

theorem keyed_replaced (consistent : Consistent start key system)
    (found : system.processes[position]? = some process) (phase : Phase) :
    ∀ other ∈ system.processes.set position { process with phase := phase },
      other.call.idempotencyKey = key := by
  intro other member
  rcases List.mem_or_eq_of_mem_set member with old | rfl
  · exact consistent.keyed other old
  · exact consistent.keyed process (List.mem_of_getElem? found)

/-- Replacing a process that holds locks only where they are free keeps every
lock exclusive. -/
theorem exclusive_replaced (consistent : Consistent start key system) (phase : Phase)
    (free : phase.isLocked = true → Free system.processes process.call)
    (first second : Nat) (left right : Process)
    (leftFound :
      (system.processes.set position { process with phase := phase })[first]? = some left)
    (rightFound :
      (system.processes.set position { process with phase := phase })[second]? = some right)
    (different : first ≠ second) (leftLocked : left.phase.isLocked = true)
    (rightLocked : right.phase.isLocked = true) :
    ∀ owner ∈ left.call.owners, owner ∉ right.call.owners := by
  rcases getElem?_replaced leftFound with ⟨rfl, rfl⟩ | ⟨leftOther, leftOld⟩
  · rcases getElem?_replaced rightFound with ⟨rfl, rfl⟩ | ⟨rightOther, rightOld⟩
    · exact absurd rfl different
    · exact fun owner member =>
        free leftLocked right (List.mem_of_getElem? rightOld) rightLocked owner member
  · rcases getElem?_replaced rightFound with ⟨rfl, rfl⟩ | ⟨rightOther, rightOld⟩
    · exact fun owner member mine =>
        free rightLocked left (List.mem_of_getElem? leftOld) leftLocked owner mine member
    · exact consistent.exclusive first second left right leftOld rightOld different leftLocked
        rightLocked

theorem consistent_quiet (consistent : Consistent start key system)
    (found : system.processes[position]? = some process)
    (unposted : process.phase ≠ .done .posted) {after : Db} (phase : Phase)
    (quiet : phase ≠ .done .posted) (same : Db.Same system.db after)
    (reads : ∀ rows, phase = .locked rows →
      Free system.processes process.call ∧ rows = system.db.row) :
    Consistent start key
      { db := after
        processes := system.processes.set position { process with phase := phase } } := by
  refine ⟨⟨header_le_one after key, ?_⟩, keyed_replaced consistent found phase, ?_, ?_⟩
  · rcases consistent.exactlyOnce.effect with ⟨untouched, none⟩ | posted
    · left
      refine ⟨untouched.trans same, fun other member => ?_⟩
      rcases List.mem_or_eq_of_mem_set member with old | rfl
      · exact none other old
      · exact quiet
    · right
      obtain ⟨winnerAt, winner, winnerFound, winnerPosted, wrote, only⟩ := posted
      -- The call that moves has not posted, so it is not the winner.
      have elsewhere : winnerAt ≠ position := by
        rintro rfl
        obtain rfl : winner = process := Option.some.inj (winnerFound.symm.trans found)
        exact unposted winnerPosted
      refine ⟨winnerAt, winner, ?_, winnerPosted, wrote.same same, ?_⟩
      · rw [List.getElem?_set_ne fun equal => elsewhere equal.symm]
        exact winnerFound
      · intro other process otherFound otherPosted
        rcases getElem?_replaced otherFound with ⟨rfl, rfl⟩ | ⟨_, old⟩
        · exact absurd otherPosted quiet
        · exact only other process old otherPosted
  · intro other process rows otherFound locked owner member
    rw [same.row]
    rcases getElem?_replaced otherFound with ⟨rfl, rfl⟩ | ⟨_, old⟩
    · rw [(reads rows locked).2]
    · exact consistent.current other process rows old locked owner member
  · refine exclusive_replaced consistent phase fun locked => ?_
    cases phase with
    | locked rows => exact (reads rows rfl).1
    | _ => cases locked

/-- The transaction of a call commits: no other call can have posted, so the
writes are made on the tables of the start. -/
theorem consistent_posted (consistent : Consistent start key system)
    (found : system.processes[position]? = some process) {rows : UserId → Wallet}
    (locked : process.phase = .locked rows) {after : Db}
    (committed : process.call.commit rows system.db = .ok after) :
    Consistent start key
      { db := after
        processes :=
          system.processes.set position { process with phase := .done .posted } } := by
  rw [commit_congr (consistent.current position process rows found locked)] at committed
  obtain ⟨absent, wrote⟩ := wrote_of_commit committed
  have sameKey := consistent.keyed process (List.mem_of_getElem? found)
  have untouched : Db.Same start system.db ∧
      ∀ process ∈ system.processes, process.phase ≠ .done .posted := by
    rcases consistent.exactlyOnce.effect with untouched | posted
    · exact untouched
    -- A winner would have stored the key this transaction needs unused.
    · obtain ⟨winnerAt, winner, winnerFound, -, winnerWrote, -⟩ := posted
      have winnerKey := consistent.keyed winner (List.mem_of_getElem? winnerFound)
      have taken := taken_of_wrote winnerWrote
      rw [winnerKey, ← sameKey] at taken
      exact absurd absent taken
  refine ⟨⟨header_le_one after key, ?_⟩, keyed_replaced consistent found _, ?_, ?_⟩
  · right
    refine ⟨position, { process with phase := .done .posted },
      getElem?_replaced_self found _, rfl, ?_, ?_⟩
    · rw [writes_congr untouched.1] at wrote
      exact untouched.1.wrote wrote
    · intro other process otherFound otherPosted
      rcases getElem?_replaced otherFound with ⟨same, -⟩ | ⟨_, old⟩
      · exact same
      · exact absurd otherPosted (untouched.2 process (List.mem_of_getElem? old))
  · intro other holder otherRows otherFound otherLocked owner member
    rcases getElem?_replaced otherFound with ⟨rfl, rfl⟩ | ⟨different, old⟩
    · cases otherLocked
    -- The locks are exclusive, so the rows others have read are not written.
    · have notMine : owner ∉ process.call.owners :=
        consistent.exclusive other position holder process old found different
          (by rw [otherLocked]; rfl) (by rw [locked]; rfl) owner member
      rw [wrote.row, row_of_not_owner notMine]
      exact consistent.current other holder otherRows old otherLocked owner member
  · exact exclusive_replaced consistent _ nofun

end Step

theorem consistent_act {start : Db} {key : String} (system : System) (action : Action)
    (consistent : Consistent start key system) : Consistent start key (act system action) := by
  cases action with
  | advance position platform =>
      cases found : system.processes[position]? with
      | none =>
          simp only [act, found]
          exact consistent
      | some process =>
          simp only [act, found]
          rcases advance_cases platform system.processes system.db process.call process.phase
            with still | ⟨after, next, stepped, unposted, quiet, same, reads⟩ |
              ⟨rows, after, locked, committed, stepped⟩
          · rw [still]
            have unchanged : system.processes.set position process = system.processes := by
              obtain ⟨bound, same⟩ := List.getElem?_eq_some_iff.mp found
              rw [← same]
              exact List.set_getElem_self bound
            rw [unchanged]
            exact consistent
          · rw [stepped]
            exact consistent_quiet consistent found unposted next quiet same reads
          · rw [stepped]
            exact consistent_posted consistent found locked committed
  | abort position =>
      cases found : system.processes[position]? with
      | none =>
          simp only [act, found]
          exact consistent
      | some process =>
          have aborted (unposted : process.phase ≠ .done .posted) :=
            consistent_quiet consistent found unposted (.done .aborted) nofun
              (Db.Same.refl system.db) nofun
          cases phase : process.phase with
          | done outcome =>
              simp only [act, found, phase]
              exact consistent
          | _ =>
              simp only [act, found, phase]
              exact aborted (by rw [phase]; nofun)

theorem start_of_launch {db : Db} {calls : List Call} {process : Process}
    (member : process ∈ (launch db calls).processes) :
    process.call ∈ calls ∧ process.phase = .start := by
  obtain ⟨call, inCalls, rfl⟩ := List.mem_map.mp member
  exact ⟨inCalls, rfl⟩

theorem consistent_launch (db : Db) (key : String) (calls : List Call)
    (sameKey : ∀ call ∈ calls, call.idempotencyKey = key) :
    Consistent db key (launch db calls) := by
  refine ⟨⟨header_le_one db key, Or.inl ⟨Db.Same.refl db, ?_⟩⟩, ?_, ?_, ?_⟩
  · intro process member
    rw [(start_of_launch member).2]
    exact nofun
  · intro process member
    exact sameKey process.call (start_of_launch member).1
  · intro position process rows found locked
    rw [(start_of_launch (List.mem_of_getElem? found)).2] at locked
    cases locked
  · intro first second left right leftFound _ _ leftLocked
    rw [(start_of_launch (List.mem_of_getElem? leftFound)).2] at leftLocked
    cases leftLocked

/-- Whatever the interleaving of calls with one key, at most one of them takes
effect, and nothing else does. -/
theorem exactlyOnce_of_sameKey (db : Db) (key : String) (calls : List Call)
    (sameKey : ∀ call ∈ calls, call.idempotencyKey = key) (actions : List Action) :
    Runs.Always act (ExactlyOnce db key) (launch db calls) actions := by
  have consistent := Runs.always_of_step consistent_act (launch db calls)
    (consistent_launch db key calls sameKey) actions
  rw [Runs.always_iff_front] at consistent ⊢
  exact fun front isPrefix => (consistent front isPrefix).exactlyOnce

/-- A Path A credit and a Path B credit of the same key both pass the look-up;
the second transaction is rolled back and answered by a replay. -/
theorem exactlyOnce_of_two_credits :
    Runs.Always act (ExactlyOnce Db.empty "k1")
      (launch Db.empty
        [.move .credit
          { userId := "alice"
            currency := .gold
            amount := 100
            reason := .recharge
            idempotencyKey := "k1" },
        .wallet .creditWallet
          { userId := "bob"
            amount := 100
            currency := some .gold
            idempotencyKey := "k1" } none])
      [.advance 0 Platform.normal, .advance 1 Platform.normal, .advance 0 Platform.normal,
        .advance 1 Platform.normal, .advance 0 Platform.normal, .advance 1 Platform.normal,
        .advance 0 Platform.normal, .advance 1 Platform.normal, .advance 1 Platform.normal] :=
  exactlyOnce_of_sameKey Db.empty "k1" _ (by decide) _

end Soulzaa.Idempotency
