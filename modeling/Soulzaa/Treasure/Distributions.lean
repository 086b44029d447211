/-
When a distribution grants everything, and grants it once.

Two entries of one rank and kind have one key.  Of coins the second is not credited but
reported; of items it is granted where the first one was merged, and its row then keeps
the key for both.
-/

import Mathlib
import Soulzaa.Lib.Counters
import Soulzaa.Treasure.RewardDistributor

namespace Soulzaa.Treasure.RewardDistributor

open Backpacks (BackpackItemType RefId)
open Counters (Counts)
open Rockets (RankedRecipient)
open Runs (run Each)

def Stored (store : Store) (key : String) : Prop :=
  key ∈ store.backpacks.items.map Backpacks.BackpackItem.grantKey

instance (store : Store) (key : String) : Decidable (Stored store key) :=
  inferInstanceAs (Decidable (key ∈ _))

section Giving

variable (platform : Platform) (now : Nat) (input : DistributeInput)

def giveDue (store : Store) (due : Due) : Store := (give platform now input store due).1

/-- The key of what is due is new, and the wallet takes the coins. -/
def Fresh (store : Store) : Due → Prop
  | .coins userId rank amount _ =>
      WalletService.Posts platform store.db .credit (input.coinsInput userId rank amount)
  | .item _ rank .. => ¬Stored store (input.itemKey rank)

def Answered (store : Store) : Due → Prop
  | .coins userId rank amount _ =>
      ∃ after result,
        WalletService.credit platform store.db (input.coinsInput userId rank amount) =
          (after, .ok result)
  | .item .. => True

/-- The key of the coins has been used. -/
def Credited (store : Store) : Due → Prop
  | .coins _ rank .. => ¬store.db.transactions.Absent (input.coinsKey rank)
  | .item .. => True

/-- The key of the item has been stored. -/
def Keyed (store : Store) : Due → Prop
  | .coins .. => True
  | .item _ rank .. => Stored store (input.itemKey rank)

end Giving

variable {platform : Platform} {now : Nat} {input : DistributeInput} {store : Store}

/-! ### The condition -/

/-- What the item refers to, and who gets it. -/
def Due.reference : Due → Option (UserId × RefId)
  | .coins .. => none
  | .item userId _ _ _ refId _ => (Backpacks.refOf refId).map fun refId => (userId, refId)

def Due.coinsKey (input : DistributeInput) : Due → Option String
  | .coins _ rank .. => some (input.coinsKey rank)
  | .item .. => none

def Due.itemKey (input : DistributeInput) : Due → Option String
  | .coins .. => none
  | .item _ rank .. => some (input.itemKey rank)

/-- The user has an active item of the reference. -/
def Active (now : Nat) (store : Store) (reference : UserId × RefId) : Prop :=
  (store.backpacks.findByUserIdAndRefId reference.1 reference.2 now).isSome

instance (now : Nat) (store : Store) (reference : UserId × RefId) :
    Decidable (Active now store reference) :=
  inferInstanceAs (Decidable (_ = true))

/-- The user has such an item already, or gets it from an earlier entry. -/
def Merges (now : Nat) (store : Store) (front : List Due) (due : Due) : Prop :=
  ∃ reference ∈ due.reference,
    Active now store reference ∨ reference ∈ front.filterMap Due.reference

instance (now : Nat) (store : Store) (front : List Due) (due : Due) :
    Decidable (Merges now store front due) :=
  inferInstanceAs (Decidable (∃ reference ∈ due.reference, _))

/-- Coins come under a key that is new.  So does an item, and it opens a row where no later item
has the same key, and only there. -/
def Grantable (now : Nat) (input : DistributeInput) (store : Store) (front back : List Due)
    (due : Due) : Prop :=
  match due with
  | .coins userId rank amount _ =>
      (store.db.row userId).status = .active ∧
        0 ≤ (store.db.row userId).goldBalance +
          (front.map fun due => due.worth (.gold userId)).sum + amount ∧
        store.db.transactions.Absent (input.coinsKey rank) ∧
        input.coinsKey rank ∉ front.filterMap (Due.coinsKey input)
  | .item _ rank .. =>
      ¬Stored store (input.itemKey rank) ∧
        (Merges now store front due ↔ input.itemKey rank ∈ back.filterMap (Due.itemKey input))

instance (now : Nat) (input : DistributeInput) (store : Store) (front back : List Due) :
    (due : Due) → Decidable (Grantable now input store front back due)
  | .coins .. => inferInstanceAs (Decidable (_ ∧ _ ∧ _ ∧ _))
  | .item .. => inferInstanceAs (Decidable (_ ∧ (_ ↔ _)))

/-- Every entry is grantable, after those in front. -/
def AllGrantable (now : Nat) (input : DistributeInput) (store : Store) :
    List Due → List Due → Prop
  | _, [] => True
  | front, due :: back =>
      Grantable now input store front back due ∧ AllGrantable now input store (front ++ [due]) back

instance AllGrantable.decidable (now : Nat) (input : DistributeInput) (store : Store) :
    (front back : List Due) → Decidable (AllGrantable now input store front back)
  | _, [] => inferInstanceAs (Decidable True)
  | front, due :: back =>
      have := AllGrantable.decidable now input store (front ++ [due]) back
      inferInstanceAs (Decidable (Grantable now input store front back due ∧ _))

/-! ### One call -/

theorem stored_iff {key : String} :
    ¬Stored store key ↔ store.backpacks.findByGrantKey key = none := by
  unfold Stored Backpacks.Tables.findByGrantKey
  rw [List.find?_eq_none, List.mem_map]
  constructor
  · intro absent item isItem sameKey
    exact absent ⟨item, isItem, of_decide_eq_true sameKey⟩
  · rintro none ⟨item, isItem, sameKey⟩
    exact none item isItem (decide_eq_true sameKey)

theorem giveDue_coins {userId : UserId} {rank : Nat} {amount : Int} {positive : 0 < amount} :
    giveDue platform now input store (.coins userId rank amount positive) =
      { store with
        db := (WalletService.credit platform store.db
          (input.coinsInput userId rank amount)).1 } := by
  unfold giveDue give
  dsimp only
  split <;> rename_i credited <;> rw [credited]

theorem giveDue_of_not_fresh {due : Due} (isOld : ¬Fresh platform input store due) :
    giveDue platform now input store due = store := by
  cases due with
  | coins userId rank amount positive =>
      rw [giveDue_coins]
      unfold WalletService.credit
      rw [WalletService.move_of_not_posts isOld]
  | item userId rank type name refId transferable =>
      have isKeyed : store.backpacks.findByGrantKey (input.itemKey rank) ≠ none :=
        fun isNew => isOld (stored_iff.mpr isNew)
      have same : store.backpacks.grant now
          (input.itemInput userId rank type name refId transferable) = store.backpacks :=
        Backpacks.Tables.grant_of_keyed isKeyed
      change store.grant now _ = store
      unfold Store.grant
      simp only [same]

theorem holding_itemInput (userId : UserId) (rank : Nat) (type : BackpackItemType) (name : String)
    (refId : Option RefId) (transferable : Bool) :
    (input.itemInput userId rank type name refId transferable).item.holding =
      (Backpacks.refOf refId).elim (.named name type) .ref := by
  unfold Backpacks.BackpackItem.holding
  cases isRef : Backpacks.refOf refId with
  | none => erw [isRef]; rfl
  | some named => erw [isRef]; rfl

/-- A credit that posts adds to the gold of its owner, and to no other's. -/
theorem gold_of_posts {db : Db} {userId : UserId} {rank : Nat} {amount : Int}
    (posts : WalletService.Posts platform db .credit (input.coinsInput userId rank amount))
    (owner : UserId) :
    ((WalletService.credit platform db (input.coinsInput userId rank amount)).1.row
        owner).goldBalance =
      (db.row owner).goldBalance + if userId = owner then amount else 0 := by
  by_cases isIts : userId = owner
  · subst isIts
    rw [if_pos rfl]
    exact WalletService.balance_of_posts posts
  · rw [if_neg isIts, add_zero]
    unfold WalletService.credit
    rw [WalletService.move_of_posts posts]
    have wrote := WalletRepository.posted_wrote db
      (WalletService.movementInput .credit (input.coinsInput userId rank amount)) posts.2.2.2
    exact congrArg Wallet.goldBalance
      ((wrote.row owner).trans (onlyRow_other (fun same => isIts same.symm) _ _))

theorem status_of_posts {db : Db} {userId : UserId} {rank : Nat} {amount : Int}
    (posts : WalletService.Posts platform db .credit (input.coinsInput userId rank amount))
    (owner : UserId) :
    ((WalletService.credit platform db (input.coinsInput userId rank amount)).1.row
        owner).status = (db.row owner).status := by
  unfold WalletService.credit
  rw [WalletService.move_of_posts posts]
  have wrote := WalletRepository.posted_wrote db
    (WalletService.movementInput .credit (input.coinsInput userId rank amount)) posts.2.2.2
  rw [wrote.row owner]
  change (onlyRow userId _ owner (db.row owner)).status = _
  by_cases isIts : owner = userId
  · subst isIts
    rw [onlyRow_self]
    rfl
  · rw [onlyRow_other isIts]

theorem absent_of_posts {db : Db} {userId : UserId} {rank : Nat} {amount : Int}
    (posts : WalletService.Posts platform db .credit (input.coinsInput userId rank amount))
    (key : String) :
    (WalletService.credit platform db (input.coinsInput userId rank amount)).1.transactions.Absent
        key ↔ db.transactions.Absent key ∧ key ≠ input.coinsKey rank := by
  unfold WalletService.credit
  rw [WalletService.move_of_posts posts]
  unfold UniqueTable.Absent
  rw [(WalletRepository.posted_wrote _ _ posts.2.2.2).headers, List.map_append, List.mem_append,
    not_or]
  exact and_congr_right fun _ => List.mem_singleton.not

theorem giveDue_counts (platform : Platform) (now : Nat) (input : DistributeInput) :
    Counts (giveDue platform now input) (Store.count now) (Fresh platform input) Due.worth where
  taken := by
    intro store due counter fresh
    cases due with
    | coins userId rank amount positive =>
        rw [giveDue_coins]
        cases counter with
        | gold owner => exact gold_of_posts fresh owner
        | held owner holding => exact (add_zero _).symm
    | item userId rank type name refId transferable =>
        cases counter with
        | gold owner => exact (add_zero _).symm
        | held owner holding =>
            have keeps : (input.itemInput userId rank type name refId
                transferable).expiresAt = none := rfl
            refine (Backpacks.Tables.held_grant store.numbered keeps (stored_iff.mp fresh)).trans ?_
            rw [holding_itemInput]
            rfl
  untaken := by
    intro store due counter isOld
    rw [giveDue_of_not_fresh isOld]
  nonneg := by
    intro due counter
    cases due with
    | coins userId rank amount positive =>
        cases counter with
        | gold owner =>
            change (0 : Int) ≤ if userId = owner then amount else 0
            split
            · exact Int.le_of_lt positive
            · exact Int.le_refl 0
        | held owner holding => exact Int.le_refl 0
    | item userId rank type name refId transferable =>
        cases counter with
        | gold owner => exact Int.le_refl 0
        | held owner holding =>
            change (0 : Int) ≤ if _ then 1 else 0
            split <;> decide
  counted := by
    intro due
    cases due with
    | coins userId rank amount positive =>
        refine ⟨.gold userId, ?_⟩
        change 0 < if userId = userId then amount else 0
        rw [if_pos rfl]
        exact positive
    | item userId rank type name refId transferable =>
        refine ⟨.held userId ((Backpacks.refOf refId).elim (.named name type) .ref), ?_⟩
        change (0 : Int) < if _ then 1 else 0
        rw [if_pos ⟨rfl, rfl⟩]
        decide

/-! ### A whole call -/

theorem answered_of_fresh {due : Due} (fresh : Fresh platform input store due) :
    Answered platform input store due := by
  cases due with
  | coins userId rank amount positive =>
      exact WalletService.answered_iff.mpr ⟨fresh.1, Or.inl fresh.2⟩
  | item userId rank type name refId transferable => trivial

theorem give_of_answered (now : Nat) {due : Due} (answered : Answered platform input store due) :
    ∃ granted, Reports due granted ∧
      give platform now input store due = (giveDue platform now input store due, some granted) := by
  cases due with
  | coins userId rank amount positive =>
      obtain ⟨after, result, credited⟩ := answered
      unfold giveDue give
      dsimp only
      rw [credited]
      exact ⟨_, ⟨rfl, rfl, rfl, rfl, rfl, rfl⟩, rfl⟩
  | item userId rank type name refId transferable =>
      exact ⟨_, ⟨rfl, rfl, rfl, rfl, rfl, rfl⟩, rfl⟩

theorem answered_of_give {due : Due} {after : Store} {granted : DistributedReward}
    (gave : give platform now input store due = (after, some granted)) :
    Answered platform input store due := by
  cases due with
  | coins userId rank amount positive =>
      unfold give at gave
      dsimp only at gave
      split at gave
      · cases gave
      · rename_i credited
        exact ⟨_, _, credited⟩
  | item userId rank type name refId transferable => trivial

/-- The loop goes through where every call is answered, and reports each of them. -/
theorem distributeRest_of_answered {rewards : List RewardEntry} {store : Store}
    (distributed : List DistributedReward)
    (answered : Each (giveDue platform now input) (Answered platform input) store
      (rewards.filterMap input.due)) :
    ∃ granted, List.Forall₂ Reports (rewards.filterMap input.due) granted ∧
      distributeRest platform now input rewards store distributed =
        (run (giveDue platform now input) store (rewards.filterMap input.due),
          some (distributed ++ granted)) := by
  induction rewards generalizing store distributed with
  | nil => exact ⟨[], List.Forall₂.nil, by rw [List.append_nil]; rfl⟩
  | cons reward rest ih =>
      unfold distributeRest
      rw [List.filterMap_cons] at answered ⊢
      cases isDue : input.due reward with
      | none =>
          rw [isDue] at answered
          exact ih distributed answered
      | some due =>
          rw [isDue] at answered
          obtain ⟨granted, isOf, gave⟩ := give_of_answered now answered.1
          obtain ⟨others, areOf, goesOn⟩ := ih (distributed ++ [granted]) answered.2
          refine ⟨granted :: others, List.Forall₂.cons isOf areOf, ?_⟩
          dsimp only
          rw [gave]
          dsimp only
          rw [goesOn, List.append_assoc, List.singleton_append]
          rfl

/-- The loop stops at the first call that throws. -/
theorem answered_of_distributeRest {rewards : List RewardEntry} {store after : Store}
    {distributed all : List DistributedReward}
    (went : distributeRest platform now input rewards store distributed = (after, some all)) :
    Each (giveDue platform now input) (Answered platform input) store
      (rewards.filterMap input.due) := by
  induction rewards generalizing store distributed with
  | nil => exact trivial
  | cons reward rest ih =>
      unfold distributeRest at went
      rw [List.filterMap_cons]
      cases isDue : input.due reward with
      | none =>
          rw [isDue] at went
          exact ih went
      | some due =>
          rw [isDue] at went
          dsimp only at went ⊢
          split at went
          · cases went
          · rename_i next granted gave
            refine ⟨answered_of_give gave, ?_⟩
            have isNext : giveDue platform now input store due = next := congrArg Prod.fst gave
            rw [isNext]
            exact ih went

/-! ### Keys -/

theorem stored_giveDue (key : String) (due : Due) (isStored : Stored store key) :
    Stored (giveDue platform now input store due) key := by
  cases due with
  | coins userId rank amount positive =>
      rw [giveDue_coins]
      exact isStored
  | item userId rank type name refId transferable =>
      change key ∈ List.map _ (store.backpacks.grant now _).items
      rw [Backpacks.Tables.keys_grant]
      exact List.mem_append_left _ isStored

theorem absent_giveDue (key : String) (due : Due)
    (absent : (giveDue platform now input store due).db.transactions.Absent key) :
    store.db.transactions.Absent key := by
  cases due with
  | coins userId rank amount positive =>
      by_cases posts : WalletService.Posts platform store.db .credit
          (input.coinsInput userId rank amount)
      · rw [giveDue_coins] at absent
        exact ((absent_of_posts posts key).mp absent).1
      · rw [giveDue_of_not_fresh (by exact posts)] at absent
        exact absent
  | item userId rank type name refId transferable => exact absent

theorem credited_giveDue {due : Due} (other : Due) (credited : Credited input store due) :
    Credited input (giveDue platform now input store other) due := by
  cases due with
  | coins userId rank amount positive =>
      exact fun absent => credited (absent_giveDue _ other absent)
  | item userId rank type name refId transferable => trivial

theorem credited_of_fresh {due : Due} (fresh : Fresh platform input store due) :
    Credited input (giveDue platform now input store due) due := by
  cases due with
  | coins userId rank amount positive =>
      rw [giveDue_coins]
      exact fun absent => ((absent_of_posts fresh _).mp absent).2 rfl
  | item userId rank type name refId transferable => trivial

theorem answered_of_credited {due : Due} (credited : Credited input store due) :
    Answered platform input store due := by
  cases due with
  | coins userId rank amount positive =>
      exact WalletService.answered_iff.mpr ⟨⟨positive, fun isDebit => nomatch isDebit⟩,
        Or.inr credited⟩
  | item userId rank type name refId transferable => trivial

theorem not_fresh_of_keyed {due : Due} (credited : Credited input store due)
    (keyed : Keyed input store due) : ¬Fresh platform input store due := by
  cases due with
  | coins userId rank amount positive => exact fun posts => credited posts.2.2.2
  | item userId rank type name refId transferable => exact fun isNew => isNew keyed

/-- After a run that grants everything the keys of its coins are used. -/
theorem credited_of_each {store : Store} {dues : List Due}
    (fresh : Each (giveDue platform now input) (Fresh platform input) store dues) :
    ∀ due ∈ dues, Credited input (run (giveDue platform now input) store dues) due := by
  induction dues generalizing store with
  | nil => nofun
  | cons first rest ih =>
      intro due isDue
      rcases List.mem_cons.mp isDue with rfl | isLater
      · have kept : ∀ store other, Credited input store due →
            Credited input (giveDue platform now input store other) due :=
          fun _ other => credited_giveDue other
        exact (Runs.always_of_step kept _ (credited_of_fresh fresh.1) rest).final
      · exact ih fresh.2 due isLater

/-- A second call is answered throughout. -/
theorem each_answered (platform : Platform) (now : Nat) {store : Store} {dues : List Due}
    (credited : ∀ due ∈ dues, Credited input store due) :
    Each (giveDue platform now input) (Answered platform input) store dues := by
  induction dues generalizing store with
  | nil => exact trivial
  | cons first rest ih =>
      refine ⟨answered_of_credited (credited first List.mem_cons_self), ih fun due isDue => ?_⟩
      exact credited_giveDue first (credited due (List.mem_cons_of_mem first isDue))

theorem run_of_not_fresh {dues : List Due} (old : ∀ due ∈ dues, ¬Fresh platform input store due) :
    run (giveDue platform now input) store dues = store := by
  induction dues with
  | nil => rfl
  | cons first rest ih =>
      change run _ (giveDue platform now input store first) rest = store
      rw [giveDue_of_not_fresh (old first List.mem_cons_self)]
      exact ih fun due isDue => old due (List.mem_cons_of_mem first isDue)

theorem old_of_each {dues : List Due}
    (old : Each (giveDue platform now input) (fun store due => ¬Fresh platform input store due)
      store dues) : ∀ due ∈ dues, ¬Fresh platform input store due := by
  induction dues with
  | nil => nofun
  | cons first rest ih =>
      intro due isDue
      rcases List.mem_cons.mp isDue with rfl | isLater
      · exact old.1
      · have later := old.2
        rw [giveDue_of_not_fresh old.1] at later
        exact ih later due isLater

/-! ### Both calls -/

theorem distribute_of_answered
    (answered : Each (giveDue platform now input) (Answered platform input) store input.dues) :
    ∃ granted, List.Forall₂ Reports input.dues granted ∧
      distribute platform now input store =
        (run (giveDue platform now input) store input.dues, some granted) :=
  distributeRest_of_answered [] answered

/-- Everything is granted, and once, where each entry is new when it comes to it and each item
has stored its key in the end. -/
theorem grantsAll_iff_fresh (platform : Platform) (now : Nat) (store : Store)
    (distinct : (input.recipients.map RankedRecipient.rank).Nodup) :
    GrantsAll platform now input store ↔
      Each (giveDue platform now input) (Fresh platform input) store input.dues ∧
        ∀ due ∈ input.dues,
          Keyed input (run (giveDue platform now input) store input.dues) due := by
  have fully := (giveDue_counts platform now input).all_iff store input.dues
  simp only [sum_dues distinct] at fully
  constructor
  · intro grants
    obtain ⟨distributed, answers, -⟩ := grants.reported
    obtain ⟨granted, -, first⟩ :=
      distribute_of_answered (answered_of_distributeRest (Prod.ext rfl answers))
    have fresh := fully.mp (by simpa only [first] using grants.granted)
    refine ⟨fresh, fun due isDue => ?_⟩
    obtain ⟨again, -, second⟩ :=
      distribute_of_answered (each_answered platform now (credited_of_each fresh))
    have same := grants.repeated now
    simp only [first, second] at same
    have old := old_of_each ((giveDue_counts platform now input).none_of_same same) due isDue
    cases due with
    | coins userId rank amount positive => trivial
    | item userId rank type name refId transferable => exact not_not.mp old
  · rintro ⟨fresh, keyed⟩
    have credited := credited_of_each fresh
    obtain ⟨granted, reports, first⟩ := distribute_of_answered
      (Runs.each_of_each (fun _ _ (_ : True) _ => trivial)
        (fun _ _ _ isFresh => answered_of_fresh isFresh) store trivial input.dues fresh)
    constructor
    · simpa only [first] using fully.mpr fresh
    · exact ⟨granted, congrArg Prod.snd first, reports⟩
    · intro later counter
      obtain ⟨again, -, second⟩ := distribute_of_answered (each_answered platform later credited)
      simp only [first, second]
      rw [run_of_not_fresh fun due isDue =>
        not_fresh_of_keyed (credited due isDue) (keyed due isDue)]

/-! ### What the entries in front leave -/

/-- The store after the entries in front have been granted. -/
structure Since (now : Nat) (input : DistributeInput) (start : Store) (front : List Due)
    (store : Store) : Prop where
  status : ∀ userId, (store.db.row userId).status = (start.db.row userId).status
  gold : ∀ userId, (store.db.row userId).goldBalance = (start.db.row userId).goldBalance +
    (front.map fun due => due.worth (.gold userId)).sum
  absent : ∀ rank, store.db.transactions.Absent (input.coinsKey rank) ↔
    start.db.transactions.Absent (input.coinsKey rank) ∧
      input.coinsKey rank ∉ front.filterMap (Due.coinsKey input)
  active : ∀ userId refId, refId ≠ "" → (Active now store (userId, refId) ↔
    Active now start (userId, refId) ∨ (userId, refId) ∈ front.filterMap Due.reference)
  stored : ∀ key, Stored start key → Stored store key

variable {start : Store} {front : List Due}

theorem Since.refl (now : Nat) (input : DistributeInput) (start : Store) :
    Since now input start [] start where
  status := fun _ => rfl
  gold := fun _ => (add_zero _).symm
  absent := fun _ => (and_iff_left List.not_mem_nil).symm
  active := fun _ _ _ => (or_iff_left List.not_mem_nil).symm
  stored := fun _ => id

theorem stored_giveDue_iff {key : String} {userId : UserId} {rank : Nat} {type : BackpackItemType}
    {name : String} {refId : Option RefId} {transferable : Bool}
    (fresh : ¬Stored store (input.itemKey rank)) :
    Stored (giveDue platform now input store (.item userId rank type name refId transferable)) key ↔
      Stored store key ∨ key = input.itemKey rank ∧
        store.backpacks.grantedTo now
          (input.itemInput userId rank type name refId transferable) = none := by
  change key ∈ List.map _ (store.backpacks.grant now _).items ↔ _
  rw [Backpacks.Tables.keys_grant, List.mem_append]
  refine or_congr_right ?_
  have isNew : store.backpacks.findByGrantKey
      (input.itemInput userId rank type name refId transferable).grantKey = none :=
    stored_iff.mp fresh
  by_cases opens : store.backpacks.grantedTo now
      (input.itemInput userId rank type name refId transferable) = none
  · rw [if_pos ⟨isNew, opens⟩, and_iff_left opens]
    exact List.mem_singleton
  · rw [if_neg fun both => opens both.2]
    exact iff_of_false List.not_mem_nil fun both => opens both.2

theorem Since.giveDue (since : Since now input start front store) {due : Due}
    (fresh : Fresh platform input store due) :
    Since now input start (front ++ [due]) (giveDue platform now input store due) where
  status := by
    intro userId
    rw [← since.status userId]
    cases due with
    | coins owner rank amount positive =>
        rw [giveDue_coins]
        exact status_of_posts fresh userId
    | item owner rank type name refId transferable => rfl
  gold := by
    intro userId
    have gained := (giveDue_counts platform now input).taken store due (.gold userId) fresh
    rw [List.map_append, List.sum_append, List.map_singleton, List.sum_singleton, ← add_assoc,
      ← since.gold userId]
    exact gained
  absent := by
    intro rank
    cases due with
    | coins owner other amount positive =>
        rw [giveDue_coins, List.filterMap_append, List.mem_append, not_or, ← and_assoc,
          ← since.absent rank]
        refine (absent_of_posts fresh (input.coinsKey rank)).trans (and_congr_right fun _ => ?_)
        exact List.mem_singleton.not.symm
    | item owner other type name refId transferable =>
        rw [List.filterMap_append]
        exact (since.absent rank).trans (by simp [Due.coinsKey])
  active := by
    intro userId wanted isNamed
    rw [List.filterMap_append, List.mem_append, ← or_assoc, ← since.active userId wanted isNamed]
    cases due with
    | coins owner rank amount positive =>
        rw [giveDue_coins]
        exact (or_iff_left (by simp [Due.reference])).symm
    | item owner rank type name refId transferable =>
        have keeps : (input.itemInput owner rank type name refId transferable).expiresAt = none :=
          rfl
        refine (Backpacks.Tables.active_grant isNamed keeps (stored_iff.mp fresh)).trans ?_
        refine or_congr_right ?_
        change owner = userId ∧ Backpacks.refOf refId = some wanted ↔ _
        cases isRef : Backpacks.refOf refId with
        | none => simp [Due.reference, isRef]
        | some named => simp [Due.reference, isRef, eq_comm]
  stored := fun key isStored => stored_giveDue key due (since.stored key isStored)

theorem Since.merges_iff (since : Since now input start front store) {userId : UserId} {rank : Nat}
    {type : BackpackItemType} {name : String} {refId : Option RefId} {transferable : Bool} :
    Merges now start front (.item userId rank type name refId transferable) ↔
      store.backpacks.grantedTo now
        (input.itemInput userId rank type name refId transferable) ≠ none := by
  have itsReference : (Due.item userId rank type name refId transferable).reference =
      (Backpacks.refOf refId).map fun refId => (userId, refId) := rfl
  unfold Merges Backpacks.Tables.grantedTo DistributeInput.itemInput
  rw [itsReference]
  dsimp only
  cases isRef : Backpacks.refOf refId with
  | none => simp
  | some named =>
      have isNamed : named ≠ "" := of_decide_eq_true (Option.filter_eq_some_iff.mp isRef).2
      simp only [Option.map_some, Option.mem_some_iff, exists_eq_left', Option.bind_some]
      rw [← since.active userId named isNamed, ← Option.isSome_iff_ne_none]
      rfl

/-- A new item stores its key where it is not merged. -/
theorem Since.stored_iff (since : Since now input start front store) {key : String}
    {userId : UserId} {rank : Nat} {type : BackpackItemType} {name : String}
    {refId : Option RefId} {transferable : Bool} (fresh : ¬Stored store (input.itemKey rank)) :
    Stored (RewardDistributor.giveDue platform now input store
        (.item userId rank type name refId transferable)) key ↔
      Stored store key ∨ key = input.itemKey rank ∧
        ¬Merges now start front (.item userId rank type name refId transferable) := by
  rw [stored_giveDue_iff fresh, since.merges_iff, not_not]

theorem Since.fresh_iff_coins (since : Since now input start front store) {userId : UserId}
    {rank : Nat} {amount : Int} {positive : 0 < amount} (back : List Due) :
    Fresh platform input store (.coins userId rank amount positive) ↔
      Grantable now input start front back (.coins userId rank amount positive) := by
  unfold Grantable
  dsimp only
  rw [← since.status userId, ← since.gold userId, ← since.absent rank]
  exact and_iff_right ⟨positive, fun isDebit => nomatch isDebit⟩

/-! ### Keys that a run stores -/

theorem stored_of_giveDue {key : String} {due : Due}
    (isStored : Stored (giveDue platform now input store due) key) :
    Stored store key ∨ due.itemKey input = some key := by
  cases due with
  | coins userId rank amount positive =>
      rw [giveDue_coins] at isStored
      exact Or.inl isStored
  | item userId rank type name refId transferable =>
      by_cases fresh : Stored store (input.itemKey rank)
      · have old : ¬Fresh platform input store
            (.item userId rank type name refId transferable) := not_not.mpr fresh
        rw [giveDue_of_not_fresh old] at isStored
        exact Or.inl isStored
      · exact ((stored_giveDue_iff fresh).mp isStored).imp_right fun both =>
          congrArg some both.1.symm

theorem stored_of_run {key : String} {store : Store} {dues : List Due}
    (isStored : Stored (run (giveDue platform now input) store dues) key) :
    Stored store key ∨ key ∈ dues.filterMap (Due.itemKey input) := by
  induction dues generalizing store with
  | nil => exact Or.inl isStored
  | cons due rest ih =>
      rw [List.mem_filterMap]
      rcases ih isStored with after | later
      · exact (stored_of_giveDue after).imp_right fun isKey => ⟨due, List.mem_cons_self, isKey⟩
      · obtain ⟨other, isOther, isKey⟩ := List.mem_filterMap.mp later
        exact Or.inr ⟨other, List.mem_cons_of_mem due isOther, isKey⟩

theorem stored_run {key : String} {store : Store} (isStored : Stored store key)
    (dues : List Due) : Stored (run (giveDue platform now input) store dues) key := by
  have kept : ∀ store due, Stored store key → Stored (giveDue platform now input store due) key :=
    fun _ due => stored_giveDue key due
  exact (Runs.always_of_step kept store isStored dues).final

/-- Behind a key that is stored no item with that key is new. -/
theorem not_mem_of_stored {key : String} {store : Store} {dues : List Due}
    (isStored : Stored store key)
    (fresh : Each (giveDue platform now input) (Fresh platform input) store dues) :
    key ∉ dues.filterMap (Due.itemKey input) := by
  induction dues generalizing store with
  | nil => exact List.not_mem_nil
  | cons due rest ih =>
      rw [List.mem_filterMap]
      rintro ⟨other, isOther, isKey⟩
      rcases List.mem_cons.mp isOther with rfl | isLater
      · cases other with
        | coins userId rank amount positive => cases isKey
        | item userId rank type name refId transferable =>
            cases isKey
            exact fresh.1 isStored
      · exact ih (stored_giveDue key due isStored) fresh.2
          (List.mem_filterMap.mpr ⟨other, isLater, isKey⟩)

/-! ### The condition and the run -/

theorem grantable_of_fresh {store : Store} {front dues : List Due}
    (since : Since now input start front store)
    (fresh : Each (giveDue platform now input) (Fresh platform input) store dues)
    (keyed : ∀ due ∈ dues, Keyed input (run (giveDue platform now input) store dues) due) :
    AllGrantable now input start front dues := by
  induction dues generalizing store front with
  | nil => exact trivial
  | cons due rest ih =>
      refine ⟨?_, ih (since.giveDue fresh.1) fresh.2 fun other isOther =>
        keyed other (List.mem_cons_of_mem due isOther)⟩
      cases due with
      | coins userId rank amount positive => exact (since.fresh_iff_coins rest).mp fresh.1
      | item userId rank type name refId transferable =>
          have isNew : ¬Stored store (input.itemKey rank) := fresh.1
          refine ⟨fun isStored => isNew (since.stored _ isStored), ?_⟩
          constructor
          · intro merges
            have atEnd : Stored (run (giveDue platform now input) (giveDue platform now input store
                (.item userId rank type name refId transferable)) rest) (input.itemKey rank) :=
              keyed _ List.mem_cons_self
            rcases stored_of_run atEnd with after | later
            · rcases (since.stored_iff isNew).mp after with before | ⟨-, opens⟩
              · exact absurd before isNew
              · exact absurd merges opens
            · exact later
          · intro later
            by_contra opens
            have after : Stored (giveDue platform now input store
                (.item userId rank type name refId transferable)) (input.itemKey rank) :=
              (since.stored_iff isNew).mpr (Or.inr ⟨rfl, opens⟩)
            exact not_mem_of_stored after fresh.2 later

theorem fresh_of_grantable {store : Store} {front dues : List Due}
    (since : Since now input start front store)
    (unstored : ∀ key ∈ dues.filterMap (Due.itemKey input),
      ¬Stored start key → ¬Stored store key)
    (grantable : AllGrantable now input start front dues) :
    Each (giveDue platform now input) (Fresh platform input) store dues ∧
      ∀ due ∈ dues, Keyed input (run (giveDue platform now input) store dues) due := by
  induction dues generalizing store front with
  | nil => exact ⟨trivial, nofun⟩
  | cons due rest ih =>
      obtain ⟨first, others⟩ := grantable
      cases due with
      | coins userId rank amount positive =>
          have fresh : Fresh platform input store (.coins userId rank amount positive) :=
            (since.fresh_iff_coins rest).mpr first
          obtain ⟨each, keyed⟩ := ih (since.giveDue fresh) (by
            rw [giveDue_coins]
            exact unstored) others
          refine ⟨⟨fresh, each⟩, fun other isOther => ?_⟩
          rcases List.mem_cons.mp isOther with rfl | isLater
          · trivial
          · exact keyed other isLater
      | item userId rank type name refId transferable =>
          obtain ⟨unknown, mergesIff⟩ := first
          have isNew : ¬Stored store (input.itemKey rank) :=
            unstored _ (List.mem_filterMap.mpr ⟨_, List.mem_cons_self, rfl⟩) unknown
          have fresh : Fresh platform input store
            (.item userId rank type name refId transferable) := isNew
          obtain ⟨each, keyed⟩ := ih (since.giveDue fresh) (by
            intro key later unknownKey isStored
            rcases (since.stored_iff isNew).mp isStored with before | ⟨rfl, opens⟩
            · obtain ⟨other, isOther, isKey⟩ := List.mem_filterMap.mp later
              exact unstored key (List.mem_filterMap.mpr
                ⟨other, List.mem_cons_of_mem _ isOther, isKey⟩) unknownKey before
            · exact opens (mergesIff.mpr later)) others
          refine ⟨⟨fresh, each⟩, fun other isOther => ?_⟩
          rcases List.mem_cons.mp isOther with rfl | isLater
          · by_cases merges : Merges now start front
                (.item userId rank type name refId transferable)
            · obtain ⟨later, isLater, isKey⟩ := List.mem_filterMap.mp (mergesIff.mp merges)
              have itsKey := keyed later isLater
              cases later with
              | coins otherId otherRank amount positive => cases isKey
              | item otherId otherRank otherType otherName otherRef otherTransferable =>
                  change Stored _ (input.itemKey rank)
                  rw [← Option.some.inj isKey]
                  exact itsKey
            · exact stored_run ((since.stored_iff isNew).mpr (Or.inr ⟨rfl, merges⟩)) rest
          · exact keyed other isLater

/-! ### The result -/

/-- Everything is granted, and once, where each entry is grantable after those before it. -/
theorem grantsAll_iff (platform : Platform) (now : Nat) (input : DistributeInput) (store : Store)
    (distinct : (input.recipients.map RankedRecipient.rank).Nodup) :
    GrantsAll platform now input store ↔ AllGrantable now input store [] input.dues := by
  rw [grantsAll_iff_fresh platform now store distinct]
  constructor
  · rintro ⟨fresh, keyed⟩
    exact grantable_of_fresh (Since.refl now input store) fresh keyed
  · exact fresh_of_grantable (Since.refl now input store) fun _ _ => id

/-- Alice and Bob are the first two contributors. -/
def podium (rewards : List RewardEntry) : DistributeInput :=
  { recipients := [⟨1, "alice"⟩, ⟨2, "bob"⟩]
    rewards := rewards
    idempotencyPrefix := "box-1"
    walletReason := .treasureBox
    backpackSource := .treasureBox
    referenceType := "treasure_box"
    referenceId := "1" }

def emptyStore : Store :=
  { db := Db.empty
    backpacks := {}
    numbered := ⟨List.nodup_nil, nofun⟩ }

def coinsEntry (rank : Nat) (coins : Int) : RewardEntry :=
  { rank := rank
    kind := .coins
    coins := some coins }

def frameEntry (rank : Nat) : RewardEntry :=
  { rank := rank
    kind := .backpackItem
    itemType := some .frame
    itemName := some "Gold Frame"
    itemRefId := some "frame-1" }

theorem grantsAll_podium :
    GrantsAll Platform.normal 0
      (podium [coinsEntry 1 500, frameEntry 1, coinsEntry 2 200, frameEntry 2]) emptyStore :=
  (grantsAll_iff Platform.normal 0
    (podium [coinsEntry 1 500, frameEntry 1, coinsEntry 2 200, frameEntry 2]) emptyStore
    (by decide)).mpr (by decide +kernel)

/-- Of two coin rewards of one rank the second is reported and not credited. -/
theorem not_grantsAll_shared :
    ¬GrantsAll Platform.normal 0 (podium [coinsEntry 1 500, coinsEntry 1 300]) emptyStore := by
  intro grants
  have credited := grants.granted (.gold "alice")
  revert credited
  decide +kernel

end Soulzaa.Treasure.RewardDistributor
