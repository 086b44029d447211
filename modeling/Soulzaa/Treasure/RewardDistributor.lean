/-
RewardDistributor.distribute, over the wallet and the backpack.

The key of a grant names the prefix, the rank and the kind, and not the entry.  An item
that is merged into one already held stores no key at all.
-/

import Soulzaa.Backpacks.Grants
import Soulzaa.Wallet.TopUps

namespace Soulzaa.Treasure.Rockets

inductive TreasureRewardKind where
  | coins
  | backpackItem
  deriving DecidableEq, Repr

structure RankedRecipient where
  rank : Nat
  userId : UserId
  deriving DecidableEq, Repr

end Soulzaa.Treasure.Rockets

namespace Soulzaa.Treasure.RewardDistributor

open Backpacks (BackpackItemType BackpackItemSource GrantItemInput Holding ItemId RefId)
open Rockets (RankedRecipient TreasureRewardKind)

/-! ### What is asked for and what is reported -/

structure RewardEntry where
  rank : Nat
  kind : TreasureRewardKind
  coins : Option Int := none
  itemType : Option BackpackItemType := none
  itemName : Option String := none
  itemRefId : Option RefId := none
  transferable : Option Bool := none
  deriving DecidableEq

structure DistributeInput where
  recipients : List RankedRecipient
  rewards : List RewardEntry
  idempotencyPrefix : String
  walletReason : WalletTxnReason
  backpackSource : BackpackItemSource
  referenceType : String
  referenceId : String
  deriving DecidableEq

structure DistributedReward where
  userId : UserId
  rank : Nat
  kind : TreasureRewardKind
  coins : Option Int
  itemType : Option BackpackItemType
  itemName : Option String
  walletTxnId : Option TransactionId
  backpackItemId : Option ItemId
  deriving DecidableEq

structure Store where
  db : Db
  backpacks : Backpacks.Tables
  numbered : backpacks.Numbered

/-! ### One entry -/

/-- An entry that has a recipient and gives something. -/
inductive Due where
  | coins (userId : UserId) (rank : Nat) (amount : Int) (positive : 0 < amount)
  | item (userId : UserId) (rank : Nat) (type : BackpackItemType) (name : String)
      (refId : Option RefId) (transferable : Bool)
  deriving DecidableEq

/-- `byRank`: of two recipients of a rank the later one is kept. -/
def userAt (recipients : List RankedRecipient) (rank : Nat) : Option UserId :=
  (recipients.reverse.find? fun recipient => recipient.rank = rank).map RankedRecipient.userId

/-- What the entry gives to a user. -/
def RewardEntry.dueTo (reward : RewardEntry) (userId : UserId) : Option Due :=
  match reward.kind with
  | .coins =>
      match reward.coins with
      | some amount =>
          if positive : 0 < amount then some (.coins userId reward.rank amount positive) else none
      | none => none
  | .backpackItem =>
      match reward.itemType, reward.itemName with
      | some type, some name =>
          if name ≠ "" then
            some (.item userId reward.rank type name reward.itemRefId
              (reward.transferable.getD false))
          else none
      | _, _ => none

namespace DistributeInput

variable (input : DistributeInput)

def due (reward : RewardEntry) : Option Due :=
  (userAt input.recipients reward.rank).bind reward.dueTo

def dues : List Due := input.rewards.filterMap input.due

def coinsKey (rank : Nat) : String := s!"{input.idempotencyPrefix}:r{rank}:coins"

def itemKey (rank : Nat) : String := s!"{input.idempotencyPrefix}:r{rank}:item"

def coinsInput (userId : UserId) (rank : Nat) (amount : Int) : WalletMovementInput :=
  { userId := userId
    currency := .gold
    amount := amount
    reason := input.walletReason
    idempotencyKey := input.coinsKey rank
    referenceType := some input.referenceType
    referenceId := some input.referenceId }

/-- The metadata names no media. -/
def itemInput (userId : UserId) (rank : Nat) (type : BackpackItemType) (name : String)
    (refId : Option RefId) (transferable : Bool) : GrantItemInput :=
  { userId := userId
    type := type
    refId := refId
    name := name
    source := input.backpackSource
    transferable := some transferable
    grantKey := input.itemKey rank
    mediaUrl := some "" }

end DistributeInput

/-- The id that `grant` returns. -/
def grantedId (backpacks : Backpacks.Tables) (now : Nat) (item : GrantItemInput) : ItemId :=
  match backpacks.findByGrantKey item.grantKey with
  | some byKey => byKey.id
  | none =>
      match backpacks.grantedTo now item with
      | some existing => existing.id
      | none => backpacks.nextItem

def Store.grant (store : Store) (now : Nat) (item : GrantItemInput) : Store :=
  { store with
    backpacks := store.backpacks.grant now item
    numbered := (Backpacks.Tables.follows_grant store.numbered now item).numbered }

section Calls

variable (platform : Platform) (now : Nat) (input : DistributeInput)

/-- A refused credit throws. -/
def give (store : Store) : Due → Store × Option DistributedReward
  | .coins userId rank amount _ =>
      match WalletService.credit platform store.db (input.coinsInput userId rank amount) with
      | (db, .error _) => ({ store with db := db }, none)
      | (db, .ok credited) =>
          ({ store with db := db },
            some
              { userId := userId
                rank := rank
                kind := .coins
                coins := some amount
                itemType := none
                itemName := none
                walletTxnId := some credited.transactionId
                backpackItemId := none })
  | .item userId rank type name refId transferable =>
      let item := input.itemInput userId rank type name refId transferable
      (store.grant now item,
        some
          { userId := userId
            rank := rank
            kind := .backpackItem
            coins := none
            itemType := some type
            itemName := some name
            walletTxnId := none
            backpackItemId := some (grantedId store.backpacks now item) })

def distributeRest :
    List RewardEntry → Store → List DistributedReward → Store × Option (List DistributedReward)
  | [], store, distributed => (store, some distributed)
  | reward :: rest, store, distributed =>
      match input.due reward with
      | none => distributeRest rest store distributed
      | some due =>
          match give platform now input store due with
          | (after, none) => (after, none)
          | (after, some granted) => distributeRest rest after (distributed ++ [granted])

def distribute (store : Store) : Store × Option (List DistributedReward) :=
  distributeRest platform now input input.rewards store []

end Calls

/-! ### What should come of it -/

/-- What a distribution is to add to. -/
inductive Counter where
  | gold (userId : UserId)
  | held (userId : UserId) (holding : Holding)

def Store.count (now : Nat) (store : Store) : Counter → Int
  | .gold userId => (store.db.row userId).goldBalance
  | .held userId holding => store.backpacks.held now userId holding

/-- What the entry is of, where it is of an item. -/
def RewardEntry.holding (reward : RewardEntry) : Option Holding :=
  match reward.kind, reward.itemType, reward.itemName with
  | .backpackItem, some type, some name =>
      if name ≠ "" then
        some ((Backpacks.refOf reward.itemRefId).elim (.named name type) .ref)
      else none
  | _, _, _ => none

/-- The coins of the entry, where it is of coins. -/
def RewardEntry.amount (reward : RewardEntry) : Int :=
  match reward.kind with
  | .coins => max 0 (reward.coins.getD 0)
  | .backpackItem => 0

namespace DistributeInput

variable (input : DistributeInput)

/-- The sum over the entries for the ranks of the user. -/
def owed (userId : UserId) (worth : RewardEntry → Int) : Int :=
  ((input.recipients.filter fun recipient => recipient.userId = userId).map fun recipient =>
    ((input.rewards.filter fun reward => reward.rank = recipient.rank).map worth).sum).sum

/-- The coins of these entries, or how many of them are of an item of the holding. -/
def owes : Counter → Int
  | .gold userId => input.owed userId RewardEntry.amount
  | .held userId holding =>
      input.owed userId fun reward => if reward.holding = some holding then 1 else 0

end DistributeInput

/-- The report is of what is due. -/
def Reports : Due → DistributedReward → Prop
  | .coins userId rank amount _, reported =>
      reported.userId = userId ∧ reported.rank = rank ∧ reported.kind = .coins ∧
        reported.coins = some amount ∧ reported.itemType = none ∧ reported.itemName = none
  | .item userId rank type name _ _, reported =>
      reported.userId = userId ∧ reported.rank = rank ∧ reported.kind = .backpackItem ∧
        reported.coins = none ∧ reported.itemType = some type ∧ reported.itemName = some name

/-- Everything is granted and reported, and nothing is granted once more. -/
structure GrantsAll (platform : Platform) (now : Nat) (input : DistributeInput) (store : Store) :
    Prop where
  granted : ∀ counter, (distribute platform now input store).1.count now counter =
    store.count now counter + input.owes counter
  reported : ∃ distributed, (distribute platform now input store).2 = some distributed ∧
    List.Forall₂ Reports input.dues distributed
  repeated : ∀ later counter,
    (distribute platform later input (distribute platform now input store).1).1.count later
        counter =
      (distribute platform now input store).1.count later counter

/-! ### Sums over entries -/

/-- What giving it adds. -/
def Due.worth : Due → Counter → Int
  | .coins userId _ amount _, .gold owner => if userId = owner then amount else 0
  | .item userId _ type name refId _, .held owner holding =>
      if userId = owner ∧ (Backpacks.refOf refId).elim (.named name type) .ref = holding then 1
      else 0
  | .coins .., .held .. => 0
  | .item .., .gold _ => 0

variable {recipients : List RankedRecipient} {rewards : List RewardEntry}

theorem userAt_cons (first : RankedRecipient) (rank : Nat) :
    userAt (first :: recipients) rank =
      (userAt recipients rank).or (if first.rank = rank then some first.userId else none) := by
  unfold userAt
  rw [List.reverse_cons, List.find?_append, Option.map_or]
  congr 1
  rw [List.find?_singleton]
  by_cases isRank : first.rank = rank
  · rw [if_pos isRank, if_pos (decide_eq_true isRank)]
    rfl
  · rw [if_neg isRank, if_neg (by simpa using isRank)]
    rfl

theorem userAt_eq_none_iff (rank : Nat) :
    userAt recipients rank = none ↔ rank ∉ recipients.map RankedRecipient.rank := by
  unfold userAt
  rw [Option.map_eq_none_iff, List.find?_eq_none, List.mem_map]
  constructor
  · rintro none ⟨recipient, isOne, sameRank⟩
    exact none recipient (List.mem_reverse.mpr isOne) (decide_eq_true sameRank)
  · intro absent recipient isOne sameRank
    exact absent ⟨recipient, List.mem_reverse.mp isOne, of_decide_eq_true sameRank⟩

/-- Where ranks are distinct, an entry is for the user to whom its rank belongs. -/
theorem owed_eq {input : DistributeInput}
    (distinct : (input.recipients.map RankedRecipient.rank).Nodup) (userId : UserId)
    (worth : RewardEntry → Int) :
    input.owed userId worth =
      (input.rewards.map fun reward =>
        if userAt input.recipients reward.rank = some userId then worth reward else 0).sum := by
  unfold DistributeInput.owed
  generalize input.recipients = recipients at distinct
  induction recipients with
  | nil => simp [userAt]
  | cons first others ih =>
      obtain ⟨unshared, apart⟩ := List.nodup_cons.mp distinct
      have own : ∀ reward : RewardEntry,
          (if userAt (first :: others) reward.rank = some userId then worth reward else 0) =
            (if first.rank = reward.rank ∧ first.userId = userId then worth reward else 0) +
              if userAt others reward.rank = some userId then worth reward else 0 := by
        intro reward
        rw [userAt_cons]
        by_cases isRank : first.rank = reward.rank
        · rw [(userAt_eq_none_iff reward.rank).mpr (isRank ▸ unshared), if_pos isRank]
          simp [isRank]
        · rw [if_neg isRank, Option.or_none]
          simp [isRank]
      rw [List.map_congr_left fun reward _ => own reward, List.sum_map_add, ← ih apart,
        List.filter_cons]
      by_cases isIts : first.userId = userId
      · rw [if_pos (decide_eq_true isIts), List.map_cons, List.sum_cons]
        congr 1
        rw [List.sum_map_ite]
        simp [isIts, eq_comm]
      · rw [if_neg (by simpa using isIts)]
        simp [isIts]

theorem RewardEntry.worth_dueTo (reward : RewardEntry) (userId : UserId) (counter : Counter) :
    (reward.dueTo userId).elim 0 (fun due => due.worth counter) =
      match counter with
      | .gold owner => if userId = owner then reward.amount else 0
      | .held owner holding =>
          if userId = owner then if reward.holding = some holding then 1 else 0 else 0 := by
  unfold dueTo amount holding
  cases reward.kind with
  | coins =>
      cases reward.coins with
      | none => cases counter <;> simp
      | some amount =>
          by_cases positive : 0 < amount
          · cases counter <;> simp [positive, Due.worth, Int.le_of_lt]
          · cases counter <;> simp [positive, Int.not_lt.mp]
  | backpackItem =>
      cases reward.itemType with
      | none => cases counter <;> simp
      | some type =>
          cases reward.itemName with
          | none => cases counter <;> simp
          | some name =>
              by_cases named : name = ""
              · cases counter <;> simp [named]
              · cases counter <;> simp [named, Due.worth, ite_and]

/-- What is due adds up to what the entries owe. -/
theorem sum_dues {input : DistributeInput}
    (distinct : (input.recipients.map RankedRecipient.rank).Nodup) (counter : Counter) :
    (input.dues.map fun due => due.worth counter).sum = input.owes counter := by
  have each : ∀ rewards : List RewardEntry,
      ((rewards.filterMap input.due).map fun due => due.worth counter).sum =
        (rewards.map fun reward => (input.due reward).elim 0 fun due => due.worth counter).sum := by
    intro rewards
    induction rewards with
    | nil => rfl
    | cons first rest ih =>
        rw [List.map_cons, List.sum_cons, ← ih, List.filterMap_cons]
        cases input.due first with
        | none => exact (zero_add _).symm
        | some due => rfl
  have own : ∀ reward : RewardEntry,
      ((input.due reward).elim 0 fun due => due.worth counter) =
        match counter with
        | .gold owner =>
            if userAt input.recipients reward.rank = some owner then reward.amount else 0
        | .held owner holding =>
            if userAt input.recipients reward.rank = some owner then
              if reward.holding = some holding then 1 else 0
            else 0 := by
    intro reward
    unfold DistributeInput.due
    cases userAt input.recipients reward.rank with
    | none => cases counter <;> rfl
    | some userId =>
        rw [Option.bind_some, reward.worth_dueTo]
        cases counter <;> simp
  unfold DistributeInput.dues
  rw [each, List.map_congr_left fun reward _ => own reward]
  cases counter with
  | gold owner => exact (owed_eq distinct owner _).symm
  | held owner holding => exact (owed_eq distinct owner _).symm

end Soulzaa.Treasure.RewardDistributor
