/-
What a user holds, and what a grant adds to it.

A grant adds to the active row of what it refers to, if there is one, and opens a row otherwise.
-/

import Mathlib.Algebra.Ring.Int.Defs
import Soulzaa.Backpacks.Items

namespace Soulzaa.Backpacks

/-! ### Holdings -/

/-- What an item is of: what it refers to, or else its name and type. -/
inductive Holding where
  | ref (refId : RefId)
  | named (name : String) (type : BackpackItemType)
  deriving DecidableEq, Repr

namespace BackpackItem

def holding (item : BackpackItem) : Holding :=
  match refOf item.refId with
  | some refId => .ref refId
  | none => .named item.name item.type

/-- What an item adds to the unexpired quantity of a holding. -/
def worth (now : Nat) (userId : UserId) (holding : Holding) (item : BackpackItem) : Int :=
  if item.userId = userId ∧ Unexpired now item.expiresAt ∧ item.holding = holding then
    item.quantity
  else 0

end BackpackItem

namespace Tables

def held (tables : Tables) (now : Nat) (userId : UserId) (holding : Holding) : Int :=
  (tables.items.map (BackpackItem.worth now userId holding)).sum

end Tables

/-! ### Sums over rows -/

namespace Tables

variable {tables after : Tables} {now : Nat} {userId : UserId} {holding : Holding}
  {itemId : ItemId} {item : BackpackItem}

/-- Ids are below the next one, and none is given twice. -/
structure Numbered (tables : Tables) : Prop where
  ids : (tables.items.map BackpackItem.id).Nodup
  below : ∀ item ∈ tables.items, item.id < tables.nextItem

theorem held_of_update {change : BackpackItem → BackpackItem} {gain : Int}
    (numbered : tables.Numbered) (found : tables.findItem itemId = some item)
    (gains : (change item).worth now userId holding = item.worth now userId holding + gain) :
    (tables.updateItem itemId change).held now userId holding =
      tables.held now userId holding + gain :=
  KeyedRows.sum_update _ change numbered.ids found gains

/-! ### What calls do to rows -/

/-- Rows after a call: rows from before, which have become no more transferable, and new ones. -/
structure Follows (tables after : Tables) : Prop where
  numbered : after.Numbered
  nextItem : tables.nextItem ≤ after.nextItem
  rows : ∀ later ∈ after.items, tables.nextItem ≤ later.id ∨
    ∃ item ∈ tables.items, item.id = later.id ∧
      (item.transferable = false → later.transferable = false)

variable {change : BackpackItem → BackpackItem}

theorem Follows.of_eq (numbered : tables.Numbered) (items : after.items = tables.items)
    (nextItem : after.nextItem = tables.nextItem) : tables.Follows after where
  numbered := ⟨items ▸ numbered.ids, items ▸ nextItem ▸ numbered.below⟩
  nextItem := Nat.le_of_eq nextItem.symm
  rows := fun later isLater => Or.inr ⟨later, items ▸ isLater, rfl, id⟩

theorem follows_update (numbered : tables.Numbered) (keepsId : ∀ item, (change item).id = item.id)
    (lowers : ∀ item ∈ tables.items, item.id = itemId → item.transferable = false →
      (change item).transferable = false) :
    tables.Follows (tables.updateItem itemId change) where
  numbered := by
    constructor
    · exact (congrArg List.Nodup (KeyedRows.keys_update keepsId)).mpr numbered.ids
    · intro later isLater
      obtain ⟨item, isItem, rfl⟩ := KeyedRows.mem_update isLater
      split
      · rw [keepsId]
        exact numbered.below item isItem
      · exact numbered.below item isItem
  nextItem := Nat.le_refl _
  rows := by
    intro later isLater
    obtain ⟨item, isItem, rfl⟩ := KeyedRows.mem_update isLater
    refine Or.inr ⟨item, isItem, ?_⟩
    split
    · rename_i isIts
      exact ⟨(keepsId item).symm, lowers item isItem isIts⟩
    · exact ⟨rfl, id⟩

theorem create_spec (created : tables.create item = some after) :
    after = { tables with
      items := tables.items ++ [{ item with id := tables.nextItem }]
      nextItem := tables.nextItem + 1 } := by
  unfold create at created
  split at created
  · cases created
  · cases created
    rfl

theorem follows_create (numbered : tables.Numbered) (created : tables.create item = some after) :
    tables.Follows after := by
  rw [create_spec created]
  refine ⟨⟨?_, ?_⟩, Nat.le_succ _, ?_⟩
  · dsimp only
    rw [List.map_append]
    refine List.Nodup.append numbered.ids (List.nodup_singleton _)
      (List.disjoint_singleton.mpr fun taken => ?_)
    obtain ⟨other, isOther, sameId⟩ := List.mem_map.mp taken
    exact Nat.ne_of_lt (numbered.below other isOther) sameId
  · intro later isLater
    rcases List.mem_append.mp isLater with earlier | isNew
    · exact Nat.lt_succ_of_lt (numbered.below later earlier)
    · rw [List.mem_singleton.mp isNew]
      exact Nat.lt_succ_self _
  · intro later isLater
    rcases List.mem_append.mp isLater with earlier | isNew
    · exact Or.inr ⟨later, earlier, rfl, id⟩
    · rw [List.mem_singleton.mp isNew]
      exact Or.inl (Nat.le_refl _)

/-! ### Grants -/

theorem follows_grant (numbered : tables.Numbered) (now : Nat) (input : GrantItemInput) :
    tables.Follows (tables.grant now input) := by
  unfold grant
  split
  · exact Follows.of_eq numbered rfl rfl
  · split
    · refine follows_update numbered (fun _ => rfl) fun item _ _ isBound => ?_
      unfold GrantItemInput.merged
      dsimp only
      rw [isBound, ite_self]
    · cases created : tables.create input.item with
      | none => exact Follows.of_eq numbered rfl rfl
      | some after => exact follows_create numbered created

section Grants

variable {input : GrantItemInput}

/-- The item that a grant adds to is the user's, is active and refers to the same. -/
theorem grantedTo_spec {existing : BackpackItem}
    (granted : tables.grantedTo now input = some existing) :
    existing ∈ tables.items ∧ existing.userId = input.userId ∧
      Unexpired now existing.expiresAt ∧ existing.holding = input.item.holding := by
  obtain ⟨refId, refers, found⟩ := Option.bind_eq_some_iff.mp granted
  unfold findByUserIdAndRefId at found
  have isFound := List.find?_some found
  obtain ⟨isIts, sameRef, active⟩ := of_decide_eq_true isFound
  refine ⟨List.mem_reverse.mp (List.mem_of_find?_eq_some found), isIts, active, ?_⟩
  have isNamed : refOf (some refId) = some refId := by
    have named := (Option.filter_eq_some_iff.mp refers).2
    exact Option.filter_eq_some_iff.mpr ⟨rfl, named⟩
  unfold BackpackItem.holding
  rw [sameRef, isNamed, show input.item.refId = input.refId from rfl, refers]

theorem create_of_unkeyed (isNew : tables.findByGrantKey input.grantKey = none) :
    tables.create input.item = some { tables with
      items := tables.items ++ [{ input.item with id := tables.nextItem }]
      nextItem := tables.nextItem + 1 } := by
  refine if_neg fun taken => ?_
  obtain ⟨item, isItem, sameKey⟩ := List.mem_map.mp taken
  exact List.find?_eq_none.mp isNew item isItem (decide_eq_true sameKey)

/-- A grant under a new key, which says nothing of expiry, adds its quantity. -/
theorem held_grant (numbered : tables.Numbered) (keeps : input.expiresAt = none)
    (isNew : tables.findByGrantKey input.grantKey = none) :
    (tables.grant now input).held now userId holding =
      tables.held now userId holding +
        if input.userId = userId ∧ input.item.holding = holding then input.quantity.getD 1
        else 0 := by
  unfold grant
  rw [isNew, if_neg (by exact Bool.false_ne_true)]
  cases granted : tables.grantedTo now input with
  | some existing =>
      obtain ⟨isItem, isIts, active, sameHolding⟩ := grantedTo_spec granted
      refine held_of_update numbered (KeyedRows.find_of_mem numbered.ids isItem) ?_
      have sameExpiry : (input.merged now existing).expiresAt = existing.expiresAt := by
        unfold GrantItemInput.merged GrantItemInput.mergedExpiry
        rw [keeps]
        cases existing.expiresAt <;> rfl
      unfold BackpackItem.worth
      rw [sameExpiry, show (input.merged now existing).holding = existing.holding from rfl,
        show (input.merged now existing).userId = existing.userId from rfl, isIts, sameHolding]
      by_cases isOf : input.userId = userId ∧ input.item.holding = holding
      · rw [if_pos ⟨isOf.1, active, isOf.2⟩, if_pos ⟨isOf.1, active, isOf.2⟩, if_pos isOf]
        rfl
      · rw [if_neg fun both => isOf ⟨both.1, both.2.2⟩, if_neg fun both => isOf ⟨both.1, both.2.2⟩,
          if_neg isOf, add_zero]
  | none =>
      rw [create_of_unkeyed isNew, Option.getD_some]
      unfold held
      dsimp only
      rw [List.map_append, List.sum_append, List.map_singleton, List.sum_singleton]
      congr 1
      have active : Unexpired now input.item.expiresAt := by
        unfold GrantItemInput.item
        rw [keeps]
        exact nofun
      unfold BackpackItem.worth
      by_cases isOf : input.userId = userId ∧ input.item.holding = holding
      · rw [if_pos isOf]
        exact if_pos ⟨isOf.1, active, isOf.2⟩
      · rw [if_neg isOf]
        exact if_neg fun both => isOf ⟨both.1, both.2.2⟩

theorem grant_of_keyed (isKeyed : tables.findByGrantKey input.grantKey ≠ none) :
    tables.grant now input = tables :=
  if_pos (Option.isSome_iff_ne_none.mpr isKeyed)

/-- A grant stores its key where it opens a row. -/
theorem keys_grant :
    (tables.grant now input).items.map BackpackItem.grantKey =
      tables.items.map BackpackItem.grantKey ++
        if tables.findByGrantKey input.grantKey = none ∧ tables.grantedTo now input = none then
          [input.grantKey]
        else [] := by
  by_cases isNew : tables.findByGrantKey input.grantKey = none
  · unfold grant
    rw [isNew, if_neg (by exact Bool.false_ne_true)]
    cases granted : tables.grantedTo now input with
    | some existing =>
        rw [if_neg (by simp), List.append_nil]
        exact KeyedRows.map_update fun _ => rfl
    | none =>
        rw [create_of_unkeyed isNew, Option.getD_some, if_pos ⟨rfl, rfl⟩]
        exact List.map_append
  · rw [grant_of_keyed isNew, if_neg fun both => isNew both.1, List.append_nil]

theorem refOf_eq_some_iff {refId : RefId} (isNamed : refId ≠ "") (given : Option RefId) :
    refOf given = some refId ↔ given = some refId := by
  unfold refOf
  rw [Option.filter_eq_some_iff]
  exact and_iff_left (decide_eq_true isNamed)

theorem active_iff {refId : RefId} :
    (tables.findByUserIdAndRefId userId refId now).isSome ↔
      ∃ columns ∈ tables.items.map fun item => (item.userId, item.refId, item.expiresAt),
        columns.1 = userId ∧ columns.2.1 = some refId ∧ Unexpired now columns.2.2 := by
  unfold findByUserIdAndRefId
  simp only [List.find?_isSome, List.mem_reverse, decide_eq_true_eq, List.mem_map,
    exists_exists_and_eq_and]

/-- After a grant under a new key, the user has an active item of what it refers to. -/
theorem active_grant {refId : RefId} (isNamed : refId ≠ "") (keeps : input.expiresAt = none)
    (isNew : tables.findByGrantKey input.grantKey = none) :
    ((tables.grant now input).findByUserIdAndRefId userId refId now).isSome ↔
      (tables.findByUserIdAndRefId userId refId now).isSome ∨
        input.userId = userId ∧ refOf input.refId = some refId := by
  unfold grant
  rw [isNew, if_neg (by exact Bool.false_ne_true)]
  cases granted : tables.grantedTo now input with
  | some existing =>
      have sameColumns : (tables.updateItem existing.id (input.merged now)).items.map
          (fun item => (item.userId, item.refId, item.expiresAt)) =
            tables.items.map fun item => (item.userId, item.refId, item.expiresAt) := by
        refine KeyedRows.map_update fun item => ?_
        unfold GrantItemInput.merged GrantItemInput.mergedExpiry
        rw [keeps]
        cases item.expiresAt <;> rfl
      rw [active_iff, active_iff, sameColumns]
      refine (or_iff_left_of_imp ?_).symm
      rintro ⟨rfl, refers⟩
      have found : tables.findByUserIdAndRefId input.userId refId now = some existing := by
        unfold grantedTo at granted
        rw [refers] at granted
        exact granted
      exact active_iff.mp (Option.isSome_of_eq_some found)
  | none =>
      rw [create_of_unkeyed isNew, Option.getD_some, active_iff, active_iff]
      dsimp only
      rw [List.map_append, List.map_singleton]
      simp only [List.mem_append, List.mem_singleton, or_and_right, exists_or, exists_eq_left]
      refine or_congr_right ?_
      have active : Unexpired now input.item.expiresAt := by
        unfold GrantItemInput.item
        rw [keeps]
        exact nofun
      rw [refOf_eq_some_iff isNamed]
      exact and_congr_right fun _ => and_iff_left active

end Grants

end Tables

end Soulzaa.Backpacks
