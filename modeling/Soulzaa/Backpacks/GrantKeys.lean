/-
Grants of a backpack side by side, and their keys.

A grant looks up its key, then the item it adds to, and then writes.  A grant that adds to an
item stores no key, and writes what it has read: so it is not known when it comes again, and it
undoes what came in between.
-/

import Soulzaa.Backpacks.Grants

namespace Soulzaa.Backpacks

/-! ### Calls in steps -/

inductive GrantCall where
  | keying (input : GrantItemInput)
  | finding (input : GrantItemInput)
  /-- The item that the call has found, and when. -/
  | writing (input : GrantItemInput) (readAt : Nat) (existing : Option BackpackItem)
  | finished
  deriving DecidableEq

inductive GrantEvent where
  | grant (input : GrantItemInput)
  | goOn (position : Nat)
  | wait (time : Nat)

/-- What is written over the row of the item that was found. -/
def GrantItemInput.writtenOver (input : GrantItemInput) (readAt : Nat)
    (existing row : BackpackItem) : BackpackItem :=
  { row with
    expiresAt := input.mergedExpiry readAt existing.expiresAt
    transferable :=
      if input.source = .gift ∨ input.transferable = some false then false
      else existing.transferable
    quantity := existing.quantity + input.quantity.getD 1
    mediaUrl := input.mediaUrl.getD row.mediaUrl }

structure GrantWorld where
  tables : Tables
  calls : List GrantCall := []
  now : Nat := 0
  /-- The tables, had each key been applied once, when its first call read. -/
  once : Tables
  applied : List String
  deriving DecidableEq

namespace GrantWorld

def opening (start : Tables) : GrantWorld :=
  { tables := start
    once := start
    applied := start.items.map BackpackItem.grantKey }

def put (world : GrantWorld) (position : Nat) (call : GrantCall) : GrantWorld :=
  { world with calls := world.calls.set position call }

/-- The call writes the tables, and ends. -/
def wrote (world : GrantWorld) (position : Nat) (input : GrantItemInput) (readAt : Nat)
    (tables : Tables) : GrantWorld :=
  { world with
    tables := tables
    calls := world.calls.set position .finished
    once :=
      if input.grantKey ∈ world.applied then world.once else world.once.grant readAt input
    applied := input.grantKey :: world.applied }

def goOn (world : GrantWorld) (position : Nat) : GrantCall → GrantWorld
  | .keying input =>
      if (world.tables.findByGrantKey input.grantKey).isSome then world.put position .finished
      else world.put position (.finding input)
  | .finding input =>
      world.put position (.writing input world.now (world.tables.grantedTo world.now input))
  | .writing input readAt (some existing) =>
      world.wrote position input readAt
        (world.tables.updateItem existing.id (input.writtenOver readAt existing))
  | .writing input readAt none =>
      match world.tables.create input.item with
      | none => world.put position .finished
      | some after => world.wrote position input readAt after
  | .finished => world

def step (world : GrantWorld) : GrantEvent → GrantWorld
  | .grant input => { world with calls := world.calls ++ [.keying input] }
  | .goOn position =>
      match world.calls[position]? with
      | none => world
      | some call => world.goOn position call
  | .wait time => { world with now := world.now + time }

/-! ### The property -/

/-- When the user's items of the reference expire. -/
def expiries (tables : Tables) (userId : UserId) (refId : RefId) : List (Option Nat) :=
  (tables.items.filter fun item => item.userId = userId ∧ item.refId = some refId).map
    BackpackItem.expiresAt

/-- What is held at any time, and until when, is what each key applied once gives. -/
def ExactlyOnce (world : GrantWorld) : Prop :=
  ∀ userId refId,
    (∀ time, world.tables.held time userId (.ref refId) =
      world.once.held time userId (.ref refId)) ∧
    expiries world.tables userId refId = expiries world.once userId refId

/-- The call applies a key that none has applied, to the item that it would find now. -/
def Current (world : GrantWorld) : GrantCall → Prop
  | .writing input readAt existing =>
      existing.isSome = true ∨ world.tables.findByGrantKey input.grantKey = none →
        input.grantKey ∉ world.applied ∧ world.tables.grantedTo readAt input = existing
  | _ => True

instance (world : GrantWorld) : (call : GrantCall) → Decidable (world.Current call)
  | .writing _ _ _ => inferInstanceAs (Decidable (_ → _))
  | .keying _ => inferInstanceAs (Decidable True)
  | .finding _ => inferInstanceAs (Decidable True)
  | .finished => inferInstanceAs (Decidable True)

def Permitted (world : GrantWorld) : GrantEvent → Prop
  | .goOn position => world.Current (world.calls[position]?.getD .finished)
  | _ => True

instance (world : GrantWorld) : (event : GrantEvent) → Decidable (world.Permitted event)
  | .goOn _ => inferInstanceAs (Decidable (world.Current _))
  | .grant _ => inferInstanceAs (Decidable True)
  | .wait _ => inferInstanceAs (Decidable True)

/-! ### One application -/

variable {tables : Tables} {input : GrantItemInput} {readAt : Nat} {existing : BackpackItem}

/-- A write over the item that would be found now is the grant at once. -/
theorem updateItem_eq_grant (numbered : tables.Numbered)
    (isNew : tables.findByGrantKey input.grantKey = none)
    (found : tables.grantedTo readAt input = some existing) :
    tables.updateItem existing.id (input.writtenOver readAt existing) =
      tables.grant readAt input := by
  have isItem := (Tables.grantedTo_spec found).1
  unfold Tables.grant
  rw [isNew, if_neg (by exact Bool.false_ne_true), found]
  unfold Tables.updateItem
  congr 1
  exact KeyedRows.update_congr numbered.ids (KeyedRows.find_of_mem numbered.ids isItem) rfl

/-- The table takes the row only where no row has the key. -/
theorem unkeyed_of_create {after : Tables} (created : tables.create input.item = some after) :
    tables.findByGrantKey input.grantKey = none := by
  unfold Tables.create at created
  split at created
  · cases created
  · rename_i absent
    apply List.find?_eq_none.mpr
    intro item isItem isKey
    apply absent
    rw [show input.item.grantKey = input.grantKey from rfl, ← of_decide_eq_true isKey]
    exact List.mem_map_of_mem isItem

theorem create_eq_grant (isNew : tables.findByGrantKey input.grantKey = none)
    (unfound : tables.grantedTo readAt input = none) {after : Tables}
    (created : tables.create input.item = some after) :
    after = tables.grant readAt input := by
  unfold Tables.grant
  rw [isNew, if_neg (by exact Bool.false_ne_true), unfound, created]
  rfl

theorem keys_grant_subset {key : String}
    (stored : key ∈ (tables.grant readAt input).items.map BackpackItem.grantKey) :
    key = input.grantKey ∨ key ∈ tables.items.map BackpackItem.grantKey := by
  rw [Tables.keys_grant] at stored
  rcases List.mem_append.mp stored with before | isNew
  · exact Or.inr before
  · split at isNew
    · exact Or.inl (List.mem_singleton.mp isNew)
    · cases isNew

/-! ### Runs -/

/-- Each key has been applied once so far, and what is stored has been applied. -/
structure Faithful (world : GrantWorld) : Prop where
  same : world.once = world.tables
  numbered : world.tables.Numbered
  stored : ∀ key ∈ world.tables.items.map BackpackItem.grantKey, key ∈ world.applied

variable {world : GrantWorld} {position : Nat}

theorem faithful_opening {start : Tables} (numbered : start.Numbered) :
    (opening start).Faithful where
  same := rfl
  numbered := numbered
  stored := fun _ isStored => isStored

theorem Faithful.unstored (faithful : world.Faithful) (isNew : input.grantKey ∉ world.applied) :
    world.tables.findByGrantKey input.grantKey = none := by
  apply List.find?_eq_none.mpr
  intro item isItem isKey
  have isStored := faithful.stored _ (List.mem_map_of_mem isItem)
  rw [of_decide_eq_true isKey] at isStored
  exact isNew isStored

/-- A write that is one application keeps to the keys. -/
theorem Faithful.wrote (faithful : world.Faithful) (isNew : input.grantKey ∉ world.applied)
    {after : Tables} (isGrant : after = world.tables.grant readAt input) :
    (world.wrote position input readAt after).Faithful := by
  have follows := Tables.follows_grant faithful.numbered readAt input
  subst isGrant
  constructor
  · unfold GrantWorld.wrote
    dsimp only
    rw [if_neg isNew, faithful.same]
  · exact follows.numbered
  · intro key isStored
    rcases keys_grant_subset isStored with rfl | before
    · exact List.mem_cons_self
    · exact List.mem_cons_of_mem _ (faithful.stored key before)

theorem Faithful.put (faithful : world.Faithful) (call : GrantCall) :
    (world.put position call).Faithful :=
  ⟨faithful.same, faithful.numbered, faithful.stored⟩

theorem Faithful.goOn (faithful : world.Faithful) {call : GrantCall}
    (current : world.Current call) : (world.goOn position call).Faithful := by
  cases call with
  | keying input =>
      dsimp only [GrantWorld.goOn]
      split
      · exact faithful.put _
      · exact faithful.put _
  | finding input => exact faithful.put _
  | writing input readAt existing =>
      cases existing with
      | some existing =>
          obtain ⟨isNew, found⟩ := current (Or.inl rfl)
          exact faithful.wrote isNew
            (updateItem_eq_grant faithful.numbered (faithful.unstored isNew) found)
      | none =>
          dsimp only [GrantWorld.goOn]
          split
          · exact faithful.put _
          · rename_i after created
            have unkeyed := unkeyed_of_create created
            obtain ⟨isNew, unfound⟩ := current (Or.inr unkeyed)
            exact faithful.wrote isNew (create_eq_grant unkeyed unfound created)
  | finished => exact faithful

theorem Faithful.step (faithful : world.Faithful) {event : GrantEvent}
    (permitted : world.Permitted event) : (world.step event).Faithful := by
  cases event with
  | grant input => exact ⟨faithful.same, faithful.numbered, faithful.stored⟩
  | wait time => exact ⟨faithful.same, faithful.numbered, faithful.stored⟩
  | goOn position =>
      dsimp only [GrantWorld.step]
      dsimp only [Permitted] at permitted
      cases found : world.calls[position]? with
      | none => exact faithful
      | some call =>
          rw [found] at permitted
          exact faithful.goOn permitted

theorem Faithful.exactlyOnce (faithful : world.Faithful) : world.ExactlyOnce := by
  intro userId refId
  rw [faithful.same]
  exact ⟨fun _ => rfl, rfl⟩

def frameGrant (key : String) : GrantItemInput :=
  { userId := "u"
    type := .frame
    refId := some "f"
    name := "F"
    source := .event
    grantKey := key }

/-- A call from beginning to end. -/
def whole (position : Nat) (key : String) : List GrantEvent :=
  [.grant (frameGrant key), .goOn position, .goOn position, .goOn position]

theorem numbered_empty : Tables.Numbered {} where
  ids := List.nodup_nil
  below := fun _ member => absurd member List.not_mem_nil

end GrantWorld

end Soulzaa.Backpacks
