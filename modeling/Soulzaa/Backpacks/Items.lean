/-
Backpacks: what a grant reads and writes.

A backpack is a user's rows of one table, in the order they were acquired.  A grant may add to a row
that is there.
-/

import Soulzaa.Lib.KeyedRows
import Soulzaa.Lib.Runs

namespace Soulzaa.Backpacks

abbrev UserId := String
abbrev RefId := String
abbrev ItemId := Nat

/-! ### Rows -/

inductive BackpackItemType where
  | frame
  | theme
  | entranceEffect
  | badge
  | decoration
  | other
  deriving DecidableEq, Repr

inductive BackpackItemSource where
  | agency
  | treasureBox
  | rocket
  | gift
  | event
  | attendance
  | admin
  | purchase
  deriving DecidableEq, Repr

structure BackpackItem where
  id : ItemId
  userId : UserId
  type : BackpackItemType
  refId : Option RefId := none
  name : String
  source : BackpackItemSource
  quantity : Int := 1
  equipped : Bool := false
  transferable : Bool := false
  grantKey : String
  mediaUrl : String := ""
  expiresAt : Option Nat := none
  deriving DecidableEq, Repr

/-- The time has not come, or there is none. -/
def Unexpired (now : Nat) (expiresAt : Option Nat) : Prop := ∀ limit ∈ expiresAt, now < limit

instance (now : Nat) (expiresAt : Option Nat) : Decidable (Unexpired now expiresAt) :=
  inferInstanceAs (Decidable (∀ limit ∈ expiresAt, now < limit))

/-- An empty id refers to nothing. -/
def refOf (refId : Option RefId) : Option RefId := refId.filter fun id => id ≠ ""

/-- The later of two grants of time. -/
def extended (now : Nat) (stored added : Nat) : Nat := max stored now + (added - now)

structure Tables where
  items : List BackpackItem := []
  nextItem : ItemId := 0
  deriving DecidableEq, Repr

namespace Tables

/-! ### Reads and writes -/

def findItem (tables : Tables) (id : ItemId) : Option BackpackItem :=
  KeyedRows.find BackpackItem.id id tables.items

def findByGrantKey (tables : Tables) (grantKey : String) : Option BackpackItem :=
  tables.items.find? fun item => item.grantKey = grantKey

/-- The user's active item of the reference that was acquired last. -/
def findByUserIdAndRefId (tables : Tables) (userId : UserId) (refId : RefId) (now : Nat) :
    Option BackpackItem :=
  tables.items.reverse.find? fun item =>
    item.userId = userId ∧ item.refId = some refId ∧ Unexpired now item.expiresAt

def updateItem (tables : Tables) (id : ItemId) (change : BackpackItem → BackpackItem) : Tables :=
  { tables with items := KeyedRows.update BackpackItem.id id change tables.items }

/-- Grant keys are unique. -/
def create (tables : Tables) (item : BackpackItem) : Option Tables :=
  if item.grantKey ∈ tables.items.map BackpackItem.grantKey then none
  else
    some { tables with
      items := tables.items ++ [{ item with id := tables.nextItem }]
      nextItem := tables.nextItem + 1 }

end Tables

/-! ### Grants -/

/-- Expiry may be left out, or given as none. -/
structure GrantItemInput where
  userId : UserId
  type : BackpackItemType
  refId : Option RefId := none
  name : String
  source : BackpackItemSource
  quantity : Option Int := none
  transferable : Option Bool := none
  grantKey : String
  mediaUrl : Option String := none
  expiresAt : Option (Option Nat) := none
  deriving DecidableEq, Repr

/-- The expiry of an item that a grant is merged into. -/
def GrantItemInput.mergedExpiry (input : GrantItemInput) (now : Nat) (stored : Option Nat) :
    Option Nat :=
  match input.expiresAt, stored with
  | some none, _ => none
  | _, none => none
  | some (some added), some limit => some (extended now limit added)
  | none, some limit => some limit

def GrantItemInput.merged (input : GrantItemInput) (now : Nat) (item : BackpackItem) :
    BackpackItem :=
  { item with
    expiresAt := input.mergedExpiry now item.expiresAt
    transferable :=
      if input.source = .gift ∨ input.transferable = some false then false else item.transferable
    quantity := item.quantity + input.quantity.getD 1
    mediaUrl := input.mediaUrl.getD item.mediaUrl }

def GrantItemInput.item (input : GrantItemInput) : BackpackItem :=
  { id := 0
    userId := input.userId
    type := input.type
    refId := input.refId
    name := input.name
    source := input.source
    quantity := input.quantity.getD 1
    transferable := input.transferable.getD false
    grantKey := input.grantKey
    mediaUrl := input.mediaUrl.getD ""
    expiresAt := input.expiresAt.join }

namespace Tables

/-- The item a grant adds to. -/
def grantedTo (tables : Tables) (now : Nat) (input : GrantItemInput) : Option BackpackItem :=
  (refOf input.refId).bind fun refId => tables.findByUserIdAndRefId input.userId refId now

def grant (tables : Tables) (now : Nat) (input : GrantItemInput) : Tables :=
  if (tables.findByGrantKey input.grantKey).isSome then tables
  else
    match tables.grantedTo now input with
    | some existing => tables.updateItem existing.id (input.merged now)
    | none => (tables.create input.item).getD tables

end Tables

end Soulzaa.Backpacks
