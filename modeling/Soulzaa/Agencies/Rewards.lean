/-
The reward shelf of an agency.

`distribute` looks its idempotency key up among the distributions of all agencies, checks the
membership, and in one transaction takes the stock, grants the backpack item and writes the
distribution.  Calls run side by side, each a step for a read or a transaction.
-/

import Mathlib.Data.Rat.Floor
import Soulzaa.Lib.KeyedRows
import Soulzaa.Lib.Runs
import Soulzaa.Lib.UniqueTable

namespace Soulzaa.Agencies

abbrev AgencyId := String
abbrev UserId := String
abbrev InventoryId := String

/-! ### Tables -/

structure AgencyRewardInventory where
  id : InventoryId
  agencyId : AgencyId
  itemType : String
  refId : Option String
  name : String
  quantity : Int
  distributedTotal : Int := 0
  expiresAt : Option Nat := none
  deriving DecidableEq, Repr

inductive AgencyRewardKind where
  | assigned
  | owned
  deriving DecidableEq, Repr

structure BackpackItem where
  id : Nat
  userId : UserId
  type : String
  refId : Option String
  name : String
  quantity : Int
  transferable : Bool
  grantKey : String
  expiresAt : Option Nat
  agencyId : AgencyId
  distributionKind : AgencyRewardKind
  deriving DecidableEq, Repr

structure AgencyRewardDistribution where
  agencyId : AgencyId
  inventoryId : InventoryId
  recipientId : UserId
  itemType : String
  refId : Option String
  name : String
  quantity : Int
  kind : AgencyRewardKind
  backpackItemId : Nat
  idempotencyKey : String
  note : Option String
  deriving DecidableEq, Repr

structure Tables where
  inventory : List AgencyRewardInventory
  backpack : UniqueTable BackpackItem.grantKey
  distributions : UniqueTable AgencyRewardDistribution.idempotencyKey

/-! ### AgencyRewardService.distribute -/

structure DistributeInput where
  inventoryId : InventoryId
  recipientId : UserId
  quantity : Rat
  kind : Option AgencyRewardKind := none
  note : Option String := none
  idempotencyKey : String
  deriving DecidableEq, Repr

def DistributeInput.units (input : DistributeInput) : Int :=
  ⌊input.quantity⌋

def DistributeInput.givenKind (input : DistributeInput) : AgencyRewardKind :=
  input.kind.getD .assigned

inductive DistributeFailure where
  | validationError (message : String)
  | insufficientBalance (message : String)
  | notFound (message : String)
  | uniqueConstraint
  | databaseError
  deriving DecidableEq, Repr

namespace Tables

def findShelf (tables : Tables) (id : InventoryId) (agencyId : AgencyId) :
    Option AgencyRewardInventory :=
  tables.inventory.find? fun shelf => shelf.id = id ∧ shelf.agencyId = agencyId

def takeStock (units : Int) (shelf : AgencyRewardInventory) : AgencyRewardInventory :=
  { shelf with
    quantity := shelf.quantity - units
    distributedTotal := shelf.distributedTotal + units }

/-- The copy the recipient gets; an assigned one stays with the recipient. -/
def grantedItem (tables : Tables) (agencyId : AgencyId) (input : DistributeInput)
    (shelf : AgencyRewardInventory) : BackpackItem :=
  { id := tables.backpack.rows.length
    userId := input.recipientId
    type := shelf.itemType
    refId := shelf.refId
    name := shelf.name
    quantity := input.units
    transferable := input.givenKind = .owned
    grantKey := s!"agency:{agencyId}:{input.idempotencyKey}"
    expiresAt := shelf.expiresAt
    agencyId := agencyId
    distributionKind := input.givenKind }

def distribution (tables : Tables) (agencyId : AgencyId) (input : DistributeInput)
    (shelf : AgencyRewardInventory) : AgencyRewardDistribution :=
  { agencyId := agencyId
    inventoryId := shelf.id
    recipientId := input.recipientId
    itemType := shelf.itemType
    refId := shelf.refId
    name := shelf.name
    quantity := input.units
    kind := input.givenKind
    backpackItemId := tables.backpack.rows.length
    idempotencyKey := input.idempotencyKey
    note := input.note }

/-- The transaction.  The shelf is locked before it is read, so it stands until the commit. -/
def send (tables : Tables) (now : Nat) (agencyId : AgencyId) (input : DistributeInput) :
    Tables × Except DistributeFailure AgencyRewardDistribution :=
  match tables.findShelf input.inventoryId agencyId with
  | none => (tables, .error (.notFound "Reward not found in your inventory"))
  | some shelf =>
      if shelf.quantity < input.units then
        (tables, .error (.insufficientBalance
          s!"Only {shelf.quantity} of {shelf.name} left in your inventory"))
      else if shelf.expiresAt.any fun limit => limit < now then
        (tables, .error (.validationError
          s!"{shelf.name} has expired and can no longer be distributed"))
      else
        let row := tables.distribution agencyId input shelf
        match tables.backpack.create (tables.grantedItem agencyId input shelf),
            tables.distributions.create row with
        | some backpack, some distributions =>
            ({ inventory := KeyedRows.update AgencyRewardInventory.id shelf.id
                (takeStock input.units) tables.inventory
               backpack := backpack
               distributions := distributions },
              .ok row)
        | _, _ => (tables, .error .uniqueConstraint)

end Tables

/-! ### Calls under way -/

inductive Point where
  | looking
  | checkingMembership
  | sending
  | done (outcome : Except DistributeFailure AgencyRewardDistribution)
  deriving DecidableEq

structure Call where
  agencyId : AgencyId
  input : DistributeInput
  point : Point
  deriving DecidableEq

structure World where
  tables : Tables
  /-- The hosts with an ACTIVE relationship. -/
  members : List (AgencyId × UserId)
  calls : List Call

inductive Happening where
  | distribute (agencyId : AgencyId) (input : DistributeInput)
  | goOn (position : Nat) (now : Nat)
  /-- A database error ends a call. -/
  | fail (position : Nat)
  | membership (agencyId : AgencyId) (hostId : UserId) (active : Bool)

namespace World

def begin (agencyId : AgencyId) (input : DistributeInput) : Call :=
  { agencyId := agencyId
    input := input
    point :=
      if input.units < 1 then .done (.error (.validationError "Quantity must be at least 1"))
      else .looking }

def moveTo (world : World) (position : Nat) (call : Call) (point : Point) : World :=
  { world with calls := world.calls.set position { call with point := point } }

def goOn (world : World) (position : Nat) (now : Nat) (call : Call) : World :=
  match call.point with
  | .looking =>
      match world.tables.distributions.find? call.input.idempotencyKey with
      | some existing => world.moveTo position call (.done (.ok existing))
      | none => world.moveTo position call .checkingMembership
  | .checkingMembership =>
      if (call.agencyId, call.input.recipientId) ∈ world.members then
        world.moveTo position call .sending
      else
        world.moveTo position call
          (.done (.error (.notFound "This user is not a member of your agency")))
  | .sending =>
      let (tables, outcome) := world.tables.send now call.agencyId call.input
      { world with tables := tables }.moveTo position call (.done outcome)
  | .done _ => world

def step (world : World) : Happening → World
  | .distribute agencyId input =>
      { world with calls := world.calls ++ [begin agencyId input] }
  | .goOn position now =>
      match world.calls[position]? with
      | none => world
      | some call => world.goOn position now call
  | .fail position =>
      match world.calls[position]? with
      | none => world
      | some call =>
          match call.point with
          | .done _ => world
          | _ => world.moveTo position call (.done (.error .databaseError))
  | .membership agencyId hostId active =>
      { world with
        members :=
          if active then (agencyId, hostId) :: world.members
          else world.members.filter fun pair => pair ≠ (agencyId, hostId) }

end World

end Soulzaa.Agencies
