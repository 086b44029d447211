/-
The fees of a family: what is charged for a family that is made, or renamed.

The fee is debited before the row is written, under a key that names the user or the family and
the millisecond.  The table may still refuse the row: for its name, for its tag, which nothing has
looked up, or for its founder.
-/

import Soulzaa.Families.Tables

namespace Soulzaa.Families

/-- Another family may not have the name. -/
def Tables.updateName (tables : Tables) (familyId : FamilyId) (name : String) : Option Tables :=
  if familyId ∈ tables.families.map Family.id ∧
      ∀ family ∈ tables.families, family.id ≠ familyId → family.name ≠ name then
    some { tables with
      families := KeyedRows.update Family.id familyId
        (fun family => { family with name := name }) tables.families }
  else none

namespace Fees

/-! ### Calls -/

inductive FeeKey where
  | create (creatorId : UserId) (now : Nat)
  | rename (familyId : FamilyId) (now : Nat)
  deriving DecidableEq, Repr

/-- What a step reads outside: the clock, the configuration, and whether the statement is
answered. -/
structure Surroundings where
  now : Nat := 0
  creationCost : Int := 1000
  renameCost : Int := 500
  maxMembers : Int := 100
  answered : Bool := true
  deriving DecidableEq, Repr

inductive FeeCall where
  | createFindMember (creatorId : UserId) (name : String) (privacy : Privacy)
  | createFindName (creatorId : UserId) (name : String) (privacy : Privacy)
  | createDebiting (creatorId : UserId) (name : String) (privacy : Privacy)
  /-- The fee that was due, and what was charged. -/
  | creating (creatorId : UserId) (name : String) (privacy : Privacy) (maxMembers due charged : Int)
  | updateGet (userId : UserId) (familyId : FamilyId) (name : Option String)
  | updateFindMember (userId : UserId) (family : Family) (name : Option String)
  | renameDebiting (userId : UserId) (familyId : FamilyId) (name : String)
  | updating (userId : UserId) (familyId : FamilyId) (name : String) (due charged : Int)
  | finished
  deriving DecidableEq, Repr

/-- What has become of a call. -/
structure Receipt where
  userId : UserId
  due : Int
  charged : Int
  /-- The family was created with its founder, or renamed. -/
  done : Bool
  deriving DecidableEq, Repr

structure World where
  tables : Tables
  gold : UserId → Int
  keys : List FeeKey := []
  calls : List FeeCall := []
  receipts : List Receipt := []

inductive Event where
  | create (creatorId : UserId) (name : String) (autoAccept : Bool)
  | update (userId : UserId) (familyId : FamilyId) (name : Option String)
  | goOn (position : Nat) (surroundings : Surroundings)
  /-- Other calls change the tables and the balances. -/
  | others (tables : Tables) (gold : UserId → Int)

def mayEdit (role : String) : Bool :=
  role.toUpper ∈ ["FOUNDER", "CO_FOUNDER", "LEADER", "CO_LEADER", "OWNER", "ADMIN", "ELDER"]

namespace World

def put (world : World) (position : Nat) (call : FeeCall) : World :=
  { world with calls := world.calls.set position call }

/-- The call ends. -/
def ended (world : World) (position : Nat) (receipt : Receipt) : World :=
  { world.put position .finished with receipts := receipt :: world.receipts }

/-- A key that was used before is answered without a charge. -/
def debit (world : World) (answered : Bool) (userId : UserId) (amount : Int) (key : FeeKey) :
    Option World :=
  if answered = false then none
  else if key ∈ world.keys then some world
  else if world.gold userId < amount then none
  else
    some { world with
      gold := Function.update world.gold userId (world.gold userId - amount)
      keys := key :: world.keys }

/-- A fee that is not positive is not asked for. -/
def charge (world : World) (position : Nat) (answered : Bool) (userId : UserId) (cost : Int)
    (key : FeeKey) (next : Int → Int → FeeCall) : World :=
  if 0 < cost then
    match world.debit answered userId cost key with
    | none => world.ended position ⟨userId, cost, 0, false⟩
    | some debited =>
        debited.put position (next cost (world.gold userId - debited.gold userId))
  else world.put position (next 0 0)

/-- The row is written, or the call fails. -/
def settle (world : World) (position : Nat) (userId : UserId) (due charged : Int)
    (written : Option Tables) : World :=
  { world with tables := written.getD world.tables }.ended position
    ⟨userId, due, charged, written.isSome⟩

def goOn (world : World) (position : Nat) (surroundings : Surroundings) : FeeCall → World
  | .createFindMember creatorId name privacy =>
      match world.tables.findMemberByUserId creatorId with
      | some _ => world.ended position ⟨creatorId, 0, 0, false⟩
      | none => world.put position (.createFindName creatorId name privacy)
  | .createFindName creatorId name privacy =>
      match world.tables.findByName name with
      | some _ => world.ended position ⟨creatorId, 0, 0, false⟩
      | none => world.put position (.createDebiting creatorId name privacy)
  | .createDebiting creatorId name privacy =>
      let maxMembers := if surroundings.maxMembers = 0 then 100 else surroundings.maxMembers
      world.charge position surroundings.answered creatorId surroundings.creationCost
        (.create creatorId surroundings.now) (.creating creatorId name privacy maxMembers)
  | .creating creatorId name privacy maxMembers due charged =>
      world.settle position creatorId due charged
        (if surroundings.answered then
          world.tables.createFamily surroundings.now name creatorId maxMembers privacy
        else none)
  | .updateGet userId familyId name =>
      match world.tables.findById familyId with
      | none => world.ended position ⟨userId, 0, 0, false⟩
      | some family => world.put position (.updateFindMember userId family name)
  | .updateFindMember userId family name =>
      let member := world.tables.findMemberByUserId userId
      let refused := family.founderId ≠ userId ∧
        ¬member.any fun row => row.familyId = family.id ∧ mayEdit row.role
      match name with
      | none => world.ended position ⟨userId, 0, 0, false⟩
      | some name =>
          if refused ∨ name = family.name then world.ended position ⟨userId, 0, 0, false⟩
          else world.put position (.renameDebiting userId family.id name)
  | .renameDebiting userId familyId name =>
      world.charge position surroundings.answered userId surroundings.renameCost
        (.rename familyId surroundings.now) (.updating userId familyId name)
  | .updating userId familyId name due charged =>
      world.settle position userId due charged
        (if surroundings.answered then world.tables.updateName familyId name else none)
  | .finished => world

def step (world : World) : Event → World
  | .create creatorId name autoAccept =>
      { world with
        calls := world.calls ++
          [.createFindMember creatorId name (if autoAccept then .isPublic else .isPrivate)] }
  | .update userId familyId name =>
      { world with calls := world.calls ++ [.updateGet userId familyId name] }
  | .goOn position surroundings =>
      world.goOn position surroundings (world.calls[position]?.getD .finished)
  | .others tables gold => { world with tables := tables, gold := gold }

/-! ### The property -/

/-- A call was charged its fee where it has made or renamed its family, and nothing where not. -/
def ChargedForDone (world : World) : Prop :=
  ∀ receipt ∈ world.receipts, receipt.charged = if receipt.done then receipt.due else 0

/-- Name and tag are free, and the founder is no member. -/
def Accepts (world : World) (surroundings : Surroundings) : FeeCall → Prop
  | .creating creatorId name _ _ _ _ =>
      surroundings.answered = true ∧ name ∉ world.tables.families.map Family.name ∧
        tagOf name ∉ world.tables.families.map Family.tag ∧
        creatorId ∉ world.tables.members.map FamilyMember.userId
  | .updating _ familyId name _ _ =>
      surroundings.answered = true ∧ familyId ∈ world.tables.families.map Family.id ∧
        ∀ family ∈ world.tables.families, family.id ≠ familyId → family.name ≠ name
  | _ => True

/-- The fee, where there is one, was taken exactly of a call whose row is accepted. -/
def Fits (world : World) (surroundings : Surroundings) : FeeCall → Prop
  | .creating creatorId name privacy maxMembers due charged =>
      due = 0 ∨ (charged = due ↔
        world.Accepts surroundings (.creating creatorId name privacy maxMembers due charged))
  | .updating userId familyId name due charged =>
      due = 0 ∨ (charged = due ↔
        world.Accepts surroundings (.updating userId familyId name due charged))
  | _ => True

def Permitted (world : World) : Event → Prop
  | .goOn position surroundings =>
      world.Fits surroundings (world.calls[position]?.getD .finished)
  | _ => True

/-! ### What the tables accept -/

theorem createFamily_isSome_iff (tables : Tables) (now : Nat) (name : String) (founderId : UserId)
    (maxMembers : Int) (privacy : Privacy) :
    (tables.createFamily now name founderId maxMembers privacy).isSome = true ↔
      name ∉ tables.families.map Family.name ∧ tagOf name ∉ tables.families.map Family.tag ∧
        founderId ∉ tables.members.map FamilyMember.userId := by
  unfold Tables.createFamily Tables.insertMember
  dsimp only
  split
  · rename_i taken
    refine iff_of_false Bool.false_ne_true ?_
    intro free
    exact taken.elim free.1 free.2.1
  · rename_i free
    rw [not_or] at free
    rw [Option.isSome_map]
    split
    · rename_i isMember
      exact iff_of_false Bool.false_ne_true fun free => free.2.2 isMember
    · rename_i isNone
      exact iff_of_true rfl ⟨free.1, free.2, isNone⟩

theorem updateName_isSome_iff (tables : Tables) (familyId : FamilyId) (name : String) :
    (tables.updateName familyId name).isSome = true ↔
      familyId ∈ tables.families.map Family.id ∧
        ∀ family ∈ tables.families, family.id ≠ familyId → family.name ≠ name := by
  unfold Tables.updateName
  split
  · rename_i accepted
    exact iff_of_true rfl accepted
  · rename_i refused
    exact iff_of_false Bool.false_ne_true refused

/-! ### Charges -/

/-- What was charged is the fee or nothing. -/
def Charged : FeeCall → Prop
  | .creating _ _ _ _ due charged => charged = due ∨ charged = 0
  | .updating _ _ _ due charged => charged = due ∨ charged = 0
  | _ => True

def Sound (world : World) : Prop := ∀ call ∈ world.calls, Charged call

variable {world : World} {position : Nat} {surroundings : Surroundings}

theorem Sound.put (sound : world.Sound) {call : FeeCall} (charged : Charged call) :
    (world.put position call).Sound := by
  intro other member
  rcases List.mem_or_eq_of_mem_set member with before | rfl
  · exact sound other before
  · exact charged

theorem chargedForDone_ended (receipt : Receipt) :
    (world.ended position receipt).ChargedForDone ↔
      receipt.charged = (if receipt.done then receipt.due else 0) ∧ world.ChargedForDone :=
  List.forall_mem_cons

theorem Sound.ended (sound : world.Sound) (receipt : Receipt) :
    (world.ended position receipt).Sound :=
  sound.put (show Charged .finished from trivial)

theorem Sound.settle (sound : world.Sound) {userId : UserId} {due charged : Int}
    {written : Option Tables} : (world.settle position userId due charged written).Sound := by
  have same : World.Sound { world with tables := written.getD world.tables } := sound
  exact same.ended _

section Charge

variable {answered : Bool} {userId : UserId} {cost : Int} {key : FeeKey}
  {next : Int → Int → FeeCall}

/-- A debit takes the amount, or nothing. -/
theorem debit_spec {amount : Int} {debited : World}
    (isDebited : world.debit answered userId amount key = some debited) :
    debited.calls = world.calls ∧ debited.receipts = world.receipts ∧
      (world.gold userId - debited.gold userId = amount ∨
        world.gold userId - debited.gold userId = 0) := by
  unfold debit at isDebited
  split at isDebited
  · cases isDebited
  split at isDebited
  · cases isDebited
    exact ⟨rfl, rfl, Or.inr (Int.sub_self _)⟩
  split at isDebited
  · cases isDebited
  · cases isDebited
    refine ⟨rfl, rfl, Or.inl ?_⟩
    dsimp only
    rw [Function.update_self]
    omega

theorem Sound.charge (sound : world.Sound)
    (charged : ∀ due taken, taken = due ∨ taken = 0 → Charged (next due taken)) :
    (world.charge position answered userId cost key next).Sound := by
  unfold World.charge
  split
  · split
    · exact sound.ended _
    · rename_i debited isDebited
      obtain ⟨calls, _, taken⟩ := debit_spec isDebited
      have soundDebited : debited.Sound := by
        intro call member
        rw [calls] at member
        exact sound call member
      exact soundDebited.put (charged _ _ taken)
  · exact sound.put (charged 0 0 (Or.inl rfl))

/-- A call that is only charged leaves the receipts as they should be. -/
theorem chargedForDone_charge (holds : world.ChargedForDone) :
    (world.charge position answered userId cost key next).ChargedForDone := by
  unfold World.charge
  split
  · split
    · exact (chargedForDone_ended _).mpr ⟨rfl, holds⟩
    · rename_i debited isDebited
      obtain ⟨_, receipts, _⟩ := debit_spec isDebited
      intro receipt member
      have inside : receipt ∈ debited.receipts := member
      rw [receipts] at inside
      exact holds receipt inside
  · exact holds

end Charge

/-- A row that is written or refused settles its charge as it fits. -/
theorem chargedForDone_settle_iff (holds : world.ChargedForDone) {userId : UserId}
    {due charged : Int} (either : charged = due ∨ charged = 0) {written : Option Tables}
    {accepts : Prop} (isAccepted : written.isSome = true ↔ accepts) :
    (world.settle position userId due charged written).ChargedForDone ↔
      due = 0 ∨ (charged = due ↔ accepts) := by
  have settled : (world.settle position userId due charged written).ChargedForDone ↔
      charged = (if written.isSome = true then due else 0) ∧ world.ChargedForDone :=
    chargedForDone_ended _
  rw [settled, and_iff_left holds, ← isAccepted]
  by_cases accepted : written.isSome = true
  · rw [if_pos accepted, iff_true_right accepted]
    omega
  · rw [if_neg accepted, iff_false_right accepted]
    omega

theorem Sound.goOn (sound : world.Sound) (call : FeeCall) :
    (world.goOn position surroundings call).Sound := by
  cases call with
  | createFindMember creatorId name privacy =>
      dsimp only [World.goOn]
      split
      · exact sound.ended _
      · exact sound.put trivial
  | createFindName creatorId name privacy =>
      dsimp only [World.goOn]
      split
      · exact sound.ended _
      · exact sound.put trivial
  | createDebiting creatorId name privacy => exact sound.charge fun _ _ taken => taken
  | creating creatorId name privacy maxMembers due charged => exact sound.settle
  | updateGet userId familyId name =>
      dsimp only [World.goOn]
      split
      · exact sound.ended _
      · exact sound.put trivial
  | updateFindMember userId family name =>
      dsimp only [World.goOn]
      split
      · exact sound.ended _
      · split
        · exact sound.ended _
        · exact sound.put trivial
  | renameDebiting userId familyId name => exact sound.charge fun _ _ taken => taken
  | updating userId familyId name due charged => exact sound.settle
  | finished => exact sound

theorem Sound.step (sound : world.Sound) (event : Event) : (world.step event).Sound := by
  have concat : ∀ call, Charged call →
      World.Sound { world with calls := world.calls ++ [call] } := by
    intro call charged other member
    rcases List.mem_append.mp member with before | isLast
    · exact sound other before
    · rw [List.mem_singleton.mp isLast]
      exact charged
  cases event with
  | create creatorId name autoAccept => exact concat _ trivial
  | update userId familyId name => exact concat _ trivial
  | goOn position surroundings => exact sound.goOn _
  | others tables gold => exact sound

theorem chargedForDone_goOn_iff (holds : world.ChargedForDone) {call : FeeCall}
    (charged : Charged call) :
    (world.goOn position surroundings call).ChargedForDone ↔ world.Fits surroundings call := by
  have ends : ∀ userId, (world.ended position ⟨userId, 0, 0, false⟩).ChargedForDone :=
    fun _ => (chargedForDone_ended _).mpr ⟨rfl, holds⟩
  cases call with
  | createFindMember creatorId name privacy =>
      refine iff_of_true ?_ trivial
      dsimp only [World.goOn]
      split
      · exact ends creatorId
      · exact holds
  | createFindName creatorId name privacy =>
      refine iff_of_true ?_ trivial
      dsimp only [World.goOn]
      split
      · exact ends creatorId
      · exact holds
  | createDebiting creatorId name privacy =>
      exact iff_of_true (chargedForDone_charge holds) trivial
  | creating creatorId name privacy maxMembers due taken =>
      apply chargedForDone_settle_iff holds charged
      unfold Accepts
      dsimp only
      rw [← createFamily_isSome_iff world.tables surroundings.now name creatorId maxMembers privacy]
      split
      · rename_i answered
        exact (and_iff_right answered).symm
      · rename_i failed
        exact iff_of_false Bool.false_ne_true fun both => failed both.1
  | updateGet userId familyId name =>
      refine iff_of_true ?_ trivial
      dsimp only [World.goOn]
      split
      · exact ends userId
      · exact holds
  | updateFindMember userId family name =>
      refine iff_of_true ?_ trivial
      dsimp only [World.goOn]
      split
      · exact ends userId
      · split
        · exact ends userId
        · exact holds
  | renameDebiting userId familyId name =>
      exact iff_of_true (chargedForDone_charge holds) trivial
  | updating userId familyId name due taken =>
      apply chargedForDone_settle_iff holds charged
      unfold Accepts
      dsimp only
      rw [← updateName_isSome_iff world.tables familyId name]
      split
      · rename_i answered
        exact (and_iff_right answered).symm
      · rename_i failed
        exact iff_of_false Bool.false_ne_true fun both => failed both.1
  | finished => exact iff_of_true holds trivial

end World
end Fees
end Soulzaa.Families
