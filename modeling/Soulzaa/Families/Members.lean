/-
How many members a family has, and whose family a call may touch.

The calls of any users run side by side.  A family is full when it is read and filled later, and a
membership is read in one family and deleted in whichever it is by then.
-/

import Soulzaa.Families.Tables

namespace Soulzaa.Families

namespace Tables

/-- The rows of a family's members. -/
def countMembers (tables : Tables) (familyId : FamilyId) : Nat :=
  tables.members.countP fun member => member.familyId = familyId

structure Sound (tables : Tables) : Prop where
  single : (tables.members.map FamilyMember.userId).Nodup
  counted : ∀ family ∈ tables.families, family.memberCount = tables.countMembers family.id
  limited : ∀ family ∈ tables.families, family.memberCount ≤ family.maxMembers

/-- A user who is not a member may become one only while there is room. -/
def HasRoom (tables : Tables) (familyId : FamilyId) (userId : UserId) : Prop :=
  userId ∉ tables.members.map FamilyMember.userId → ∀ family ∈ tables.findById familyId,
    family.memberCount < family.maxMembers

/-- The member whose row is to be deleted is still one of the family. -/
def StillIn (tables : Tables) (familyId : FamilyId) (userId : UserId) : Prop :=
  (tables.findById familyId).isSome → ∀ member ∈ tables.findMemberByUserId userId,
    member.familyId = familyId

def IsNew (tables : Tables) (name : String) (creatorId : UserId) : Prop :=
  name ∉ tables.families.map Family.name ∧ tagOf name ∉ tables.families.map Family.tag ∧
    creatorId ∉ tables.members.map FamilyMember.userId

/-- What a transaction relies on still stands when it is made. -/
def Guarded (tables : Tables) : Point → Prop
  | .creating creatorId name _ maxMembers => tables.IsNew name creatorId → 1 ≤ maxMembers
  | .adding userId familyId _ => tables.HasRoom familyId userId
  | .accepting _ request =>
      (tables.findRequestById request.id).isSome → tables.HasRoom request.familyId request.userId
  | .leaving userId familyId => tables.StillIn familyId userId
  | .kicking _ familyId kickUserId => tables.StillIn familyId kickUserId
  | _ => True

/-! ### What one step makes of the families and their members -/

def memberOf (tables : Tables) (familyId : FamilyId) (userId : UserId) (role : String) :
    FamilyMember :=
  { id := tables.nextId
    familyId := familyId
    userId := userId
    role := if role = "" then "MEMBER" else role }

/-- One more member of a family, or one fewer. -/
def counting (familyId : FamilyId) (increment : Int) (families : List Family) : List Family :=
  KeyedRows.update Family.id familyId
    (fun family => { family with memberCount := family.memberCount + increment }) families

/-- A role written into the row with the id. -/
def writing (memberId : MemberId) (role : String) (members : List FamilyMember) :
    List FamilyMember :=
  KeyedRows.update FamilyMember.id memberId (fun member => { member with role := role }) members

/-- The role under which a point lets a user into a family. -/
inductive Admits (outside : Outside) : Point → FamilyId → UserId → String → Prop where
  | join (userId : UserId) (familyId : FamilyId) (role : String) :
      Admits outside (.adding userId familyId role) familyId userId role
  | accept (actorId : UserId) (request : FamilyJoinRequest) :
      Admits outside (.accepting actorId request) request.familyId request.userId
        outside.config.defaultRole

/-- The user whose row a point deletes, and the family it names. -/
inductive Removes : Point → FamilyId → UserId → Prop where
  | leave (userId : UserId) (familyId : FamilyId) :
      Removes (.leaving userId familyId) familyId userId
  | kick (actorId : UserId) (familyId : FamilyId) (kickUserId : UserId) :
      Removes (.kicking actorId familyId kickUserId) familyId kickUserId

/-- The member whose role a point writes. -/
inductive Writes : Point → FamilyMember → String → Prop where
  | promote (actor target : FamilyMember) (role : String) :
      Writes (.promoting actor target role) target role
  | succeed (transfer : Transfer) (actorMember targetMember : FamilyMember) :
      Writes (.succeeding transfer actorMember targetMember) targetMember "FOUNDER"
  | stepDown (transfer : Transfer) (actorMember targetMember : FamilyMember) :
      Writes (.steppingDown transfer actorMember targetMember) actorMember "CO_FOUNDER"

inductive Change (tables : Tables) (outside : Outside) : Point → Tables → Prop where
  /-- A read, a write elsewhere, or a transaction that throws. -/
  | kept {point : Point} {after : Tables} (families : after.families = tables.families)
      (members : after.members = tables.members) (nextId : tables.nextId ≤ after.nextId)
      (guarded : tables.Guarded point) : Change tables outside point after
  | created {creatorId : UserId} {name : String} {privacy : Privacy} {maxMembers : Int}
      {after : Tables} (isNew : tables.IsNew name creatorId)
      (families : after.families = tables.families ++
        [{ id := tables.nextId
           name := name
           tag := tagOf name
           founderId := creatorId
           maxMembers := maxMembers
           privacy := privacy }])
      (members : after.members = tables.members ++
        [{ id := tables.nextId + 1
           familyId := tables.nextId
           userId := creatorId
           role := "FOUNDER" }])
      (nextId : after.nextId = tables.nextId + 2) :
      Change tables outside (.creating creatorId name privacy maxMembers) after
  | admitted {point : Point} {familyId : FamilyId} {userId : UserId} {role : String}
      {family : Family} {after : Tables} (admits : Admits outside point familyId userId role)
      (isNew : userId ∉ tables.members.map FamilyMember.userId)
      (found : tables.findById familyId = some family)
      (families : after.families = counting familyId 1 tables.families)
      (members : after.members = tables.members ++ [tables.memberOf familyId userId role])
      (nextId : after.nextId = tables.nextId + 1)
      (guarded : tables.Guarded point ↔ tables.HasRoom familyId userId) :
      Change tables outside point after
  | removed {point : Point} {familyId : FamilyId} {userId : UserId} {family : Family}
      {member : FamilyMember} {after : Tables} (removes : Removes point familyId userId)
      (found : tables.findById familyId = some family)
      (isMember : tables.findMemberByUserId userId = some member)
      (families : after.families = counting familyId (-1) tables.families)
      (members : after.members = tables.members.filter fun other => other.userId ≠ userId)
      (nextId : after.nextId = tables.nextId)
      (guarded : tables.Guarded point ↔ tables.StillIn familyId userId) :
      Change tables outside point after
  | written {point : Point} {member : FamilyMember} {role : String} {after : Tables}
      (writes : Writes point member role)
      (isMember : member.id ∈ tables.members.map FamilyMember.id)
      (families : after.families = tables.families)
      (members : after.members = writing member.id role tables.members)
      (nextId : after.nextId = tables.nextId) (guarded : tables.Guarded point) :
      Change tables outside point after
  | named {transfer : Transfer} {family : Family} {after : Tables}
      (found : tables.findById transfer.familyId = some family)
      (families : after.families = KeyedRows.update Family.id transfer.familyId
        (fun family => { family with founderId := transfer.userId }) tables.families)
      (members : after.members = tables.members) (nextId : after.nextId = tables.nextId) :
      Change tables outside (.naming transfer) after
  | disbanded {actorId : UserId} {familyId : FamilyId} {after : Tables}
      (families : after.families = tables.families.filter fun family => family.id ≠ familyId)
      (members : after.members = tables.members.filter fun member => member.familyId ≠ familyId)
      (nextId : after.nextId = tables.nextId) :
      Change tables outside (.deleting actorId familyId) after

variable {tables after inserted : Tables} {outside : Outside} {point next : Point}
  {familyId : FamilyId} {userId : UserId} {role message : String}

theorem insertMember_spec (insertion : tables.insertMember familyId userId role = some after) :
    userId ∉ tables.members.map FamilyMember.userId ∧
      after = { tables with
        members := tables.members ++ [tables.memberOf familyId userId role]
        nextId := tables.nextId + 1 } := by
  unfold insertMember at insertion
  split at insertion
  · cases insertion
  · rename_i isNew
    cases insertion
    exact ⟨isNew, rfl⟩

theorem incrementCount_spec {increment : Int}
    (incremented : tables.incrementCount familyId increment = some after) :
    ∃ family, tables.findById familyId = some family ∧
      after = { tables with families := counting familyId increment tables.families } := by
  obtain ⟨family, found, rfl⟩ := Option.map_eq_some_iff.mp incremented
  exact ⟨family, found, rfl⟩

theorem addMember_spec (added : tables.addMember familyId userId role = some after) :
    userId ∉ tables.members.map FamilyMember.userId ∧
      ∃ family, tables.findById familyId = some family ∧
        after = { tables with
          families := counting familyId 1 tables.families
          members := tables.members ++ [tables.memberOf familyId userId role]
          nextId := tables.nextId + 1 } := by
  obtain ⟨inserted, insertion, incremented⟩ := Option.bind_eq_some_iff.mp added
  obtain ⟨isNew, rfl⟩ := insertMember_spec insertion
  obtain ⟨family, found, rfl⟩ := incrementCount_spec incremented
  exact ⟨isNew, family, found, rfl⟩

/-- A member is not added who is one already, or to a family that is gone. -/
theorem addMember_eq_none (refused : tables.addMember familyId userId role = none) :
    userId ∉ tables.members.map FamilyMember.userId → tables.findById familyId = none := by
  intro isNew
  unfold addMember insertMember at refused
  rw [if_neg isNew] at refused
  exact Option.map_eq_none_iff.mp refused

theorem hasRoom_of_refused (refused : tables.addMember familyId userId role = none) :
    tables.HasRoom familyId userId := by
  intro isNew family isFamily
  rw [addMember_eq_none refused isNew] at isFamily
  cases isFamily

theorem change_creating (outside : Outside) (creatorId : UserId) (name : String)
    (privacy : Privacy) (maxMembers : Int) :
    tables.Change outside (.creating creatorId name privacy maxMembers)
      (tables.goOn outside (.creating creatorId name privacy maxMembers)).1 := by
  rw [goOn, orThrow.eq_def]
  cases created : tables.createFamily outside.now name creatorId maxMembers privacy with
  | none =>
      refine .kept rfl rfl (Nat.le_refl _) ?_
      rintro ⟨newName, newTag, newMember⟩
      unfold createFamily insertMember at created
      rw [if_neg (not_or.mpr ⟨newName, newTag⟩)] at created
      dsimp only at created
      rw [if_neg newMember] at created
      cases created
  | some after =>
      unfold createFamily at created
      split at created
      · cases created
      · rename_i isNew
        obtain ⟨inserted, insertion, rfl⟩ := Option.map_eq_some_iff.mp created
        obtain ⟨newMember, rfl⟩ := insertMember_spec insertion
        obtain ⟨newName, newTag⟩ := not_or.mp isNew
        exact .created ⟨newName, newTag, newMember⟩ rfl rfl rfl

theorem change_adding (outside : Outside) (userId : UserId) (familyId : FamilyId)
    (role : String) :
    tables.Change outside (.adding userId familyId role)
      (tables.goOn outside (.adding userId familyId role)).1 := by
  rw [goOn, orThrow.eq_def]
  cases added : tables.addMember familyId userId role with
  | none => exact .kept rfl rfl (Nat.le_refl _) (hasRoom_of_refused added)
  | some after =>
      obtain ⟨isNew, family, found, rfl⟩ := addMember_spec added
      exact .admitted (.join userId familyId role) isNew found rfl rfl rfl Iff.rfl

theorem change_accepting (outside : Outside) (actorId : UserId) (request : FamilyJoinRequest) :
    tables.Change outside (.accepting actorId request)
      (tables.goOn outside (.accepting actorId request)).1 := by
  rw [goOn, orThrow.eq_def]
  cases accepted : tables.acceptRequest outside.now request.id request.familyId request.userId
    actorId outside.config.defaultRole with
  | none =>
      refine .kept rfl rfl (Nat.le_refl _) fun isThere => ?_
      obtain ⟨row, found⟩ := Option.isSome_iff_exists.mp isThere
      unfold acceptRequest updateRequest at accepted
      rw [found] at accepted
      have room := hasRoom_of_refused (Option.map_eq_none_iff.mp accepted)
      exact room
  | some after =>
      obtain ⟨updated, update, added⟩ := Option.bind_eq_some_iff.mp accepted
      obtain ⟨row, found, rfl⟩ := Option.map_eq_some_iff.mp update
      obtain ⟨filled, filling, rfl⟩ := Option.map_eq_some_iff.mp added
      obtain ⟨isNew, family, isFamily, rfl⟩ := addMember_spec filling
      refine .admitted (.accept actorId request) isNew isFamily rfl rfl rfl ?_
      exact ⟨fun guarded => guarded (Option.isSome_iff_exists.mpr ⟨row, found⟩),
        fun room _ => room⟩

theorem change_removing {actorId : UserId} (removes : Removes point familyId userId)
    (guarded : tables.Guarded point ↔ tables.StillIn familyId userId) :
    tables.Change outside point
      (tables.orThrow (tables.removeMember outside.now familyId userId actorId) message
        next).1 := by
  rw [orThrow.eq_def]
  cases removed : tables.removeMember outside.now familyId userId actorId with
  | none =>
      refine .kept rfl rfl (Nat.le_refl _) (guarded.mpr fun isFamily member isMember => ?_)
      obtain ⟨family, found⟩ := Option.isSome_iff_exists.mp isFamily
      unfold removeMember incrementCount at removed
      rw [Option.mem_def.mp isMember] at removed
      have gone := Option.map_eq_none_iff.mp (Option.map_eq_none_iff.mp removed)
      exact absurd (gone.symm.trans found) nofun
  | some after =>
      obtain ⟨member, isMember, removal⟩ := Option.bind_eq_some_iff.mp removed
      obtain ⟨counted, counting, rfl⟩ := Option.map_eq_some_iff.mp removal
      obtain ⟨family, found, rfl⟩ := incrementCount_spec counting
      exact .removed removes found isMember rfl rfl rfl guarded

theorem change_writing {member : FamilyMember} (writes : Writes point member role)
    (guarded : tables.Guarded point) :
    tables.Change outside point
      (tables.orThrow (tables.updateMember member.id role) message next).1 := by
  rw [orThrow.eq_def]
  cases updated : tables.updateMember member.id role with
  | none => exact .kept rfl rfl (Nat.le_refl _) guarded
  | some after =>
      unfold updateMember at updated
      split at updated
      · rename_i isMember
        cases updated
        exact .written writes isMember rfl rfl rfl guarded
      · cases updated

theorem change_goOn (tables : Tables) (outside : Outside) (point : Point) :
    tables.Change outside point (tables.goOn outside point).1 := by
  have read : ∀ {next : Tables}, next = tables → tables.Guarded point →
      tables.Change outside point next := by
    rintro next rfl guarded
    exact .kept rfl rfl (Nat.le_refl _) guarded
  cases point with
  | creating creatorId name privacy maxMembers =>
      exact change_creating outside creatorId name privacy maxMembers
  | adding userId familyId role => exact change_adding outside userId familyId role
  | accepting actorId request => exact change_accepting outside actorId request
  | leaving userId familyId => exact change_removing (.leave userId familyId) Iff.rfl
  | kicking actorId familyId kickUserId =>
      exact change_removing (.kick actorId familyId kickUserId) Iff.rfl
  | promoting actor target role => exact change_writing (.promote actor target role) trivial
  | succeeding transfer actorMember targetMember =>
      exact change_writing (.succeed transfer actorMember targetMember) trivial
  | steppingDown transfer actorMember targetMember =>
      exact change_writing (.stepDown transfer actorMember targetMember) trivial
  | naming transfer =>
      rw [goOn, orThrow.eq_def]
      cases named : tables.updateFounder transfer.familyId transfer.userId with
      | none => exact .kept rfl rfl (Nat.le_refl _) trivial
      | some after =>
          obtain ⟨family, found, rfl⟩ := Option.map_eq_some_iff.mp named
          exact .named found rfl rfl rfl
  | deleting actorId familyId =>
      rw [goOn, orThrow.eq_def]
      cases deleted : tables.deleteFamily outside.now familyId actorId with
      | none => exact .kept rfl rfl (Nat.le_refl _) trivial
      | some after =>
          obtain ⟨family, found, rfl⟩ := Option.map_eq_some_iff.mp deleted
          exact .disbanded rfl rfl rfl
  | rejecting actorId request error =>
      rw [goOn, orThrow.eq_def]
      cases rejected : tables.rejectRequest outside.now request.id request.familyId actorId with
      | none => exact .kept rfl rfl (Nat.le_refl _) trivial
      | some after =>
          obtain ⟨updated, update, rfl⟩ := Option.map_eq_some_iff.mp rejected
          obtain ⟨row, found, rfl⟩ := Option.map_eq_some_iff.mp update
          exact .kept rfl rfl (Nat.le_refl _) trivial
  | requesting userId familyId => exact .kept rfl rfl (Nat.le_succ _) trivial
  | banning actorId familyId kickUserId => exact .kept rfl rfl (Nat.le_refl _) trivial
  | logging familyId userId action => exact .kept rfl rfl (Nat.le_refl _) trivial
  | joinGet userId familyId config => exact read rfl trivial
  | promoteFindTarget actor familyId userId role => exact read rfl trivial
  | done => exact read rfl trivial
  | failed message => exact read rfl trivial
  | _ =>
      refine read ?_ trivial
      rw [goOn]
      (repeat' split) <;> rfl

/-! ### Ids -/

/-- Ids are below the next one, and none is given twice. -/
structure Numbered (tables : Tables) : Prop where
  families : (tables.families.map Family.id).Nodup
  familyBelow : ∀ family ∈ tables.families, family.id < tables.nextId
  members : (tables.members.map FamilyMember.id).Nodup
  memberBelow : ∀ member ∈ tables.members, member.id < tables.nextId ∧
    member.familyId < tables.nextId
  single : (tables.members.map FamilyMember.userId).Nodup

theorem Numbered.find (numbered : tables.Numbered) {family : Family}
    (member : family ∈ tables.families) : tables.findById family.id = some family :=
  KeyedRows.find_of_mem numbered.families member

theorem ids_counting (increment : Int) (families : List Family) :
    (counting familyId increment families).map Family.id = families.map Family.id :=
  KeyedRows.keys_update fun _ => rfl

/-- A column besides the role. -/
theorem map_writing {Value : Type} {column : FamilyMember → Value} {memberId : MemberId}
    {members : List FamilyMember}
    (keeps : ∀ member : FamilyMember, column { member with role := role } = column member) :
    (writing memberId role members).map column = members.map column :=
  KeyedRows.map_update keeps

/-- What speaks of the ids of families alone. -/
theorem below_of_ids {families : List Family} (same : families.map Family.id =
    tables.families.map Family.id) (numbered : tables.Numbered) :
    ∀ family ∈ families, family.id < tables.nextId := by
  intro family member
  have isId : family.id ∈ tables.families.map Family.id := same ▸ List.mem_map_of_mem member
  obtain ⟨before, inside, sameId⟩ := List.mem_map.mp isId
  exact sameId ▸ numbered.familyBelow before inside

/-- A row is added that has a new id and a new user. -/
theorem Numbered.insert (numbered : tables.Numbered) {row : FamilyMember}
    (isNext : row.id = tables.nextId ∨ row.id = tables.nextId + 1)
    (isNew : row.userId ∉ tables.members.map FamilyMember.userId) :
    ((tables.members ++ [row]).map FamilyMember.id).Nodup ∧
      ((tables.members ++ [row]).map FamilyMember.userId).Nodup := by
  rw [List.map_append, List.map_append]
  constructor
  · refine List.Nodup.append numbered.members (List.nodup_singleton _)
      (List.disjoint_singleton.mpr fun taken => ?_)
    obtain ⟨other, inside, sameId⟩ := List.mem_map.mp taken
    have below := (numbered.memberBelow other inside).1
    rw [sameId] at below
    rcases isNext with isNext | isNext
    · exact Nat.lt_irrefl _ (isNext ▸ below)
    · exact Nat.not_lt.mpr (Nat.le_succ _) (isNext ▸ below)
  · exact List.Nodup.append numbered.single (List.nodup_singleton _)
      (List.disjoint_singleton.mpr isNew)

theorem isNext_memberOf (tables : Tables) (familyId : FamilyId) (userId : UserId)
    (role : String) : (tables.memberOf familyId userId role).id = tables.nextId ∨
      (tables.memberOf familyId userId role).id = tables.nextId + 1 :=
  Or.inl rfl

theorem Numbered.change (numbered : tables.Numbered) (change : tables.Change outside point after) :
    after.Numbered := by
  cases change with
  | kept families members nextId =>
      constructor
      · rw [families]
        exact numbered.families
      · intro family member
        rw [families] at member
        exact Nat.lt_of_lt_of_le (numbered.familyBelow family member) nextId
      · rw [members]
        exact numbered.members
      · intro row member
        rw [members] at member
        obtain ⟨idBelow, familyBelow⟩ := numbered.memberBelow row member
        exact ⟨Nat.lt_of_lt_of_le idBelow nextId, Nat.lt_of_lt_of_le familyBelow nextId⟩
      · rw [members]
        exact numbered.single
  | created isNew families members nextId =>
      constructor
      · rw [families, List.map_append]
        refine List.Nodup.append numbered.families (List.nodup_singleton _)
          (List.disjoint_singleton.mpr fun taken => ?_)
        obtain ⟨other, inside, sameId⟩ := List.mem_map.mp taken
        exact Nat.ne_of_lt (numbered.familyBelow other inside) sameId
      · intro family member
        rw [families] at member
        rw [nextId]
        rcases List.mem_append.mp member with earlier | isRow
        · exact Nat.lt_add_right 2 (numbered.familyBelow family earlier)
        · rw [List.mem_singleton.mp isRow]
          exact Nat.lt_add_of_pos_right (by decide)
      · rw [members]
        exact (numbered.insert (Or.inr rfl) isNew.2.2).1
      · intro row member
        rw [members] at member
        rw [nextId]
        rcases List.mem_append.mp member with earlier | isRow
        · obtain ⟨idBelow, familyBelow⟩ := numbered.memberBelow row earlier
          exact ⟨Nat.lt_add_right 2 idBelow, Nat.lt_add_right 2 familyBelow⟩
        · rw [List.mem_singleton.mp isRow]
          exact ⟨Nat.lt_succ_self _, Nat.lt_add_of_pos_right (by decide)⟩
      · rw [members]
        exact (numbered.insert (Or.inr rfl) isNew.2.2).2
  | @admitted _ familyId userId role family _ admits isNew found families members nextId =>
      have sameIds := @ids_counting familyId 1 tables.families
      constructor
      · rw [families, sameIds]
        exact numbered.families
      · intro other member
        rw [families] at member
        rw [nextId]
        exact Nat.lt_succ_of_lt (below_of_ids sameIds numbered other member)
      · rw [members]
        exact (numbered.insert (isNext_memberOf tables familyId userId role) isNew).1
      · intro row member
        rw [members] at member
        rw [nextId]
        rcases List.mem_append.mp member with earlier | isRow
        · obtain ⟨idBelow, familyBelow⟩ := numbered.memberBelow row earlier
          exact ⟨Nat.lt_succ_of_lt idBelow, Nat.lt_succ_of_lt familyBelow⟩
        · rw [List.mem_singleton.mp isRow]
          have below := numbered.familyBelow family (KeyedRows.mem_of_find found)
          rw [KeyedRows.key_of_find found] at below
          exact ⟨Nat.lt_succ_self _, Nat.lt_succ_of_lt below⟩
      · rw [members]
        exact (numbered.insert (isNext_memberOf tables familyId userId role) isNew).2
  | @removed _ familyId userId family member _ removes found isMember families members nextId =>
      have sameIds := @ids_counting familyId (-1) tables.families
      have fewer : after.members.Sublist tables.members := by
        rw [members]
        exact List.filter_sublist
      constructor
      · rw [families, sameIds]
        exact numbered.families
      · intro other inside
        rw [families] at inside
        rw [nextId]
        exact below_of_ids sameIds numbered other inside
      · exact numbered.members.sublist (fewer.map _)
      · intro row inside
        rw [nextId]
        exact numbered.memberBelow row (fewer.subset inside)
      · exact numbered.single.sublist (fewer.map _)
  | @written _ member role _ writes isMember families members nextId =>
      constructor
      · rw [families]
        exact numbered.families
      · rw [families, nextId]
        exact numbered.familyBelow
      · rw [members, map_writing fun _ => rfl]
        exact numbered.members
      · intro row inside
        rw [members] at inside
        rw [nextId]
        obtain ⟨before, earlier, rfl⟩ := KeyedRows.mem_update inside
        split <;> exact numbered.memberBelow before earlier
      · rw [members, map_writing fun _ => rfl]
        exact numbered.single
  | named found families members nextId =>
      have sameIds : after.families.map Family.id = tables.families.map Family.id := by
        rw [families]
        exact KeyedRows.keys_update fun _ => rfl
      constructor
      · rw [sameIds]
        exact numbered.families
      · rw [nextId]
        exact below_of_ids sameIds numbered
      · rw [members]
        exact numbered.members
      · rw [members, nextId]
        exact numbered.memberBelow
      · rw [members]
        exact numbered.single
  | disbanded families members nextId =>
      have fewer : after.families.Sublist tables.families := by
        rw [families]
        exact List.filter_sublist
      have fewerMembers : after.members.Sublist tables.members := by
        rw [members]
        exact List.filter_sublist
      constructor
      · exact numbered.families.sublist (fewer.map _)
      · rw [nextId]
        exact fun family inside => numbered.familyBelow family (fewer.subset inside)
      · exact numbered.members.sublist (fewerMembers.map _)
      · rw [nextId]
        exact fun row inside => numbered.memberBelow row (fewerMembers.subset inside)
      · exact numbered.single.sublist (fewerMembers.map _)

/-! ### Counts -/

theorem mem_counting {increment : Int} {families : List Family} {family : Family}
    (member : family ∈ counting familyId increment families) :
    ∃ before ∈ families, family.id = before.id ∧ family.maxMembers = before.maxMembers ∧
      family.memberCount = before.memberCount + if before.id = familyId then increment else 0 := by
  obtain ⟨before, inside, rfl⟩ := KeyedRows.mem_update member
  refine ⟨before, inside, ?_⟩
  split
  · exact ⟨rfl, rfl, rfl⟩
  · exact ⟨rfl, rfl, (add_zero _).symm⟩

theorem counting_mem {increment : Int} {family : Family}
    (found : tables.findById familyId = some family) :
    { family with memberCount := family.memberCount + increment } ∈
      counting familyId increment tables.families :=
  KeyedRows.mem_of_find (KeyedRows.find_update_self (fun _ => rfl) found)

theorem Sound.created (sound : tables.Sound) (numbered : tables.Numbered) {name : String}
    {creatorId : UserId} {privacy : Privacy} {maxMembers : Int}
    (isNew : tables.IsNew name creatorId)
    (families : after.families = tables.families ++
      [{ id := tables.nextId
         name := name
         tag := tagOf name
         founderId := creatorId
         maxMembers := maxMembers
         privacy := privacy }])
    (members : after.members = tables.members ++
      [{ id := tables.nextId + 1
         familyId := tables.nextId
         userId := creatorId
         role := "FOUNDER" }]) :
    after.Sound ↔ 1 ≤ maxMembers := by
  constructor
  · intro afterSound
    refine afterSound.limited _ (families ▸ List.mem_append_right _ (List.mem_singleton_self _))
  · intro isRoom
    constructor
    · rw [members]
      exact (numbered.insert (Or.inr rfl) isNew.2.2).2
    · intro family member
      unfold countMembers
      rw [members, List.countP_append, List.countP_singleton]
      rw [families] at member
      rcases List.mem_append.mp member with earlier | isRow
      · have different : tables.nextId ≠ family.id :=
          (Nat.ne_of_lt (numbered.familyBelow family earlier)).symm
        rw [sound.counted family earlier, if_neg (by simpa using different)]
        rfl
      · rw [List.mem_singleton.mp isRow]
        have none_there : tables.members.countP (fun row => row.familyId = tables.nextId) = 0 := by
          refine List.countP_eq_zero.mpr fun row inside isNext => ?_
          exact Nat.ne_of_lt (numbered.memberBelow row inside).2 (of_decide_eq_true isNext)
        rw [none_there, if_pos (decide_eq_true rfl)]
        rfl
    · intro family member
      rw [families] at member
      rcases List.mem_append.mp member with earlier | isRow
      · exact sound.limited family earlier
      · rw [List.mem_singleton.mp isRow]
        exact isRoom

theorem Sound.admitted (sound : tables.Sound) (numbered : tables.Numbered) {family : Family}
    (isNew : userId ∉ tables.members.map FamilyMember.userId)
    (found : tables.findById familyId = some family)
    (families : after.families = counting familyId 1 tables.families)
    (members : after.members = tables.members ++ [tables.memberOf familyId userId role]) :
    after.Sound ↔ tables.HasRoom familyId userId := by
  constructor
  · intro afterSound _ other isOther
    rw [← Option.some_inj.mp (found.symm.trans isOther)]
    have limited := afterSound.limited _ (families ▸ counting_mem found)
    exact Int.lt_of_add_one_le limited
  · intro hasRoom
    constructor
    · rw [members]
      exact (numbered.insert (isNext_memberOf tables familyId userId role) isNew).2
    · intro other member
      rw [families] at member
      obtain ⟨before, inside, sameId, _, isCount⟩ := mem_counting member
      unfold countMembers
      rw [isCount, sameId, sound.counted before inside, members, List.countP_append,
        List.countP_singleton]
      simp only [decide_eq_true_eq, memberOf, eq_comm (a := familyId)]
      split <;> rfl
    · intro other member
      rw [families] at member
      obtain ⟨before, inside, _, sameMost, isCount⟩ := mem_counting member
      rw [isCount, sameMost]
      split
      · rename_i isFamily
        have room := hasRoom isNew before (isFamily ▸ numbered.find inside)
        exact Int.add_one_le_of_lt room
      · rw [add_zero]
        exact sound.limited before inside

theorem Sound.removed (sound : tables.Sound) {family : Family} {member : FamilyMember}
    (found : tables.findById familyId = some family)
    (isMember : tables.findMemberByUserId userId = some member)
    (families : after.families = counting familyId (-1) tables.families)
    (members : after.members = tables.members.filter fun other => other.userId ≠ userId) :
    after.Sound ↔ tables.StillIn familyId userId := by
  have counted : ∀ id, tables.countMembers id =
      after.countMembers id + if member.familyId = id then 1 else 0 := by
    intro id
    unfold countMembers
    rw [members]
    have fewer := KeyedRows.countP_filter_ne (fun row => row.familyId = id) sound.single isMember
    simpa only [decide_eq_true_eq] using fewer
  constructor
  · intro afterSound _ other isOther
    rw [← Option.some_inj.mp (isMember.symm.trans isOther)]
    have before := sound.counted family (KeyedRows.mem_of_find found)
    have later := afterSound.counted _ (families ▸ counting_mem found)
    have fewer := counted family.id
    by_contra different
    rw [KeyedRows.key_of_find found] at before fewer
    rw [if_neg different, Nat.add_zero] at fewer
    dsimp only at later
    rw [KeyedRows.key_of_find found, before, fewer] at later
    omega
  · intro stillIn
    have isFamily : member.familyId = familyId :=
      stillIn (Option.isSome_iff_exists.mpr ⟨family, found⟩) member isMember
    constructor
    · rw [members]
      exact sound.single.sublist (List.filter_sublist.map _)
    · intro other inside
      rw [families] at inside
      obtain ⟨before, earlier, sameId, _, isCount⟩ := mem_counting inside
      have fewer := counted before.id
      rw [isCount, sameId, sound.counted before earlier, fewer, isFamily]
      simp only [eq_comm (a := familyId)]
      split <;> push_cast <;> omega
    · intro other inside
      rw [families] at inside
      obtain ⟨before, earlier, _, sameMost, isCount⟩ := mem_counting inside
      have limited := sound.limited before earlier
      rw [isCount, sameMost]
      split <;> omega

/-- What a transaction relies on is exactly what keeps the counts. -/
theorem Sound.change_iff (sound : tables.Sound) (numbered : tables.Numbered)
    (change : tables.Change outside point after) : after.Sound ↔ tables.Guarded point := by
  cases change with
  | kept families members nextId guarded =>
      refine iff_of_true ⟨members ▸ sound.single, ?_, families ▸ sound.limited⟩ guarded
      unfold countMembers
      rw [families, members]
      exact sound.counted
  | created isNew families members nextId =>
      rw [sound.created numbered isNew families members]
      exact ⟨fun isRoom _ => isRoom, fun guarded => guarded isNew⟩
  | admitted admits isNew found families members nextId guarded =>
      rw [guarded]
      exact sound.admitted numbered isNew found families members
  | removed removes found isMember families members nextId guarded =>
      rw [guarded]
      exact sound.removed found isMember families members
  | @written _ member role _ writes isMember families members nextId guarded =>
      refine iff_of_true ⟨?_, ?_, families ▸ sound.limited⟩ guarded
      · rw [members, map_writing fun _ => rfl]
        exact sound.single
      · intro family inside
        rw [families] at inside
        have sameCount : after.countMembers family.id = tables.countMembers family.id := by
          have asColumn : ∀ rows : List FamilyMember,
              rows.countP (fun row => row.familyId = family.id) =
                (rows.map FamilyMember.familyId).countP fun id => id = family.id := by
            intro rows
            rw [List.countP_map]
            rfl
          unfold countMembers
          rw [asColumn, asColumn, members, map_writing fun _ => rfl]
        rw [sameCount]
        exact sound.counted family inside
  | named found families members nextId =>
      refine iff_of_true ⟨members ▸ sound.single, ?_, ?_⟩ trivial
      · intro family inside
        rw [families] at inside
        obtain ⟨before, earlier, rfl⟩ := KeyedRows.mem_update inside
        unfold countMembers
        rw [members]
        split <;> exact sound.counted before earlier
      · intro family inside
        rw [families] at inside
        obtain ⟨before, earlier, rfl⟩ := KeyedRows.mem_update inside
        split <;> exact sound.limited before earlier
  | @disbanded actorId familyId _ families members nextId =>
      refine iff_of_true ⟨?_, ?_, ?_⟩ trivial
      · rw [members]
        exact sound.single.sublist (List.filter_sublist.map _)
      · intro family inside
        rw [families] at inside
        obtain ⟨earlier, isOther⟩ := List.mem_filter.mp inside
        rw [sound.counted family earlier]
        unfold countMembers
        rw [members, List.countP_filter]
        congr 1
        apply List.countP_congr
        intro row _
        simp only [Bool.and_eq_true, decide_eq_true_eq]
        exact ⟨fun same => ⟨same, same ▸ of_decide_eq_true isOther⟩, And.left⟩
      · intro family inside
        rw [families] at inside
        exact sound.limited family (List.mem_of_mem_filter inside)

/-! ### Bans -/

theorem bans_removed {now : Nat} {actorId : UserId}
    (removed : tables.removeMember now familyId userId actorId = some after) :
    after.bans = tables.bans := by
  obtain ⟨_, _, removal⟩ := Option.bind_eq_some_iff.mp removed
  obtain ⟨_, counting, rfl⟩ := Option.map_eq_some_iff.mp removal
  obtain ⟨_, _, rfl⟩ := incrementCount_spec counting
  rfl

theorem bans_updated {memberId : MemberId}
    (updated : tables.updateMember memberId role = some after) : after.bans = tables.bans := by
  unfold updateMember at updated
  split at updated
  · cases updated
    rfl
  · cases updated

/-- No ban is lifted by these calls. -/
theorem ban_kept (outside : Outside) (point : Point) {key : FamilyId × UserId}
    (banned : key ∈ tables.bans.map FamilyBan.key) :
    key ∈ (tables.goOn outside point).1.bans.map FamilyBan.key := by
  have thrown : ∀ {written : Option Tables} {message : String} {next : Point},
      (∀ after ∈ written, after.bans = tables.bans) →
        key ∈ (tables.orThrow written message next).1.bans.map FamilyBan.key := by
    intro written message next same
    cases written with
    | none => exact banned
    | some after => exact (same after rfl).symm ▸ banned
  cases point with
  | banning actorId familyId kickUserId => exact KeyedRows.key_mem_upsert banned
  | creating creatorId name privacy maxMembers =>
      refine thrown fun after created => ?_
      unfold createFamily at created
      split at created
      · cases created
      · obtain ⟨inserted, insertion, rfl⟩ := Option.map_eq_some_iff.mp created
        obtain ⟨_, rfl⟩ := insertMember_spec insertion
        rfl
  | adding userId familyId role =>
      refine thrown fun after added => ?_
      obtain ⟨_, _, _, rfl⟩ := addMember_spec added
      rfl
  | accepting actorId request =>
      refine thrown fun after accepted => ?_
      obtain ⟨updated, update, added⟩ := Option.bind_eq_some_iff.mp accepted
      obtain ⟨_, _, rfl⟩ := Option.map_eq_some_iff.mp update
      obtain ⟨filled, filling, rfl⟩ := Option.map_eq_some_iff.mp added
      obtain ⟨_, _, _, rfl⟩ := addMember_spec filling
      rfl
  | rejecting actorId request error =>
      refine thrown fun after rejected => ?_
      obtain ⟨updated, update, rfl⟩ := Option.map_eq_some_iff.mp rejected
      obtain ⟨_, _, rfl⟩ := Option.map_eq_some_iff.mp update
      rfl
  | leaving userId familyId => exact thrown fun after removed => bans_removed removed
  | kicking actorId familyId kickUserId => exact thrown fun after removed => bans_removed removed
  | promoting actor target role => exact thrown fun after updated => bans_updated updated
  | succeeding transfer actorMember targetMember =>
      exact thrown fun after updated => bans_updated updated
  | steppingDown transfer actorMember targetMember =>
      exact thrown fun after updated => bans_updated updated
  | naming transfer =>
      refine thrown fun after named => ?_
      obtain ⟨_, _, rfl⟩ := Option.map_eq_some_iff.mp named
      rfl
  | deleting actorId familyId =>
      refine thrown fun after deleted => ?_
      obtain ⟨_, _, rfl⟩ := Option.map_eq_some_iff.mp deleted
      rfl
  | requesting userId familyId => exact banned
  | logging familyId userId action => exact banned
  | _ =>
      rw [goOn]
      (repeat' split) <;> exact banned

end Tables

/-! ### Calls side by side -/

/-- A call, with the bans there were when it began. -/
structure Call where
  bansAtStart : List (FamilyId × UserId)
  point : Point
  deriving DecidableEq, Repr

structure World where
  tables : Tables := {}
  calls : List Call := []
  deriving DecidableEq, Repr

inductive Happening where
  | begin (command : Command)
  | goOn (position : Nat) (outside : Outside)
  deriving DecidableEq, Repr

/-- The family that a call to leave or to kick is addressed to. -/
def Point.withdraws : Point → Option FamilyId
  | .leaveFindMember _ familyId | .leaving _ familyId | .kickFindActor _ familyId _
  | .kickFindTarget _ familyId _ | .kicking _ familyId _ | .banning _ familyId _ => some familyId
  | _ => none

/-- A step of a call leaves other families alone, and lets in no user who was banned. -/
structure Call.Proper (call : Call) (before after : Tables) : Prop where
  members : ∀ familyId ∈ call.point.withdraws, ∀ member ∈ before.members,
    member.familyId ≠ familyId → member ∈ after.members
  families : ∀ familyId ∈ call.point.withdraws, ∀ family ∈ before.families,
    family.id ≠ familyId → family ∈ after.families
  banned : ∀ member ∈ after.members, member.id ∉ before.members.map FamilyMember.id →
    member.familyId ∈ before.families.map Family.id →
      (member.familyId, member.userId) ∉ call.bansAtStart

/-- The bans a call began with still stand, and past the check none is of the user it lets in. -/
structure Call.Checked (call : Call) (tables : Tables) : Prop where
  stands : ∀ key ∈ call.bansAtStart, key ∈ tables.bans.map FamilyBan.key
  passed : ∀ outside familyId userId role,
    Tables.Admits outside call.point familyId userId role →
      (familyId, userId) ∉ call.bansAtStart

namespace Tables

variable {tables after : Tables} {call : Call}

/-- Only the check for a ban comes before a member is let in. -/
theorem unbanned_of_admits {outside later : Outside} {point : Point} {familyId : FamilyId}
    {userId : UserId} {role : String}
    (admits : Admits later (tables.goOn outside point).2 familyId userId role) :
    tables.findBan familyId userId = none := by
  have thrown : ∀ {written : Option Tables} {message : String} {next : Point},
      (∀ familyId userId role, ¬Admits later next familyId userId role) →
        ¬Admits later (tables.orThrow written message next).2 familyId userId role := by
    intro written message next never
    cases written with
    | none => nofun
    | some after => exact never familyId userId role
  cases point with
  | joinFindBan userId familyId role =>
      rw [goOn] at admits
      split at admits
      · cases admits
      · rename_i free
        cases admits
        exact Option.not_isSome_iff_eq_none.mp free
  | handleFindBan actorId request =>
      rw [goOn] at admits
      split at admits
      · cases admits
      · rename_i free
        cases admits
        exact Option.not_isSome_iff_eq_none.mp free
  | creating => exact absurd admits (thrown nofun)
  | adding => exact absurd admits (thrown nofun)
  | accepting => exact absurd admits (thrown nofun)
  | rejecting actorId request error =>
      refine absurd admits (thrown ?_)
      cases error <;> nofun
  | leaving => exact absurd admits (thrown nofun)
  | kicking => exact absurd admits (thrown nofun)
  | promoting => exact absurd admits (thrown nofun)
  | succeeding => exact absurd admits (thrown nofun)
  | steppingDown => exact absurd admits (thrown nofun)
  | naming => exact absurd admits (thrown nofun)
  | deleting => exact absurd admits (thrown nofun)
  | joinGet userId familyId config =>
      rw [goOn, joinFamily] at admits
      (repeat' split at admits) <;> cases admits
  | promoteFindTarget actor familyId userId role =>
      rw [goOn, promotion] at admits
      (repeat' split at admits) <;> cases admits
  | handleGet actorId request approved =>
      rw [goOn, approve] at admits
      (repeat' split at admits) <;> cases admits
  | _ =>
      rw [goOn] at admits
      (repeat' split at admits) <;> cases admits

end Tables

namespace Call

variable {tables : Tables} {call : Call}

/-- Whichever call goes on. -/
theorem Checked.kept (checked : call.Checked tables) (outside : Outside) (point : Point) :
    call.Checked (tables.goOn outside point).1 where
  stands := fun key member => Tables.ban_kept outside point (checked.stands key member)
  passed := checked.passed

/-- The call itself goes on. -/
theorem Checked.next (checked : call.Checked tables) (outside : Outside) :
    { call with point := (tables.goOn outside call.point).2 : Call }.Checked
      (tables.goOn outside call.point).1 where
  stands := (checked.kept outside call.point).stands
  passed := by
    intro later familyId userId role admits banned
    have unbanned := Tables.unbanned_of_admits admits
    obtain ⟨ban, found⟩ := KeyedRows.find_of_key (checked.stands _ banned)
    exact absurd (unbanned.symm.trans found) nofun

theorem checked_begin (tables : Tables) (command : Command) :
    Checked { bansAtStart := tables.bans.map FamilyBan.key, point := begin command } tables where
  stands := fun key member => member
  passed := by
    intro outside familyId userId role admits
    cases command with
    | kick actorId familyId kickUserId =>
        dsimp only [begin] at admits
        split at admits <;> cases admits
    | _ => cases admits

/-- A guarded step is proper. -/
theorem Checked.proper (checked : call.Checked tables) (numbered : tables.Numbered)
    (outside : Outside) (guarded : tables.Guarded call.point) :
    call.Proper tables (tables.goOn outside call.point).1 := by
  have change := tables.change_goOn outside call.point
  generalize (tables.goOn outside call.point).1 = after at change ⊢
  obtain ⟨bansAtStart, point⟩ := call
  dsimp only at change guarded
  -- A step that is not one of leaving or kicking has nothing addressed to a family.
  have aside : point.withdraws = none →
      (∀ member ∈ after.members, member.id ∉ tables.members.map FamilyMember.id →
        member.familyId ∈ tables.families.map Family.id →
          (member.familyId, member.userId) ∉ bansAtStart) →
        Proper { bansAtStart := bansAtStart, point := point } tables after := by
    intro isNone banned
    constructor
    · intro familyId isAddressed
      dsimp only at isAddressed
      rw [isNone] at isAddressed
      cases isAddressed
    · intro familyId isAddressed
      dsimp only at isAddressed
      rw [isNone] at isAddressed
      cases isAddressed
    · exact banned
  cases change with
  | kept families members nextId =>
      refine ⟨fun _ _ member inside _ => members ▸ inside,
        fun _ _ family inside _ => families ▸ inside, fun member inside isNew => ?_⟩
      exact absurd (List.mem_map_of_mem (members ▸ inside)) isNew
  | created isNew families members nextId =>
      refine aside rfl fun member inside isNew isFamily => ?_
      rw [members] at inside
      rcases List.mem_append.mp inside with earlier | isRow
      · exact absurd (List.mem_map_of_mem earlier) isNew
      · rw [List.mem_singleton.mp isRow] at isFamily
        obtain ⟨family, isThere, sameId⟩ := List.mem_map.mp isFamily
        exact absurd sameId (Nat.ne_of_lt (numbered.familyBelow family isThere))
  | admitted admits isNew found families members nextId =>
      have isAside : point.withdraws = none := by
        cases admits <;> rfl
      refine aside isAside fun member inside isNew _ => ?_
      rw [members] at inside
      rcases List.mem_append.mp inside with earlier | isRow
      · exact absurd (List.mem_map_of_mem earlier) isNew
      · rw [List.mem_singleton.mp isRow]
        exact checked.passed outside _ _ _ admits
  | @removed _ familyId userId family member _ removes found isMember families members nextId
      guardedIff =>
      have addressed : point.withdraws = some familyId := by
        cases removes <;> rfl
      have isThere := Option.isSome_iff_exists.mpr ⟨family, found⟩
      have isFamily := guardedIff.mp guarded isThere member isMember
      constructor
      · intro other isAddressed row inside elsewhere
        dsimp only at isAddressed
        rw [addressed] at isAddressed
        cases isAddressed
        rw [members]
        refine List.mem_filter.mpr ⟨inside, decide_eq_true fun sameUser => elsewhere ?_⟩
        have isRow := KeyedRows.find_of_mem numbered.single inside
        rw [sameUser] at isRow
        rw [Option.some_inj.mp (isRow.symm.trans isMember)]
        exact isFamily
      · intro other isAddressed row inside elsewhere
        dsimp only at isAddressed
        rw [addressed] at isAddressed
        cases isAddressed
        rw [families]
        exact List.mem_map.mpr ⟨row, inside, if_neg elsewhere⟩
      · intro row inside isNew
        rw [members] at inside
        exact absurd (List.mem_map_of_mem (List.mem_of_mem_filter inside)) isNew
  | @written _ member role _ writes isMember families members nextId =>
      have isAside : point.withdraws = none := by
        cases writes <;> rfl
      refine aside isAside fun row inside isNew _ => ?_
      rw [members] at inside
      have isThere := List.mem_map_of_mem (f := FamilyMember.id) inside
      rw [Tables.map_writing fun _ => rfl] at isThere
      exact absurd isThere isNew
  | named found families members nextId =>
      refine aside rfl fun member inside isNew => ?_
      exact absurd (List.mem_map_of_mem (members ▸ inside)) isNew
  | disbanded families members nextId =>
      refine aside rfl fun member inside isNew => ?_
      rw [members] at inside
      exact absurd (List.mem_map_of_mem (List.mem_of_mem_filter inside)) isNew

end Call

namespace World

def step (world : World) : Happening → World
  | .begin command =>
      let call : Call :=
        { bansAtStart := world.tables.bans.map FamilyBan.key
          point := begin command }
      { world with calls := world.calls ++ [call] }
  | .goOn position outside =>
      match world.calls[position]? with
      | none => world
      | some call =>
          let (tables, point) := world.tables.goOn outside call.point
          { tables := tables
            calls := world.calls.set position { call with point := point } }

/-- What the call that goes on relies on still stands. -/
def Guarded (world : World) : Happening → Prop
  | .goOn position _ => ∀ call ∈ world.calls[position]?, world.tables.Guarded call.point
  | _ => True

def Proper (world : World) (event : Happening) : Prop :=
  match event with
  | .goOn position _ =>
      ∀ call ∈ world.calls[position]?, call.Proper world.tables (world.step event).tables
  | _ => True

structure Kept (world : World) : Prop where
  numbered : world.tables.Numbered
  checked : ∀ call ∈ world.calls, call.Checked world.tables

variable {world : World}

theorem Kept.step (kept : world.Kept) (event : Happening) : (world.step event).Kept := by
  cases event with
  | begin command =>
      refine ⟨kept.numbered, fun call member => ?_⟩
      rcases List.mem_append.mp member with earlier | isNew
      · exact kept.checked call earlier
      · rw [List.mem_singleton.mp isNew]
        exact Call.checked_begin world.tables command
  | goOn position outside =>
      rw [World.step]
      split
      · exact kept
      · rename_i call found
        refine ⟨kept.numbered.change (world.tables.change_goOn outside call.point),
          fun other member => ?_⟩
        rcases List.mem_or_eq_of_mem_set member with earlier | isNext
        · exact (kept.checked other earlier).kept outside call.point
        · rw [isNext]
          exact (kept.checked call (List.mem_of_getElem? found)).next outside

theorem Kept.proper (kept : world.Kept) {event : Happening} (guarded : world.Guarded event) :
    world.Proper event := by
  cases event with
  | begin command => exact trivial
  | goOn position outside =>
      intro call found
      have isStep : (world.step (.goOn position outside)).tables =
          (world.tables.goOn outside call.point).1 := by
        rw [World.step, Option.mem_def.mp found]
      rw [isStep]
      exact (kept.checked call (List.mem_of_getElem? found)).proper kept.numbered outside
        (guarded call found)

theorem Kept.sound_iff (kept : world.Kept) (sound : world.tables.Sound) (event : Happening) :
    (world.step event).tables.Sound ↔ world.Guarded event := by
  cases event with
  | begin command => exact iff_of_true sound trivial
  | goOn position outside =>
      rw [World.step, Guarded]
      split
      · rename_i missing
        refine iff_of_true sound fun call isCall => ?_
        rw [missing] at isCall
        cases isCall
      · rename_i call found
        rw [found]
        have changed := sound.change_iff kept.numbered
          (world.tables.change_goOn outside call.point)
        exact changed.trans ⟨fun guarded other isOther => Option.some_inj.mp isOther ▸ guarded,
          fun all => all call rfl⟩

theorem kept_opening : ({} : World).Kept where
  numbered := ⟨List.nodup_nil, nofun, List.nodup_nil, nofun, List.nodup_nil⟩
  checked := nofun

/-- However the calls interleave, families and their counts stay sound and every step is proper
exactly when what a transaction relies on still stands each time one is made. -/
theorem sound_iff_guarded (events : List Happening) :
    (Runs.Always step (fun world => world.tables.Sound) {} events ∧
        Runs.Each step Proper {} events) ↔
      Runs.Each step Guarded {} events := by
  have opening : ({} : World).tables.Sound := ⟨List.nodup_nil, nofun, nofun⟩
  have soundIff : Runs.Always step (fun world => world.tables.Sound) {} events ↔
      Runs.Each step Guarded {} events := by
    refine Runs.always_iff_each Kept ?_ ?_ {} kept_opening opening events
    · exact fun world event kept _ _ => kept.step event
    · exact fun world event kept sound => kept.sound_iff sound event
  rw [soundIff]
  refine and_iff_left_of_imp fun guarded => ?_
  refine Runs.each_of_each ?_ ?_ _ kept_opening events guarded
  · exact fun world event kept _ => kept.step event
  · exact fun world event kept guarded => kept.proper guarded

/-! ### A kick that deletes a membership elsewhere -/

namespace Elsewhere

def outside (now : Nat) : Outside :=
  { now := now
    config := { joinCooldownSeconds := 0 } }

def run (position steps : Nat) : List Happening :=
  List.replicate steps (.goOn position (outside 0))

/-- Ann kicks Bob, who leaves and joins another family before his row is deleted. -/
def events : List Happening :=
  .begin (.create "ann" "Alpha" true) :: run 0 4 ++
    (.begin (.create "cas" "Gamma" true) :: run 1 4) ++
    (.begin (.join "bob" 0) :: run 2 6) ++
    (.begin (.kick "ann" 0 "bob") :: run 3 2) ++
    (.begin (.leave "bob" 0) :: run 4 2) ++
    (.begin (.join "bob" 2) :: run 5 6) ++
    run 3 1

end Elsewhere

open Elsewhere in
theorem not_sound_elsewhere :
    ¬(Runs.Always step (fun world : World => world.tables.Sound) {} events ∧
        Runs.Each step Proper {} events) := by
  rintro ⟨always, _⟩
  have sound := Runs.Always.final always
  have isThere : (Runs.run step {} events).tables.findById 0 =
      some { id := 0, name := "Alpha", tag := "ALPH", founderId := "ann", memberCount := 0
             maxMembers := 100, privacy := .isPublic } := by
    decide +kernel
  have counted := sound.counted _ (KeyedRows.mem_of_find isThere)
  have members : (Runs.run step {} events).tables.countMembers 0 = 1 := by
    decide +kernel
  dsimp only at counted
  rw [members] at counted
  cases counted

end World

end Soulzaa.Families
