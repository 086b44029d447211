/-
Who leads a family, one call at a time.

The leader is a role and a column of the family.  A transfer moves both in three writes, and may
stop between two of them; a promotion may write any role.
-/

import Soulzaa.Families.Members

namespace Soulzaa.Families

/-- The order of the roles, whatever their case and alias. -/
def rank (role : String) : Nat :=
  if isLeader role then 3
  else if isCoLeader role then 2
  else if role.toUpper = "ELDER" then 1
  else 0

/-! ### One call after another -/

/-- The transfer that a call is making. -/
def Point.transfer : Point → Option Transfer
  | .transferGet transfer | .transferFindActor transfer | .transferFindTarget transfer _
  | .succeeding transfer _ _ | .steppingDown transfer _ _ | .naming transfer => some transfer
  | _ => none

/-- The transfer that has written a role, and not the founder's id yet. -/
def Point.underWay : Point → List Transfer
  | .steppingDown transfer _ _ | .naming transfer => [transfer]
  | _ => []

/-- The family whose founder has stepped down, and whose new one is not named yet. -/
def Point.unnamed : Point → Option FamilyId
  | .naming transfer => some transfer.familyId
  | _ => none

/-- The role that a point gives to a member, besides a transfer's. -/
def Point.granted (outside : Outside) : Point → Option String
  | .adding _ _ role => some role
  | .accepting _ _ => some outside.config.defaultRole
  | .promoting _ _ role => some role
  | _ => none

/-- The transfer whose first write is next. -/
def Point.succeeds : Point → Option Transfer
  | .succeeding transfer _ _ => some transfer
  | _ => none

/-- The tables, the call at work, and the transfers that have stopped between two writes and have
not been tried again to an end. -/
structure Turns where
  tables : Tables := {}
  point : Point := .done
  stopped : List Transfer := []
  deriving DecidableEq, Repr

inductive Turn where
  | begin (command : Command)
  | goOn (outside : Outside)
  | stop
  deriving DecidableEq, Repr

namespace Turns

def step (turns : Turns) : Turn → Turns
  | .begin command =>
      if turns.point.ended = true then { turns with point := Families.begin command } else turns
  | .goOn outside =>
      let (tables, point) := turns.tables.goOn outside turns.point
      { tables := tables
        point := point
        stopped :=
          if point.transfer = turns.point.transfer then turns.stopped
          else turns.stopped.filter fun transfer => some transfer ≠ turns.point.transfer }
  | .stop =>
      { turns with
        point := .done
        stopped := turns.stopped ++ turns.point.underWay }

/-- No operation is pending. -/
def Idle (turns : Turns) : Prop := turns.point.ended = true ∧ turns.stopped = []

end Turns

def Tables.founders (tables : Tables) (familyId : FamilyId) : List UserId :=
  (tables.members.filter fun member =>
    member.familyId = familyId ∧ member.role = "FOUNDER").map FamilyMember.userId

/-- Each family has one founder, whose id it keeps. -/
def Tables.OneFounder (tables : Tables) : Prop :=
  ∀ family ∈ tables.families, tables.founders family.id = [family.founderId]

/-- What a step may do to a role, and to a founder. -/
structure Point.Fair (point : Point) (before after : Tables) : Prop where
  roles : ∀ member ∈ before.members, ∀ later ∈ after.members, later.id = member.id →
    later.role ≠ member.role →
      (∃ actor target role, point = .promoting actor target role ∧ actor ∈ before.members ∧
        actor.familyId = member.familyId ∧ rank member.role < rank actor.role) ∨
      ∃ transfer, point.transfer = some transfer ∧ transfer.familyId = member.familyId ∧
        ∀ family ∈ before.families, family.id = member.familyId →
          family.founderId = transfer.actorId
  founders : ∀ family ∈ before.families, family.id ∈ after.families.map Family.id →
    ∀ member ∈ before.members, member.familyId = family.id → member.userId = family.founderId →
      member ∈ after.members ∨
        ∃ transfer, point.transfer = some transfer ∧ transfer.familyId = family.id ∧
          transfer.actorId = family.founderId

namespace Turns

/-- No one but a transfer's target gets the leader's role, and a transfer neither stops before the
family's founder is renamed nor overtakes another that has stopped. -/
def Permitted (turns : Turns) : Turn → Prop
  | .begin _ => True
  | .goOn outside =>
      (∀ role ∈ turns.point.granted outside, isLeader role = false) ∧
        ∀ transfer ∈ turns.point.succeeds, ∀ other ∈ turns.stopped,
          other.familyId = transfer.familyId → other = transfer
  | .stop => turns.point.unnamed = none

instance (turns : Turns) : (event : Turn) → Decidable (turns.Permitted event)
  | .begin _ => inferInstanceAs (Decidable True)
  | .goOn outside =>
      inferInstanceAs (Decidable ((∀ role ∈ turns.point.granted outside, isLeader role = false) ∧
        ∀ transfer ∈ turns.point.succeeds, ∀ other ∈ turns.stopped,
          other.familyId = transfer.familyId → other = transfer))
  | .stop => inferInstanceAs (Decidable (turns.point.unnamed = none))

def Fair (turns : Turns) (event : Turn) : Prop :=
  turns.point.Fair turns.tables (turns.step event).tables

end Turns

/-! ### What holds of the tables -/

theorem isLeader_founder : isLeader "FOUNDER" = true := by decide +kernel

theorem not_isLeader_coFounder : isLeader "CO_FOUNDER" = false := by decide +kernel

theorem not_isLeader_member : isLeader "MEMBER" = false := by decide +kernel

theorem not_founder {role : String} (notLeader : isLeader role = false) : role ≠ "FOUNDER" := by
  rintro rfl
  exact absurd isLeader_founder (Bool.eq_false_iff.mp notLeader)

/-- The row of a family's member who has the founder's role. -/
def FamilyMember.Heads (member : FamilyMember) (familyId : FamilyId) (userId : UserId) : Prop :=
  member.familyId = familyId ∧ member.userId = userId ∧ member.role = "FOUNDER"

/-- Leaders are founders or the successors of transfers under way.  A family may be between a
founder who stepped down and one not named yet. -/
structure Tables.Founded (tables : Tables) (underWay : List Transfer)
    (unnamed : Option FamilyId) : Prop where
  leaders : ∀ family ∈ tables.families, ∀ member ∈ tables.members,
    member.familyId = family.id → isLeader member.role = true →
      member.userId = family.founderId ∨
        ∃ transfer ∈ underWay, transfer.familyId = family.id ∧ transfer.userId = member.userId
  headed : ∀ family ∈ tables.families, some family.id ≠ unnamed →
    ∃ member ∈ tables.members, member.Heads family.id family.founderId
  successors : ∀ family ∈ tables.families, ∀ transfer ∈ underWay,
    transfer.familyId = family.id →
      transfer.actorId = family.founderId ∧ transfer.actorId ≠ transfer.userId ∧
        ∃ member ∈ tables.members, member.Heads family.id transfer.userId
  alike : ∀ one ∈ underWay, ∀ two ∈ underWay, one.familyId = two.familyId → one = two
  below : ∀ transfer ∈ underWay, transfer.familyId < tables.nextId

/-- What the call at work has read still holds, as no other call is at work. -/
def Tables.Reads (tables : Tables) : Point → Prop
  | .leaving userId _ => ∀ member ∈ tables.findMemberByUserId userId, member.role ≠ "FOUNDER"
  | .kicking _ _ kickUserId =>
      ∀ member ∈ tables.findMemberByUserId kickUserId, member.role ≠ "FOUNDER"
  | .promoteFindTarget actor familyId _ _ => actor ∈ tables.members ∧ actor.familyId = familyId
  | .promoting actor target _ =>
      actor ∈ tables.members ∧ target ∈ tables.members ∧ actor.familyId = target.familyId ∧
        isLeader target.role = false ∧ rank target.role < rank actor.role
  | .transferFindTarget transfer actorMember =>
      actorMember ∈ tables.members ∧ actorMember.familyId = transfer.familyId ∧
        actorMember.userId = transfer.actorId ∧ isLeader actorMember.role = true ∧
          transfer.actorId ≠ transfer.userId
  | .succeeding transfer actorMember targetMember =>
      (actorMember ∈ tables.members ∧ actorMember.familyId = transfer.familyId ∧
        actorMember.userId = transfer.actorId ∧ isLeader actorMember.role = true ∧
          transfer.actorId ≠ transfer.userId) ∧
      targetMember ∈ tables.members ∧ targetMember.familyId = transfer.familyId ∧
        targetMember.userId = transfer.userId
  | .steppingDown transfer actorMember _ =>
      actorMember ∈ tables.members ∧ actorMember.familyId = transfer.familyId ∧
        actorMember.userId = transfer.actorId
  | .naming transfer => ∀ member ∈ tables.members, member.userId = transfer.actorId →
      isLeader member.role = false
  | _ => True

structure Turns.Held (turns : Turns) : Prop where
  numbered : turns.tables.Numbered
  founded : turns.tables.Founded (turns.stopped ++ turns.point.underWay) turns.point.unnamed
  reads : turns.tables.Reads turns.point

namespace Tables

variable {tables after : Tables} {underWay : List Transfer} {unnamed : Option FamilyId}
  {familyId : FamilyId} {userId : UserId} {role : String}

theorem Numbered.row_unique (numbered : tables.Numbered) {one two : FamilyMember}
    (first : one ∈ tables.members) (second : two ∈ tables.members)
    (sameId : one.id = two.id) : one = two :=
  List.inj_on_of_nodup_map numbered.members first second sameId

theorem Numbered.user_unique (numbered : tables.Numbered) {one two : FamilyMember}
    (first : one ∈ tables.members) (second : two ∈ tables.members)
    (sameUser : one.userId = two.userId) : one = two :=
  List.inj_on_of_nodup_map numbered.single first second sameUser

/-- A family is only counted anew, so its id and its founder stay. -/
theorem founder_of_counting {increment : Int} {families : List Family} {family : Family}
    (member : family ∈ counting familyId increment families) :
    ∃ before ∈ families, before.id = family.id ∧ before.founderId = family.founderId := by
  obtain ⟨before, inside, rfl⟩ := KeyedRows.mem_update member
  refine ⟨before, inside, ?_⟩
  split <;> exact ⟨rfl, rfl⟩

/-- Families keep ids and founders, the heads of families stay, and every leader was one. -/
theorem Founded.of_kept (founded : tables.Founded underWay unnamed)
    (families : ∀ family ∈ after.families, ∃ before ∈ tables.families, before.id = family.id ∧
      before.founderId = family.founderId)
    (heads : ∀ family ∈ after.families, ∀ member ∈ tables.members, ∀ userId,
      member.Heads family.id userId → ∃ later ∈ after.members, later.Heads family.id userId)
    (leaders : ∀ member ∈ after.members, isLeader member.role = true →
      ∃ before ∈ tables.members, before.familyId = member.familyId ∧
        before.userId = member.userId ∧ isLeader before.role = true)
    (nextId : tables.nextId ≤ after.nextId) : after.Founded underWay unnamed where
  leaders := by
    intro family isFamily member isMember inFamily leads
    obtain ⟨earlier, isThere, sameId, sameFounder⟩ := families family isFamily
    obtain ⟨before, isBefore, sameFamily, sameUser, led⟩ := leaders member isMember leads
    rw [← sameId, ← sameFounder, ← sameUser]
    exact founded.leaders earlier isThere before isBefore
      ((sameFamily.trans inFamily).trans sameId.symm) led
  headed := by
    intro family isFamily isNamed
    obtain ⟨earlier, isThere, sameId, sameFounder⟩ := families family isFamily
    obtain ⟨member, isMember, isHead⟩ := founded.headed earlier isThere (sameId ▸ isNamed)
    exact heads family isFamily member isMember _ (sameId ▸ sameFounder ▸ isHead)
  successors := by
    intro family isFamily transfer isUnderWay inFamily
    obtain ⟨earlier, isThere, sameId, sameFounder⟩ := families family isFamily
    obtain ⟨isActor, different, member, isMember, isHead⟩ :=
      founded.successors earlier isThere transfer isUnderWay (inFamily.trans sameId.symm)
    exact ⟨isActor.trans sameFounder, different,
      heads family isFamily member isMember _ (sameId ▸ isHead)⟩
  alike := founded.alike
  below := fun transfer isUnderWay =>
    Nat.lt_of_lt_of_le (founded.below transfer isUnderWay) nextId

theorem Founded.of_eq (founded : tables.Founded underWay unnamed)
    (families : after.families = tables.families) (members : after.members = tables.members)
    (nextId : tables.nextId ≤ after.nextId) : after.Founded underWay unnamed := by
  refine founded.of_kept ?_ ?_ ?_ nextId
  · exact fun family isFamily => ⟨family, families ▸ isFamily, rfl, rfl⟩
  · exact fun _ _ member isMember _ isHead => ⟨member, members ▸ isMember, isHead⟩
  · exact fun member isMember leads => ⟨member, members ▸ isMember, rfl, rfl, leads⟩

theorem Founded.admitted (founded : tables.Founded underWay unnamed)
    (families : after.families = counting familyId 1 tables.families)
    (members : after.members = tables.members ++ [tables.memberOf familyId userId role])
    (nextId : after.nextId = tables.nextId + 1) (notLeader : isLeader role = false) :
    after.Founded underWay unnamed := by
  refine founded.of_kept ?_ ?_ ?_ (nextId ▸ Nat.le_succ _)
  · intro family isFamily
    exact founder_of_counting (families ▸ isFamily)
  · intro _ _ member isMember _ isHead
    exact ⟨member, members ▸ List.mem_append_left _ isMember, isHead⟩
  · intro member isMember leads
    rw [members] at isMember
    rcases List.mem_append.mp isMember with earlier | isNew
    · exact ⟨member, earlier, rfl, rfl, leads⟩
    · rw [List.mem_singleton.mp isNew] at leads
      unfold memberOf at leads
      dsimp only at leads
      split at leads
      · rw [not_isLeader_member] at leads
        cases leads
      · rw [notLeader] at leads
        cases leads

theorem Founded.removed (founded : tables.Founded underWay unnamed) (numbered : tables.Numbered)
    {member : FamilyMember} (isMember : tables.findMemberByUserId userId = some member)
    (families : after.families = counting familyId (-1) tables.families)
    (members : after.members = tables.members.filter fun other => other.userId ≠ userId)
    (nextId : after.nextId = tables.nextId) (notFounder : member.role ≠ "FOUNDER") :
    after.Founded underWay unnamed := by
  refine founded.of_kept ?_ ?_ ?_ (Nat.le_of_eq nextId.symm)
  · intro family isFamily
    exact founder_of_counting (families ▸ isFamily)
  · intro _ _ head isThere _ isHead
    refine ⟨head, ?_, isHead⟩
    rw [members]
    refine List.mem_filter.mpr ⟨isThere, decide_eq_true fun sameUser => notFounder ?_⟩
    have isRow := KeyedRows.find_of_mem numbered.single isThere
    rw [sameUser] at isRow
    rw [← Option.some_inj.mp (isRow.symm.trans isMember)]
    exact isHead.2.2
  · intro other inside leads
    rw [members] at inside
    exact ⟨other, List.mem_of_mem_filter inside, rfl, rfl, leads⟩

/-- A role that is not the leader's is written over one that is not. -/
theorem Founded.promoted (founded : tables.Founded underWay unnamed) (numbered : tables.Numbered)
    {target : FamilyMember} (isTarget : target ∈ tables.members)
    (families : after.families = tables.families)
    (members : after.members = writing target.id role tables.members)
    (nextId : after.nextId = tables.nextId) (notLed : isLeader target.role = false)
    (notLeader : isLeader role = false) : after.Founded underWay unnamed := by
  refine founded.of_kept ?_ ?_ ?_ (Nat.le_of_eq nextId.symm)
  · exact fun family isFamily => ⟨family, families ▸ isFamily, rfl, rfl⟩
  · intro _ _ head isThere _ isHead
    refine ⟨head, ?_, isHead⟩
    rw [members]
    refine List.mem_map.mpr ⟨head, isThere, if_neg fun sameId => ?_⟩
    have isRow := numbered.row_unique isThere isTarget sameId
    exact not_founder notLed (isRow ▸ isHead.2.2)
  · intro member isMember leads
    rw [members] at isMember
    obtain ⟨before, isBefore, rfl⟩ := KeyedRows.mem_update isMember
    by_cases isWritten : before.id = target.id
    · rw [if_pos isWritten, notLeader] at leads
      cases leads
    · rw [if_neg isWritten] at leads ⊢
      exact ⟨before, isBefore, rfl, rfl, leads⟩

theorem Founded.disbanded (founded : tables.Founded underWay unnamed)
    (families : after.families = tables.families.filter fun family => family.id ≠ familyId)
    (members : after.members = tables.members.filter fun member => member.familyId ≠ familyId)
    (nextId : after.nextId = tables.nextId) : after.Founded underWay unnamed := by
  refine founded.of_kept ?_ ?_ ?_ (Nat.le_of_eq nextId.symm)
  · intro family isFamily
    rw [families] at isFamily
    exact ⟨family, List.mem_of_mem_filter isFamily, rfl, rfl⟩
  · intro family isFamily head isThere _ isHead
    rw [families] at isFamily
    refine ⟨head, ?_, isHead⟩
    rw [members]
    exact List.mem_filter.mpr ⟨isThere, isHead.1 ▸ (List.mem_filter.mp isFamily).2⟩
  · intro member isMember leads
    rw [members] at isMember
    exact ⟨member, List.mem_of_mem_filter isMember, rfl, rfl, leads⟩

theorem Founded.created (founded : tables.Founded underWay unnamed) (numbered : tables.Numbered)
    {name : String} {creatorId : UserId} {privacy : Privacy} {maxMembers : Int}
    (families : after.families = tables.families ++
      [{ id := tables.nextId
         name := name
         tag := tagOf name
         founderId := creatorId
         maxMembers := maxMembers
         privacy := privacy }])
    (members : after.members = tables.members ++
      [{ id := tables.nextId + 1
         familyId := tables.nextId
         userId := creatorId
         role := "FOUNDER" }])
    (nextId : after.nextId = tables.nextId + 2) : after.Founded underWay unnamed where
  leaders := by
    intro family isFamily member isMember inFamily leads
    rw [families] at isFamily
    rw [members] at isMember
    rcases List.mem_append.mp isFamily with earlier | isNew
    · rcases List.mem_append.mp isMember with before | isRow
      · exact founded.leaders family earlier member before inFamily leads
      · rw [List.mem_singleton.mp isRow] at inFamily
        exact absurd inFamily.symm (Nat.ne_of_lt (numbered.familyBelow family earlier))
    · rw [List.mem_singleton.mp isNew] at inFamily ⊢
      rcases List.mem_append.mp isMember with before | isRow
      · exact absurd inFamily (Nat.ne_of_lt (numbered.memberBelow member before).2)
      · rw [List.mem_singleton.mp isRow]
        exact Or.inl rfl
  headed := by
    intro family isFamily isNamed
    rw [families] at isFamily
    rw [members]
    rcases List.mem_append.mp isFamily with earlier | isNew
    · obtain ⟨member, isMember, isHead⟩ := founded.headed family earlier isNamed
      exact ⟨member, List.mem_append_left _ isMember, isHead⟩
    · rw [List.mem_singleton.mp isNew]
      exact ⟨_, List.mem_append_right _ (List.mem_singleton_self _), rfl, rfl, rfl⟩
  successors := by
    intro family isFamily transfer isUnderWay inFamily
    rw [families] at isFamily
    rw [members]
    rcases List.mem_append.mp isFamily with earlier | isNew
    · obtain ⟨isActor, different, member, isMember, isHead⟩ :=
        founded.successors family earlier transfer isUnderWay inFamily
      exact ⟨isActor, different, member, List.mem_append_left _ isMember, isHead⟩
    · rw [List.mem_singleton.mp isNew] at inFamily
      exact absurd inFamily (Nat.ne_of_lt (founded.below transfer isUnderWay))
  alike := founded.alike
  below := fun transfer isUnderWay =>
    nextId ▸ Nat.lt_add_right 2 (founded.below transfer isUnderWay)

/-- Transfers of families that are gone are under way no more. -/
theorem Founded.fewer (founded : tables.Founded underWay unnamed) {fewer : List Transfer}
    (subset : fewer ⊆ underWay)
    (kept : ∀ family ∈ tables.families, ∀ transfer ∈ underWay, transfer.familyId = family.id →
      transfer ∈ fewer) : tables.Founded fewer unnamed where
  leaders := by
    intro family isFamily member isMember inFamily leads
    refine (founded.leaders family isFamily member isMember inFamily leads).imp_right ?_
    rintro ⟨transfer, isUnderWay, sameFamily, isUser⟩
    exact ⟨transfer, kept family isFamily transfer isUnderWay sameFamily, sameFamily, isUser⟩
  headed := founded.headed
  successors := fun family isFamily transfer isUnderWay =>
    founded.successors family isFamily transfer (subset isUnderWay)
  alike := fun one isOne two isTwo => founded.alike one (subset isOne) two (subset isTwo)
  below := fun transfer isUnderWay => founded.below transfer (subset isUnderWay)

/-! ### The writes of a transfer -/

section Transfers

variable {stopped : List Transfer} {transfer : Transfer} {actorMember targetMember : FamilyMember}

/-- The leader of a family whose transfers under way are all this one is its founder. -/
theorem Founded.founder_of_leader (founded : tables.Founded stopped unnamed)
    (isActor : actorMember ∈ tables.members) (inFamily : actorMember.familyId = transfer.familyId)
    (isUser : actorMember.userId = transfer.actorId) (leads : isLeader actorMember.role = true)
    (different : transfer.actorId ≠ transfer.userId)
    (alone : ∀ other ∈ stopped, other.familyId = transfer.familyId → other = transfer)
    {family : Family} (isFamily : family ∈ tables.families)
    (isIts : transfer.familyId = family.id) : transfer.actorId = family.founderId := by
  rcases founded.leaders family isFamily actorMember isActor (inFamily.trans isIts) leads with
    isFounder | ⟨other, isStopped, sameFamily, sameUser⟩
  · exact isUser.symm.trans isFounder
  · rw [alone other isStopped (sameFamily.trans isIts.symm), isUser] at sameUser
    exact absurd sameUser.symm different

theorem Founded.succeeded (founded : tables.Founded stopped none) (numbered : tables.Numbered)
    (reads : tables.Reads (.succeeding transfer actorMember targetMember))
    (alone : ∀ other ∈ stopped, other.familyId = transfer.familyId → other = transfer)
    (families : after.families = tables.families)
    (members : after.members = writing targetMember.id "FOUNDER" tables.members)
    (nextId : after.nextId = tables.nextId) : after.Founded (stopped ++ [transfer]) none := by
  obtain ⟨⟨isActor, actorInFamily, isUser, leads, different⟩, isTarget, targetInFamily,
    isTargetUser⟩ := reads
  have heads : ∀ member ∈ tables.members, ∀ familyId userId, member.Heads familyId userId →
      ∃ later ∈ after.members, later.Heads familyId userId := by
    rintro member isMember familyId userId ⟨inFamily, isIts, isFounder⟩
    rw [members]
    refine ⟨_, List.mem_map_of_mem isMember, ?_⟩
    split
    · exact ⟨inFamily, isIts, rfl⟩
    · exact ⟨inFamily, isIts, isFounder⟩
  constructor
  · intro family isFamily member isMember inFamily leadsIt
    rw [families] at isFamily
    rw [members] at isMember
    obtain ⟨before, isBefore, rfl⟩ := KeyedRows.mem_update isMember
    by_cases isWritten : before.id = targetMember.id
    · rw [if_pos isWritten] at inFamily ⊢
      rw [numbered.row_unique isBefore isTarget isWritten] at inFamily ⊢
      exact Or.inr ⟨transfer, List.mem_append_right _ (List.mem_singleton_self _),
        targetInFamily.symm.trans inFamily, isTargetUser.symm⟩
    · rw [if_neg isWritten] at inFamily leadsIt ⊢
      refine (founded.leaders family isFamily before isBefore inFamily leadsIt).imp_right ?_
      rintro ⟨other, isStopped, rest⟩
      exact ⟨other, List.mem_append_left _ isStopped, rest⟩
  · intro family isFamily isNamed
    rw [families] at isFamily
    obtain ⟨member, isMember, isHead⟩ := founded.headed family isFamily isNamed
    exact heads member isMember _ _ isHead
  · intro family isFamily other isUnderWay inFamily
    rw [families] at isFamily
    rcases List.mem_append.mp isUnderWay with isStopped | isThis
    · obtain ⟨isFounder, apart, member, isMember, isHead⟩ :=
        founded.successors family isFamily other isStopped inFamily
      exact ⟨isFounder, apart, heads member isMember _ _ isHead⟩
    · rw [List.mem_singleton.mp isThis] at inFamily ⊢
      refine ⟨founded.founder_of_leader isActor actorInFamily isUser leads different alone
        isFamily inFamily, different, ?_⟩
      rw [members]
      exact ⟨_, List.mem_map.mpr ⟨targetMember, isTarget, if_pos rfl⟩,
        targetInFamily.trans inFamily, isTargetUser, rfl⟩
  · intro one isOne two isTwo sameFamily
    rcases List.mem_append.mp isOne with oneStopped | isThis
    · rcases List.mem_append.mp isTwo with twoStopped | isThis
      · exact founded.alike one oneStopped two twoStopped sameFamily
      · rw [List.mem_singleton.mp isThis] at sameFamily ⊢
        exact alone one oneStopped sameFamily
    · rw [List.mem_singleton.mp isThis] at sameFamily ⊢
      rcases List.mem_append.mp isTwo with twoStopped | isThis
      · exact (alone two twoStopped sameFamily.symm).symm
      · exact (List.mem_singleton.mp isThis).symm
  · intro other isUnderWay
    rw [nextId]
    rcases List.mem_append.mp isUnderWay with isStopped | isThis
    · exact founded.below other isStopped
    · rw [List.mem_singleton.mp isThis, ← targetInFamily]
      exact (numbered.memberBelow targetMember isTarget).2

theorem Founded.steppedDown (founded : tables.Founded underWay none) (numbered : tables.Numbered)
    (isUnderWay : transfer ∈ underWay)
    (reads : tables.Reads (.steppingDown transfer actorMember targetMember))
    (families : after.families = tables.families)
    (members : after.members = writing actorMember.id "CO_FOUNDER" tables.members)
    (nextId : after.nextId = tables.nextId) :
    after.Founded underWay (some transfer.familyId) ∧ after.Reads (.naming transfer) := by
  obtain ⟨isActor, inFamily, isUser⟩ := reads
  have stays : ∀ member ∈ tables.members, member ≠ actorMember → member ∈ after.members := by
    intro member isMember isOther
    rw [members]
    refine List.mem_map.mpr ⟨member, isMember, if_neg fun sameId => isOther ?_⟩
    exact numbered.row_unique isMember isActor sameId
  have led : ∀ member ∈ after.members, isLeader member.role = true → member ∈ tables.members := by
    intro member isMember leads
    rw [members] at isMember
    obtain ⟨before, isBefore, rfl⟩ := KeyedRows.mem_update isMember
    by_cases isWritten : before.id = actorMember.id
    · rw [if_pos isWritten, not_isLeader_coFounder] at leads
      cases leads
    · rw [if_neg isWritten]
      exact isBefore
  refine ⟨⟨?_, ?_, ?_, founded.alike, nextId ▸ founded.below⟩, ?_⟩
  · intro family isFamily member isMember itsFamily leads
    rw [families] at isFamily
    exact founded.leaders family isFamily member (led member isMember leads) itsFamily leads
  · intro family isFamily isNamed
    rw [families] at isFamily
    obtain ⟨member, isMember, isHead⟩ := founded.headed family isFamily nofun
    refine ⟨member, stays member isMember ?_, isHead⟩
    rintro rfl
    exact isNamed (congrArg some (isHead.1.symm.trans inFamily))
  · intro family isFamily other otherUnderWay itsFamily
    rw [families] at isFamily
    obtain ⟨isFounder, different, member, isMember, isHead⟩ :=
      founded.successors family isFamily other otherUnderWay itsFamily
    refine ⟨isFounder, different, member, stays member isMember ?_, isHead⟩
    rintro rfl
    have sameFamily : other.familyId = transfer.familyId :=
      (itsFamily.trans isHead.1.symm).trans inFamily
    have isThis := founded.alike other otherUnderWay transfer isUnderWay sameFamily
    rw [isThis] at different isHead
    exact different (isUser.symm.trans isHead.2.1)
  · intro member isMember isActorRow
    refine Bool.eq_false_iff.mpr fun leads => ?_
    have isBefore := led member isMember leads
    have isRow := numbered.user_unique isBefore isActor (isActorRow.trans isUser.symm)
    rw [members, isRow] at isMember
    obtain ⟨before, isThere, isWritten⟩ := KeyedRows.mem_update isMember
    split at isWritten
    · rw [isRow, isWritten, not_isLeader_coFounder] at leads
      cases leads
    · rename_i isOther
      exact isOther (congrArg FamilyMember.id isWritten.symm)

theorem Founded.named (founded : tables.Founded underWay (some transfer.familyId))
    (isUnderWay : transfer ∈ underWay) (reads : tables.Reads (.naming transfer))
    (families : after.families = KeyedRows.update Family.id transfer.familyId
      (fun family => { family with founderId := transfer.userId }) tables.families)
    (members : after.members = tables.members) (nextId : after.nextId = tables.nextId) :
    after.Founded (underWay.filter fun other => other ≠ transfer) none := by
  -- A family of the table after the write: the one named, or another that stays.
  have written : ∀ family ∈ after.families, ∃ before ∈ tables.families, before.id = family.id ∧
      ((family.id = transfer.familyId ∧ family.founderId = transfer.userId) ∨
        (family.id ≠ transfer.familyId ∧ before.founderId = family.founderId)) := by
    intro family isFamily
    rw [families] at isFamily
    obtain ⟨before, isBefore, rfl⟩ := KeyedRows.mem_update isFamily
    refine ⟨before, isBefore, ?_⟩
    split
    · rename_i isNamed
      exact ⟨rfl, Or.inl ⟨isNamed, rfl⟩⟩
    · rename_i isOther
      exact ⟨rfl, Or.inr ⟨isOther, rfl⟩⟩
  have remains : ∀ other ∈ underWay, other.familyId ≠ transfer.familyId →
      other ∈ underWay.filter fun other => other ≠ transfer := by
    intro other otherUnderWay elsewhere
    refine List.mem_filter.mpr ⟨otherUnderWay, decide_eq_true ?_⟩
    rintro rfl
    exact elsewhere rfl
  refine ⟨?_, ?_, ?_, ?_, ?_⟩
  · intro family isFamily member isMember inFamily leads
    rw [members] at isMember
    obtain ⟨before, isBefore, sameId, ⟨isNamed, isFounder⟩ | ⟨isOther, sameFounder⟩⟩ :=
      written family isFamily
    · have isIts : transfer.familyId = before.id := isNamed.symm.trans sameId.symm
      refine Or.inl ?_
      rcases founded.leaders before isBefore member isMember (inFamily.trans sameId.symm) leads with
        wasFounder | ⟨other, otherUnderWay, sameFamily, isUser⟩
      · have isActor := (founded.successors before isBefore transfer isUnderWay isIts).1
        have stepped := reads member isMember (wasFounder.trans isActor.symm)
        exact absurd leads (Bool.eq_false_iff.mp stepped)
      · rw [founded.alike other otherUnderWay transfer isUnderWay (sameFamily.trans isIts.symm)]
          at isUser
        exact isUser.symm.trans isFounder.symm
    · rcases founded.leaders before isBefore member isMember (inFamily.trans sameId.symm) leads with
        wasFounder | ⟨other, otherUnderWay, sameFamily, isUser⟩
      · exact Or.inl (wasFounder.trans sameFounder)
      · have isIts := sameFamily.trans sameId
        exact Or.inr ⟨other, remains other otherUnderWay (isIts ▸ isOther), isIts, isUser⟩
  · intro family isFamily _
    rw [members]
    obtain ⟨before, isBefore, sameId, ⟨isNamed, isFounder⟩ | ⟨isOther, sameFounder⟩⟩ :=
      written family isFamily
    · have isIts : transfer.familyId = before.id := isNamed.symm.trans sameId.symm
      obtain ⟨_, _, member, isMember, isHead⟩ :=
        founded.successors before isBefore transfer isUnderWay isIts
      exact ⟨member, isMember, sameId ▸ isFounder ▸ isHead⟩
    · have elsewhere : some before.id ≠ some transfer.familyId :=
        fun same => isOther (sameId.symm.trans (Option.some_inj.mp same))
      obtain ⟨member, isMember, isHead⟩ := founded.headed before isBefore elsewhere
      exact ⟨member, isMember, sameId ▸ sameFounder ▸ isHead⟩
  · intro family isFamily other isLeft inFamily
    rw [members]
    obtain ⟨otherUnderWay, isOther⟩ := List.mem_filter.mp isLeft
    obtain ⟨before, isBefore, sameId, ⟨isNamed, _⟩ | ⟨_, sameFounder⟩⟩ := written family isFamily
    · have same := founded.alike other otherUnderWay transfer isUnderWay
        (inFamily.trans isNamed)
      exact absurd same (of_decide_eq_true isOther)
    · obtain ⟨isActor, different, member, isMember, isHead⟩ :=
        founded.successors before isBefore other otherUnderWay (inFamily.trans sameId.symm)
      exact ⟨isActor.trans sameFounder, different, member, isMember, sameId ▸ isHead⟩
  · exact fun one isOne two isTwo =>
      founded.alike one (List.mem_of_mem_filter isOne) two (List.mem_of_mem_filter isTwo)
  · exact fun other isLeft => nextId ▸ founded.below other (List.mem_of_mem_filter isLeft)

end Transfers

/-! ### What a call reads -/

/-- No role outweighs the founder's. -/
theorem roleWeight_le (role : String) : roleWeight role ≤ roleWeight "FOUNDER" := by
  have isMost : roleWeight "FOUNDER" = 4 := rfl
  rw [isMost]
  unfold roleWeight
  (repeat' split) <;> decide

theorem rank_lt_of_promoted {actorRole currentTargetRole targetRole : String}
    (allowed : promotionRefused actorRole currentTargetRole targetRole = none) :
    isLeader currentTargetRole = false ∧ rank currentTargetRole < rank actorRole := by
  unfold promotionRefused at allowed
  split at allowed
  · cases allowed
  · rename_i notLed
    split at allowed
    · cases allowed
    · split at allowed
      · cases allowed
      · rename_i notCoLed
        split at allowed
        · cases allowed
        · rename_i leads
          have isNot := Bool.eq_false_iff.mpr notLed
          refine ⟨isNot, ?_⟩
          unfold rank
          rw [if_neg notLed]
          by_cases isLed : isLeader actorRole = true
          · rw [if_pos isLed]
            (repeat' split) <;> decide
          · have isFalse := Bool.eq_false_iff.mpr isLed
            have coLeads : isCoLeader actorRole = true :=
              Bool.of_not_eq_false fun isNot => leads ⟨isFalse, isNot⟩
            have notCoTarget : ¬isCoLeader currentTargetRole = true :=
              fun isCo => notCoLed ⟨isCo, isFalse⟩
            rw [if_neg isLed, if_pos coLeads, if_neg notCoTarget]
            split <;> decide

/-- Calls that are no transfer go on as such, and read what they rely on. -/
theorem aside_goOn (outside : Outside) {point : Point} (reads : tables.Reads point)
    (aside : point.transfer = none) :
    (tables.goOn outside point).2.transfer = none ∧
      (tables.goOn outside point).1.Reads (tables.goOn outside point).2 := by
  have thrown : ∀ {written : Option Tables} {message : String} {next : Point},
      next.transfer = none → (∀ tables : Tables, tables.Reads next) →
        (tables.orThrow written message next).2.transfer = none ∧
          (tables.orThrow written message next).1.Reads
            (tables.orThrow written message next).2 := by
    intro written message next isAside readsNext
    cases written with
    | none => exact ⟨rfl, trivial⟩
    | some after => exact ⟨isAside, readsNext after⟩
  cases point with
  | transferGet | transferFindActor | transferFindTarget | succeeding | steppingDown | naming =>
      cases aside
  | creating => exact thrown rfl fun _ => trivial
  | adding => exact thrown rfl fun _ => trivial
  | accepting => exact thrown rfl fun _ => trivial
  | leaving => exact thrown rfl fun _ => trivial
  | kicking => exact thrown rfl fun _ => trivial
  | promoting => exact thrown rfl fun _ => trivial
  | deleting => exact thrown rfl fun _ => trivial
  | rejecting actorId request error =>
      cases error with
      | none => exact thrown rfl fun _ => trivial
      | some message => exact thrown rfl fun _ => trivial
  | leaveFindMember userId familyId =>
      rw [goOn]
      split
      · exact ⟨rfl, trivial⟩
      · rename_i member found
        split
        · exact ⟨rfl, trivial⟩
        · split
          · exact ⟨rfl, trivial⟩
          · rename_i notFounder
            refine ⟨rfl, fun other isOther => ?_⟩
            rw [← Option.some_inj.mp (found.symm.trans isOther)]
            exact notFounder
  | kickFindTarget actor familyId kickUserId =>
      rw [goOn]
      split
      · exact ⟨rfl, trivial⟩
      · rename_i target found
        split
        · exact ⟨rfl, trivial⟩
        · split
          · exact ⟨rfl, trivial⟩
          · rename_i outweighs
            refine ⟨rfl, fun other isOther => ?_⟩
            rw [← Option.some_inj.mp (found.symm.trans isOther)]
            intro isFounder
            apply outweighs
            rw [isFounder]
            exact roleWeight_le actor.role
  | promoteFindActor actorId familyId userId role =>
      rw [goOn]
      split
      · exact ⟨rfl, trivial⟩
      · rename_i actor found
        split
        · exact ⟨rfl, trivial⟩
        · rename_i inFamily
          exact ⟨rfl, KeyedRows.mem_of_find found, Decidable.of_not_not inFamily⟩
  | promoteFindTarget actor familyId userId role =>
      rw [goOn, promotion]
      split
      · exact ⟨rfl, trivial⟩
      · rename_i target found
        split
        · exact ⟨rfl, trivial⟩
        · rename_i inFamily
          split
          · exact ⟨rfl, trivial⟩
          · rename_i allowed
            obtain ⟨isActor, actorInFamily⟩ := reads
            obtain ⟨notLed, isLower⟩ := rank_lt_of_promoted allowed
            exact ⟨rfl, isActor, KeyedRows.mem_of_find found,
              actorInFamily.trans (Decidable.of_not_not inFamily).symm, notLed, isLower⟩
  | joinGet userId familyId config =>
      rw [goOn, joinFamily]
      (repeat' split) <;> exact ⟨rfl, trivial⟩
  | handleGet actorId request approved =>
      rw [goOn, approve]
      (repeat' split) <;> exact ⟨rfl, trivial⟩
  | _ =>
      rw [goOn]
      (repeat' split) <;> exact ⟨rfl, trivial⟩

end Tables

namespace Turns

open Tables

variable {turns : Turns} {after : Tables} {next : Point}

theorem underWay_of_aside {point : Point} (aside : point.transfer = none) :
    point.underWay = [] ∧ point.unnamed = none := by
  cases point with
  | transferGet | transferFindActor | transferFindTarget | succeeding | steppingDown | naming =>
      cases aside
  | _ => exact ⟨rfl, rfl⟩

/-- A step of a call that is no transfer, over what it changes. -/
theorem founded_aside (held : turns.Held) (outside : Outside)
    (aside : turns.point.transfer = none) (permitted : turns.Permitted (.goOn outside)) :
    (turns.tables.goOn outside turns.point).1.Founded turns.stopped none := by
  obtain ⟨tables, point, stopped⟩ := turns
  have founded := held.founded
  obtain ⟨isEmpty, isNamed⟩ := underWay_of_aside aside
  dsimp only at aside founded isEmpty isNamed ⊢
  rw [isEmpty, isNamed, List.append_nil] at founded
  have change := tables.change_goOn outside point
  generalize (tables.goOn outside point).1 = after at change ⊢
  cases change with
  | kept families members nextId => exact founded.of_eq families members nextId
  | created isNew families members nextId =>
      exact founded.created held.numbered families members nextId
  | admitted admits isNew found families members nextId =>
      refine founded.admitted families members nextId ?_
      cases admits with
      | join => exact permitted.1 _ rfl
      | accept => exact permitted.1 _ rfl
  | @removed _ _ _ _ member _ removes found isMember families members nextId =>
      refine founded.removed held.numbered isMember families members nextId ?_
      cases removes with
      | leave => exact held.reads member isMember
      | kick => exact held.reads member isMember
  | written writes isMember families members nextId =>
      cases writes with
      | promote actor target role =>
          obtain ⟨_, isTarget, _, notLed, _⟩ := held.reads
          exact founded.promoted held.numbered isTarget families members nextId notLed
            (permitted.1 _ rfl)
      | succeed => cases aside
      | stepDown => cases aside
  | named => cases aside
  | disbanded families members nextId => exact founded.disbanded families members nextId

/-- The transfers that have stopped, after a step to the point. -/
def left (turns : Turns) (next : Point) : List Transfer :=
  if next.transfer = turns.point.transfer then turns.stopped
  else turns.stopped.filter fun transfer => some transfer ≠ turns.point.transfer

theorem held_of_goOn {outside : Outside}
    (isStep : turns.tables.goOn outside turns.point = (after, next)) (numbered : after.Numbered)
    (founded : after.Founded (turns.left next ++ next.underWay) next.unnamed)
    (reads : after.Reads next) : (turns.step (.goOn outside)).Held := by
  rw [step, isStep]
  exact ⟨numbered, founded, reads⟩

theorem Held.goOn_aside (held : turns.Held) (outside : Outside)
    (aside : turns.point.transfer = none) (permitted : turns.Permitted (.goOn outside)) :
    (turns.step (.goOn outside)).Held := by
  obtain ⟨nextAside, reads⟩ := aside_goOn outside held.reads aside
  obtain ⟨isEmpty, isNamed⟩ := underWay_of_aside nextAside
  refine held_of_goOn (Prod.eta _).symm
    (held.numbered.change (turns.tables.change_goOn outside turns.point)) ?_ reads
  have isLeft : turns.left (turns.tables.goOn outside turns.point).2 = turns.stopped :=
    if_pos (nextAside.trans aside.symm)
  rw [isEmpty, isNamed, isLeft, List.append_nil]
  exact founded_aside held outside aside permitted

/-- A step of a transfer that reads and goes on with it. -/
theorem Held.read_transfer (held : turns.Held) {outside : Outside}
    (isRead : turns.tables.goOn outside turns.point = (turns.tables, next))
    (same : next.transfer = turns.point.transfer) (underWay : next.underWay = turns.point.underWay)
    (unnamed : next.unnamed = turns.point.unnamed) (reads : turns.tables.Reads next) :
    (turns.step (.goOn outside)).Held := by
  refine held_of_goOn isRead held.numbered ?_ reads
  have isLeft : turns.left next = turns.stopped := if_pos same
  rw [isLeft, underWay, unnamed]
  exact held.founded

theorem transfer_of_underWay {point : Point} {transfer : Transfer}
    (isUnderWay : transfer ∈ point.underWay) : point.transfer = some transfer := by
  cases point with
  | steppingDown other _ _ => exact congrArg some (List.mem_singleton.mp isUnderWay).symm
  | naming other => exact congrArg some (List.mem_singleton.mp isUnderWay).symm
  | _ => cases isUnderWay

/-- A step that ends a transfer, where none like it is under way in a family there is. -/
theorem Held.end_transfer (held : turns.Held) {outside : Outside} {transfer : Transfer}
    {message : String}
    (isEnd : turns.tables.goOn outside turns.point = (turns.tables, .failed message))
    (isTransfer : turns.point.transfer = some transfer)
    (gone : ∀ family ∈ turns.tables.families, transfer.familyId = family.id →
      transfer ∉ turns.stopped ++ turns.point.underWay)
    (unnamed : ∀ family ∈ turns.tables.families, some family.id ≠ turns.point.unnamed) :
    (turns.step (.goOn outside)).Held := by
  refine held_of_goOn isEnd held.numbered ?_ trivial
  have isLeft : turns.left (.failed message) =
      turns.stopped.filter fun other => some other ≠ turns.point.transfer :=
    if_neg fun same => absurd (same.trans isTransfer) nofun
  rw [isLeft]
  have founded : turns.tables.Founded (turns.stopped ++ turns.point.underWay) none :=
    { held.founded with headed := fun family isFamily _ =>
        held.founded.headed family isFamily (unnamed family isFamily) }
  refine founded.fewer ?_ ?_
  · intro other isThere
    have isStopped := (List.mem_append.mp isThere).elim List.mem_of_mem_filter nofun
    exact List.mem_append_left _ isStopped
  · intro family isFamily other isUnderWay inFamily
    have isOther : some other ≠ turns.point.transfer := by
      intro same
      cases isTransfer.symm.trans same.symm
      exact gone family isFamily inFamily isUnderWay
    refine List.mem_append_left _ (List.mem_filter.mpr ⟨?_, decide_eq_true isOther⟩)
    refine (List.mem_append.mp isUnderWay).resolve_right fun isPoint => ?_
    exact isOther (transfer_of_underWay isPoint).symm

/-- A transfer that has stopped can be tried again: its actor is still the founder, and its
target still a member. -/
theorem Held.retriable (held : turns.Held) {transfer : Transfer}
    (isStopped : transfer ∈ turns.stopped) (isNamed : turns.point.unnamed = none)
    {family : Family} (isFamily : family ∈ turns.tables.families)
    (inFamily : transfer.familyId = family.id) :
    transfer.actorId ≠ transfer.userId ∧
      (∃ actor, turns.tables.findMemberByUserId transfer.actorId = some actor ∧
        actor.Heads transfer.familyId transfer.actorId) ∧
      ∃ target, turns.tables.findMemberByUserId transfer.userId = some target ∧
        target.Heads transfer.familyId transfer.userId := by
  obtain ⟨isFounder, different, target, isTarget, targetHeads⟩ :=
    held.founded.successors family isFamily transfer (List.mem_append_left _ isStopped) inFamily
  obtain ⟨actor, isActor, actorHeads⟩ := held.founded.headed family isFamily (isNamed ▸ nofun)
  rw [← inFamily] at targetHeads actorHeads
  rw [← isFounder] at actorHeads
  refine ⟨different, ⟨actor, ?_, actorHeads⟩, target, ?_, targetHeads⟩
  · have found := KeyedRows.find_of_mem held.numbered.single isActor
    rw [actorHeads.2.1] at found
    exact found
  · have found := KeyedRows.find_of_mem held.numbered.single isTarget
    rw [targetHeads.2.1] at found
    exact found

theorem Held.goOn_transferFindActor (held : turns.Held) (outside : Outside)
    {transfer : Transfer} (isPoint : turns.point = .transferFindActor transfer) :
    (turns.step (.goOn outside)).Held := by
  -- The transfer ends where a check fails, and no check fails for one that has stopped.
  have ends : ∀ message, turns.tables.goOn outside (.transferFindActor transfer) =
      (turns.tables, .failed message) → (turns.step (.goOn outside)).Held := by
    intro message isEnd
    refine held.end_transfer (isPoint ▸ isEnd) (congrArg Point.transfer isPoint) ?_
      (isPoint ▸ nofun)
    intro family isFamily inFamily isThere
    rw [isPoint] at isThere
    have isStopped := (List.mem_append.mp isThere).resolve_right nofun
    obtain ⟨different, ⟨actor, isActor, heads⟩, _⟩ :=
      held.retriable isStopped (isPoint ▸ rfl) isFamily inFamily
    have leads : isLeader actor.role = true := heads.2.2 ▸ isLeader_founder
    have passes : ¬(isLeader actor.role = false ∨ actor.familyId ≠ transfer.familyId) :=
      not_or.mpr ⟨fun isNot => absurd (leads.symm.trans isNot) nofun, not_not_intro heads.1⟩
    rw [goOn, isActor] at isEnd
    dsimp only at isEnd
    rw [if_neg passes, if_neg different] at isEnd
    cases isEnd
  cases found : turns.tables.findMemberByUserId transfer.actorId with
  | none => exact ends _ (by rw [goOn, found])
  | some actorMember =>
      by_cases isNot : isLeader actorMember.role = false ∨
          actorMember.familyId ≠ transfer.familyId
      · exact ends _ (by rw [goOn, found]; exact if_pos isNot)
      · by_cases isSelf : transfer.actorId = transfer.userId
        · exact ends _ (by rw [goOn, found]; exact (if_neg isNot).trans (if_pos isSelf))
        · have goesOn : turns.tables.goOn outside (.transferFindActor transfer) =
              (turns.tables, .transferFindTarget transfer actorMember) := by
            rw [goOn, found]
            exact (if_neg isNot).trans (if_neg isSelf)
          obtain ⟨leads, inFamily⟩ := not_or.mp isNot
          refine held.read_transfer (isPoint ▸ goesOn) (isPoint ▸ rfl) (isPoint ▸ rfl)
            (isPoint ▸ rfl) ?_
          exact ⟨KeyedRows.mem_of_find found, Decidable.of_not_not inFamily,
            KeyedRows.key_of_find found, eq_true_of_ne_false leads, isSelf⟩

theorem Held.goOn_transferFindTarget (held : turns.Held) (outside : Outside)
    {transfer : Transfer} {actorMember : FamilyMember}
    (isPoint : turns.point = .transferFindTarget transfer actorMember) :
    (turns.step (.goOn outside)).Held := by
  have reads := held.reads
  rw [isPoint] at reads
  have ends : ∀ message, turns.tables.goOn outside (.transferFindTarget transfer actorMember) =
      (turns.tables, .failed message) → (turns.step (.goOn outside)).Held := by
    intro message isEnd
    refine held.end_transfer (isPoint ▸ isEnd) (congrArg Point.transfer isPoint) ?_
      (isPoint ▸ nofun)
    intro family isFamily inFamily isThere
    rw [isPoint] at isThere
    have isStopped := (List.mem_append.mp isThere).resolve_right nofun
    obtain ⟨_, _, target, isTarget, heads⟩ :=
      held.retriable isStopped (isPoint ▸ rfl) isFamily inFamily
    rw [goOn, isTarget] at isEnd
    dsimp only at isEnd
    rw [if_neg (not_not_intro heads.1)] at isEnd
    cases isEnd
  cases found : turns.tables.findMemberByUserId transfer.userId with
  | none => exact ends _ (by rw [goOn, found])
  | some targetMember =>
      by_cases elsewhere : targetMember.familyId ≠ transfer.familyId
      · exact ends _ (by rw [goOn, found]; exact if_pos elsewhere)
      · have goesOn : turns.tables.goOn outside (.transferFindTarget transfer actorMember) =
            (turns.tables, .succeeding transfer actorMember targetMember) := by
          rw [goOn, found]
          exact if_neg elsewhere
        refine held.read_transfer (isPoint ▸ goesOn) (isPoint ▸ rfl) (isPoint ▸ rfl)
          (isPoint ▸ rfl) ?_
        exact ⟨reads, KeyedRows.mem_of_find found, Decidable.of_not_not elsewhere,
          KeyedRows.key_of_find found⟩

/-- A member of the table is written. -/
theorem updateMember_of_mem {tables : Tables} {member : FamilyMember} {role message : String}
    (isMember : member ∈ tables.members) :
    tables.orThrow (tables.updateMember member.id role) message next =
      ({ tables with members := writing member.id role tables.members }, next) := by
  unfold updateMember
  rw [if_pos (List.mem_map_of_mem isMember)]
  rfl

theorem Held.goOn_succeeding (held : turns.Held) (outside : Outside) {transfer : Transfer}
    {actorMember targetMember : FamilyMember}
    (isPoint : turns.point = .succeeding transfer actorMember targetMember)
    (alone : ∀ other ∈ turns.stopped, other.familyId = transfer.familyId → other = transfer) :
    (turns.step (.goOn outside)).Held := by
  have reads := held.reads
  have founded := held.founded
  rw [isPoint] at reads founded
  have isStep : turns.tables.goOn outside turns.point =
      ({ turns.tables with members := writing targetMember.id "FOUNDER" turns.tables.members },
        .steppingDown transfer actorMember targetMember) := by
    rw [isPoint, goOn]
    exact updateMember_of_mem reads.2.1
  have numbered := held.numbered.change (turns.tables.change_goOn outside turns.point)
  rw [isStep] at numbered
  refine held_of_goOn isStep numbered ?_ ?_
  · have isLeft : turns.left (.steppingDown transfer actorMember targetMember) = turns.stopped :=
      if_pos (isPoint ▸ rfl)
    rw [isLeft]
    exact Founded.succeeded (List.append_nil turns.stopped ▸ founded) held.numbered reads alone rfl
      rfl rfl
  · obtain ⟨⟨isActor, inFamily, isUser, _, different⟩, isTarget, _, isTargetUser⟩ := reads
    refine ⟨List.mem_map.mpr ⟨actorMember, isActor, if_neg fun sameId => different ?_⟩, inFamily,
      isUser⟩
    have isSame := held.numbered.row_unique isActor isTarget sameId
    rw [← isUser, isSame, isTargetUser]

theorem Held.goOn_steppingDown (held : turns.Held) (outside : Outside) {transfer : Transfer}
    {actorMember targetMember : FamilyMember}
    (isPoint : turns.point = .steppingDown transfer actorMember targetMember) :
    (turns.step (.goOn outside)).Held := by
  have reads := held.reads
  have founded := held.founded
  rw [isPoint] at reads founded
  have isStep : turns.tables.goOn outside turns.point =
      ({ turns.tables with members := writing actorMember.id "CO_FOUNDER" turns.tables.members },
        .naming transfer) := by
    rw [isPoint, goOn]
    exact updateMember_of_mem reads.1
  have numbered := held.numbered.change (turns.tables.change_goOn outside turns.point)
  rw [isStep] at numbered
  have isUnderWay : transfer ∈ turns.stopped ++ [transfer] :=
    List.mem_append_right _ (List.mem_singleton_self _)
  have isLeft : turns.left (.naming transfer) = turns.stopped := if_pos (isPoint ▸ rfl)
  generalize isAfter : { turns.tables with
    members := writing actorMember.id "CO_FOUNDER" turns.tables.members } = after at isStep numbered
  obtain ⟨steppedDown, readsAfter⟩ := founded.steppedDown held.numbered isUnderWay reads
    (congrArg Tables.families isAfter).symm (congrArg Tables.members isAfter).symm
    (congrArg Tables.nextId isAfter).symm
  refine held_of_goOn isStep numbered ?_ readsAfter
  rw [isLeft]
  exact steppedDown

theorem Held.goOn_naming (held : turns.Held) (outside : Outside) {transfer : Transfer}
    (isPoint : turns.point = .naming transfer) : (turns.step (.goOn outside)).Held := by
  have reads := held.reads
  have founded := held.founded
  rw [isPoint] at reads founded
  cases found : turns.tables.findById transfer.familyId with
  | none =>
      have isGone : ∀ family ∈ turns.tables.families, transfer.familyId ≠ family.id := by
        intro family isFamily inFamily
        have isThere := held.numbered.find isFamily
        rw [← inFamily, found] at isThere
        cases isThere
      have isEnd : turns.tables.goOn outside turns.point = (turns.tables, .failed notFound) := by
        rw [isPoint, goOn, updateFounder, found]
        rfl
      refine held.end_transfer isEnd (congrArg Point.transfer isPoint) ?_ ?_
      · exact fun family isFamily inFamily => absurd inFamily (isGone family isFamily)
      · intro family isFamily isNamed
        rw [isPoint] at isNamed
        exact isGone family isFamily (Option.some_inj.mp isNamed).symm
  | some family =>
      have isStep : turns.tables.goOn outside turns.point =
          ({ turns.tables with
              families := KeyedRows.update Family.id transfer.familyId
                (fun family => { family with founderId := transfer.userId })
                turns.tables.families },
            .logging transfer.familyId transfer.actorId .transferLeadership) := by
        rw [isPoint, goOn, updateFounder, found]
        rfl
      have numbered := held.numbered.change (turns.tables.change_goOn outside turns.point)
      rw [isStep] at numbered
      refine held_of_goOn isStep numbered ?_ trivial
      have isUnderWay : transfer ∈ turns.stopped ++ [transfer] :=
        List.mem_append_right _ (List.mem_singleton_self _)
      have isLeft : turns.left (.logging transfer.familyId transfer.actorId .transferLeadership) =
          (turns.stopped ++ [transfer]).filter fun other => other ≠ transfer := by
        unfold left
        rw [isPoint, if_neg (by rintro ⟨⟩), List.filter_append, List.filter_singleton]
        simp [Point.transfer]
      rw [isLeft]
      show Founded _ (_ ++ []) none
      rw [List.append_nil]
      exact founded.named isUnderWay reads rfl rfl rfl

theorem Held.goOn_transferGet (held : turns.Held) (outside : Outside) {transfer : Transfer}
    (isPoint : turns.point = .transferGet transfer) : (turns.step (.goOn outside)).Held := by
  by_cases isGone : (turns.tables.findById transfer.familyId).isNone = true
  · have isEnd : turns.tables.goOn outside turns.point =
        (turns.tables, .failed familyNotFound) := by
      rw [isPoint, goOn]
      exact if_pos isGone
    have names : ∀ family ∈ turns.tables.families, some family.id ≠ turns.point.unnamed := by
      rw [isPoint]
      intro family _ same
      cases same
    refine held.end_transfer isEnd (congrArg Point.transfer isPoint) ?_ names
    intro family isFamily inFamily
    have isThere := held.numbered.find isFamily
    rw [← inFamily, Option.isNone_iff_eq_none.mp isGone] at isThere
    cases isThere
  · have goesOn : turns.tables.goOn outside turns.point =
        (turns.tables, .transferFindActor transfer) := by
      rw [isPoint, goOn]
      exact if_neg isGone
    exact held.read_transfer goesOn (isPoint ▸ rfl) (isPoint ▸ rfl) (isPoint ▸ rfl) trivial

theorem Held.goOn (held : turns.Held) (outside : Outside)
    (permitted : turns.Permitted (.goOn outside)) : (turns.step (.goOn outside)).Held := by
  cases isPoint : turns.point with
  | transferGet transfer => exact held.goOn_transferGet outside isPoint
  | transferFindActor transfer => exact held.goOn_transferFindActor outside isPoint
  | transferFindTarget transfer actorMember => exact held.goOn_transferFindTarget outside isPoint
  | succeeding transfer actorMember targetMember =>
      refine held.goOn_succeeding outside isPoint (permitted.2 transfer ?_)
      rw [isPoint]
      rfl
  | steppingDown transfer actorMember targetMember =>
      exact held.goOn_steppingDown outside isPoint
  | naming transfer => exact held.goOn_naming outside isPoint
  | _ => exact held.goOn_aside outside (isPoint ▸ rfl) permitted

theorem Held.begin (held : turns.Held) (command : Command) :
    (turns.step (.begin command)).Held := by
  rw [step]
  split
  · rename_i isEnded
    have aside : turns.point.transfer = none := by
      cases isPoint : turns.point <;> rw [isPoint] at isEnded <;> first | rfl | cases isEnded
    obtain ⟨isEmpty, isNamed⟩ := underWay_of_aside aside
    have founded := held.founded
    rw [isEmpty, isNamed] at founded
    refine ⟨held.numbered, ?_, ?_⟩
    · cases command with
      | kick actorId familyId kickUserId =>
          dsimp only [Families.begin]
          split <;> exact founded
      | _ => exact founded
    · cases command with
      | kick actorId familyId kickUserId =>
          dsimp only [Families.begin]
          split <;> exact trivial
      | _ => exact trivial
  · exact held

theorem Held.stop (held : turns.Held) (isNamed : turns.point.unnamed = none) :
    (turns.step .stop).Held := by
  have founded := held.founded
  rw [isNamed] at founded
  refine ⟨held.numbered, ?_, trivial⟩
  show Founded _ (_ ++ _ ++ []) none
  rw [List.append_nil]
  exact founded

theorem Held.step (held : turns.Held) (event : Turn) (permitted : turns.Permitted event) :
    (turns.step event).Held := by
  cases event with
  | begin command => exact held.begin command
  | goOn outside => exact held.goOn outside permitted
  | stop => exact held.stop permitted

theorem held_opening : ({} : Turns).Held where
  numbered := World.kept_opening.numbered
  founded := ⟨nofun, nofun, nofun, nofun, nofun⟩
  reads := trivial

/-! ### What a step does to roles and founders -/

/-- While every family's founder is named, he has the founder's role. -/
theorem Held.role_of_founder (held : turns.Held) (isNamed : turns.point.unnamed = none)
    {family : Family} (isFamily : family ∈ turns.tables.families) {member : FamilyMember}
    (isMember : member ∈ turns.tables.members) (isFounder : member.userId = family.founderId) :
    member.role = "FOUNDER" := by
  obtain ⟨head, isHead, _, isUser, isRole⟩ := held.founded.headed family isFamily (isNamed ▸ nofun)
  rw [held.numbered.user_unique isMember isHead (isFounder.trans isUser.symm)]
  exact isRole

/-- Rows that stay, or go with no founder among them. -/
theorem fair_of_kept (held : turns.Held)
    (subset : ∀ later ∈ after.members, later ∈ turns.tables.members ∨
      turns.tables.nextId ≤ later.id)
    (founders : ∀ family ∈ turns.tables.families, family.id ∈ after.families.map Family.id →
      ∀ member ∈ turns.tables.members, member.familyId = family.id →
        member.userId = family.founderId → member ∈ after.members) :
    turns.point.Fair turns.tables after where
  roles := by
    intro member isMember later isLater sameId changed
    rcases subset later isLater with earlier | isNew
    · exact absurd (held.numbered.row_unique earlier isMember sameId ▸ rfl) changed
    · rw [sameId] at isNew
      exact absurd (held.numbered.memberBelow member isMember).1 (Nat.not_lt.mpr isNew)
  founders := fun family isFamily remains member isMember inFamily isFounder =>
    Or.inl (founders family isFamily remains member isMember inFamily isFounder)

/-- A role is written into one row: of a member who ranks lower, or in the founder's transfer. -/
theorem fair_of_writing (held : turns.Held) {target : FamilyMember} {role : String}
    (isNamed : turns.point.unnamed = none) (isTarget : target ∈ turns.tables.members)
    (members : after.members = writing target.id role turns.tables.members)
    (may : (isLeader target.role = false ∧ ∃ actor target' role',
        turns.point = .promoting actor target' role' ∧ actor ∈ turns.tables.members ∧
          actor.familyId = target.familyId ∧ rank target.role < rank actor.role) ∨
      ∃ transfer, turns.point.transfer = some transfer ∧ transfer.familyId = target.familyId ∧
        ∀ family ∈ turns.tables.families, family.id = target.familyId →
          family.founderId = transfer.actorId) :
    turns.point.Fair turns.tables after where
  roles := by
    intro member isMember later isLater sameId changed
    rw [members] at isLater
    obtain ⟨before, isBefore, rfl⟩ := KeyedRows.mem_update isLater
    by_cases isWritten : before.id = target.id
    · rw [if_pos isWritten] at sameId
      have isSame := held.numbered.row_unique isMember isTarget (sameId.symm.trans isWritten)
      rw [isSame]
      exact may.imp_left And.right
    · rw [if_neg isWritten] at sameId changed
      exact absurd (held.numbered.row_unique isBefore isMember sameId ▸ rfl) changed
  founders := by
    intro family isFamily _ member isMember inFamily isFounder
    by_cases isWritten : member.id = target.id
    · have isSame := held.numbered.row_unique isMember isTarget isWritten
      rcases may with ⟨notLed, _⟩ | ⟨transfer, isTransfer, sameFamily, isIts⟩
      · have isRole := held.role_of_founder isNamed isFamily isMember isFounder
        exact absurd isRole (not_founder (isSame ▸ notLed))
      · have inTarget : family.id = target.familyId := inFamily.symm.trans (isSame ▸ rfl)
        exact Or.inr ⟨transfer, isTransfer, sameFamily.trans inTarget.symm,
          (isIts family isFamily inTarget).symm⟩
    · refine Or.inl ?_
      rw [members]
      exact List.mem_map.mpr ⟨member, isMember, if_neg isWritten⟩

theorem Held.fair_goOn (held : turns.Held) (outside : Outside)
    (permitted : turns.Permitted (.goOn outside)) :
    turns.point.Fair turns.tables (turns.tables.goOn outside turns.point).1 := by
  obtain ⟨tables, point, stopped⟩ := turns
  have change := tables.change_goOn outside point
  dsimp only at change ⊢
  generalize (tables.goOn outside point).1 = after at change ⊢
  cases change with
  | kept families members nextId =>
      refine fair_of_kept held (fun later isLater => Or.inl (members ▸ isLater)) ?_
      exact fun _ _ _ member isMember _ _ => members ▸ isMember
  | created isNew families members nextId =>
      refine fair_of_kept held ?_ ?_
      · intro later isLater
        rw [members] at isLater
        refine (List.mem_append.mp isLater).imp_right fun isRow => ?_
        rw [List.mem_singleton.mp isRow]
        exact Nat.le_succ _
      · intro _ _ _ member isMember _ _
        rw [members]
        exact List.mem_append_left _ isMember
  | admitted admits isNew found families members nextId =>
      refine fair_of_kept held ?_ ?_
      · intro later isLater
        rw [members] at isLater
        refine (List.mem_append.mp isLater).imp_right fun isRow => ?_
        rw [List.mem_singleton.mp isRow]
        exact Nat.le_refl _
      · intro _ _ _ member isMember _ _
        rw [members]
        exact List.mem_append_left _ isMember
  | @removed _ familyId userId _ row _ removes found isRow families members nextId =>
      have notFounder : row.role ≠ "FOUNDER" := by
        cases removes with
        | leave => exact held.reads row isRow
        | kick => exact held.reads row isRow
      have isNamed : point.unnamed = none := by
        cases removes <;> rfl
      refine fair_of_kept held ?_ ?_
      · intro later isLater
        rw [members] at isLater
        exact Or.inl (List.mem_of_mem_filter isLater)
      · intro family isFamily _ member isMember _ isFounder
        rw [members]
        refine List.mem_filter.mpr ⟨isMember, decide_eq_true fun sameUser => notFounder ?_⟩
        have isThere := KeyedRows.find_of_mem held.numbered.single isMember
        rw [sameUser] at isThere
        rw [← Option.some_inj.mp (isThere.symm.trans isRow)]
        exact held.role_of_founder isNamed isFamily isMember isFounder
  | written writes isMember families members nextId =>
      cases writes with
      | promote actor =>
          obtain ⟨isActor, isTarget, sameFamily, notLed, isLower⟩ := held.reads
          exact fair_of_writing held rfl isTarget members
            (Or.inl ⟨notLed, actor, _, _, rfl, isActor, sameFamily, isLower⟩)
      | succeed transfer actorMember targetMember =>
          obtain ⟨⟨isActor, inFamily, isUser, leads, different⟩, isTarget, targetInFamily, _⟩ :=
            held.reads
          have founded := held.founded
          refine fair_of_writing held rfl isTarget members
            (Or.inr ⟨transfer, rfl, targetInFamily.symm, fun family isFamily isIts => ?_⟩)
          refine (founded.founder_of_leader isActor inFamily isUser leads different ?_ isFamily
            (targetInFamily.symm.trans isIts.symm)).symm
          intro other isUnderWay
          exact permitted.2 transfer rfl other
            ((List.mem_append.mp isUnderWay).resolve_right nofun)
      | stepDown transfer actorMember targetMember =>
          obtain ⟨isActor, inFamily, isUser⟩ := held.reads
          refine fair_of_writing held rfl isActor members
            (Or.inr ⟨transfer, rfl, inFamily.symm, fun family isFamily isIts => ?_⟩)
          have isUnderWay : transfer ∈ stopped ++ [transfer] :=
            List.mem_append_right _ (List.mem_singleton_self _)
          exact (held.founded.successors family isFamily transfer isUnderWay
            (inFamily.symm.trans isIts.symm)).1.symm
  | named found families members nextId =>
      refine fair_of_kept held (fun later isLater => Or.inl (members ▸ isLater)) ?_
      exact fun _ _ _ member isMember _ _ => members ▸ isMember
  | disbanded families members nextId =>
      refine fair_of_kept held ?_ ?_
      · intro later isLater
        rw [members] at isLater
        exact Or.inl (List.mem_of_mem_filter isLater)
      · intro family isFamily remains member isMember inFamily _
        rw [families] at remains
        obtain ⟨other, isLeft, sameId⟩ := List.mem_map.mp remains
        rw [members]
        refine List.mem_filter.mpr ⟨isMember, ?_⟩
        rw [inFamily, ← sameId]
        exact (List.mem_filter.mp isLeft).2

/-- Where nothing happens to the tables. -/
theorem Held.fair_same (held : turns.Held) : turns.point.Fair turns.tables turns.tables :=
  fair_of_kept held (fun _ isLater => Or.inl isLater) fun _ _ _ _ isMember _ _ => isMember

theorem Held.fair (held : turns.Held) (event : Turn) (permitted : turns.Permitted event) :
    turns.Fair event := by
  cases event with
  | begin command =>
      unfold Turns.Fair
      rw [Turns.step]
      split <;> exact held.fair_same
  | goOn outside => exact held.fair_goOn outside permitted
  | stop => exact held.fair_same

/-- With no transfer under way a family's leaders are its founder. -/
theorem Held.oneFounder (held : turns.Held) (idle : turns.Idle) : turns.tables.OneFounder := by
  have founded := held.founded
  have aside : turns.point.transfer = none := by
    have isEnded := idle.1
    cases isPoint : turns.point <;> rw [isPoint] at isEnded <;> first | rfl | cases isEnded
  obtain ⟨isEmpty, isNamed⟩ := underWay_of_aside aside
  rw [isEmpty, isNamed, idle.2] at founded
  intro family isFamily
  obtain ⟨head, isHead, inFamily, isUser, isRole⟩ := founded.headed family isFamily nofun
  have only : ∀ member ∈ turns.tables.members, member.familyId = family.id →
      member.role = "FOUNDER" → member = head := by
    intro member isMember itsFamily isFounder
    have leads : isLeader member.role = true := isFounder ▸ isLeader_founder
    have named := (founded.leaders family isFamily member isMember itsFamily leads).resolve_right
      fun ⟨_, impossible, _⟩ => nomatch impossible
    exact held.numbered.user_unique isMember isHead (named.trans isUser.symm)
  have distinct : turns.tables.members.Nodup := held.numbered.members.of_map _
  have alone : (turns.tables.members.filter fun member =>
      member.familyId = family.id ∧ member.role = "FOUNDER") = [head] := by
    refine List.perm_singleton.mp ((List.perm_ext_iff_of_nodup (distinct.filter _)
      (List.nodup_singleton head)).mpr fun member => ?_)
    rw [List.mem_filter, List.mem_singleton, decide_eq_true_eq]
    constructor
    · exact fun ⟨isMember, itsFamily, isFounder⟩ => only member isMember itsFamily isFounder
    · rintro rfl
      exact ⟨isHead, inFamily, isRole⟩
  unfold founders
  rw [alone, List.map_singleton, isUser]

/-- Whatever is called in turn, and wherever a transfer stops, each family has one founder and
roles move fairly, as long as every step is permitted. -/
theorem oneFounder_of_permitted (events : List Turn)
    (permitted : Runs.Each step Permitted {} events) :
    Runs.Always step (fun turns => turns.Idle → turns.tables.OneFounder) {} events ∧
      Runs.Each step Fair {} events := by
  constructor
  · have always : Runs.Always step Held {} events :=
      Runs.always_of_each (fun turns event held isPermitted => held.step event isPermitted) _
        held_opening events permitted
    exact always.imp fun turns held => held.oneFounder
  · refine Runs.each_of_each ?_ ?_ _ held_opening events permitted
    · exact fun turns event held isPermitted => held.step event isPermitted
    · exact fun turns event held isPermitted => held.fair event isPermitted

/-! ### A transfer that stops and is tried again -/

namespace Retried

def outside : Outside := { config := { joinCooldownSeconds := 0 } }

def run (steps : Nat) : List Turn := List.replicate steps (.goOn outside)

/-- Ann founds a family that Bob joins. -/
def founding : List Turn :=
  .begin (.create "ann" "Alpha" true) :: run 4 ++ (.begin (.join "bob" 0) :: run 6)

/-- A transfer from Ann to Bob that stops after some of its steps, and a second one. -/
def events (steps : Nat) : List Turn :=
  founding ++ (.begin (.transferLeadership "ann" 0 "bob") :: run steps ++ [.stop]) ++
    (.begin (.transferLeadership "ann" 0 "bob") :: run 7)

end Retried

open Retried in
theorem oneFounder_retried :
    Runs.Always step (fun turns => turns.Idle → turns.tables.OneFounder) {} (events 4) ∧
      Runs.Each step Fair {} (events 4) :=
  oneFounder_of_permitted (events 4) (by decide +kernel)

/-- Stopped after its second write, the transfer cannot be tried again: its actor leads no more,
and stays the family's founder. -/
theorem not_oneFounder_stopped :
    ¬Runs.Always step (fun turns : Turns => turns.Idle → turns.tables.OneFounder) {}
      (Retried.events 5) := by
  intro always
  have final := Runs.Always.final always
  have isThere : (Runs.run step {} (Retried.events 5)).tables.families =
      [{ id := 0, name := "Alpha", tag := "ALPH", founderId := "ann", memberCount := 2
         maxMembers := 100, privacy := .isPublic }] := by
    decide +kernel
  have one := final ⟨by decide +kernel, by decide +kernel⟩ _ (isThere ▸ List.mem_singleton_self _)
  have founders : (Runs.run step {} (Retried.events 5)).tables.founders 0 = ["bob"] := by
    decide +kernel
  dsimp only at one
  rw [founders] at one
  exact absurd one (by decide)

end Turns

end Soulzaa.Families
