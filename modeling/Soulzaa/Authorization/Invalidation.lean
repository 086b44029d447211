/-
Whether a cached answer is the one the tables give.

A change drops the caches of every user whose roles it can change.  A change of the permissions
of a role drops those of the users with a row for that role, and not of the users who have the
role through the hierarchy.
-/

import Mathlib.Data.List.Dedup
import Soulzaa.Authorization.Roles
import Soulzaa.Lib.Runs

namespace Soulzaa.Authorization

open Relation (ReflTransGen)

/-! ### Answers that agree with the tables -/

/-- The roles listed are those the user has, under their names. -/
structure Lists (db : Database) (userId : UserId) (roles : List UserRoleInfo) : Prop where
  named : ∀ role ∈ roles, role.roleName = db.roleName role.roleId
  reached : ∀ roleId, roleId ∈ roles.map UserRoleInfo.roleId ↔ db.Reaches userId roleId

def Tells (db : Database) (userId : UserId) (codes : List String) : Prop :=
  ∀ code, code ∈ codes ↔ db.Effective userId code

/-- The tables agree on which roles a user has, and on what they are called. -/
structure SameRoles (before after : Database) (userId : UserId) : Prop where
  roles : after.roles = before.roles
  reaches : ∀ roleId, after.Reaches userId roleId ↔ before.Reaches userId roleId

namespace SameRoles

variable {before after : Database} {userId : UserId}

theorem roleName (same : SameRoles before after userId) (roleId : RoleId) :
    after.roleName roleId = before.roleName roleId := by
  unfold Database.roleName Database.findRole
  rw [same.roles]

theorem lists (same : SameRoles before after userId) {roles : List UserRoleInfo}
    (lists : Lists before userId roles) : Lists after userId roles where
  named := fun role member => (lists.named role member).trans (same.roleName role.roleId).symm
  reached := fun roleId => (lists.reached roleId).trans (same.reaches roleId).symm

theorem isSuperAdmin (same : SameRoles before after userId) :
    after.IsSuperAdmin userId ↔ before.IsSuperAdmin userId := by
  unfold Database.IsSuperAdmin
  simp only [same.reaches, same.roleName]

theorem effective (same : SameRoles before after userId)
    (permissions : after.permissions = before.permissions)
    (rolePermissions : after.rolePermissions = before.rolePermissions) (code : String) :
    after.Effective userId code ↔ before.Effective userId code := by
  unfold Database.Effective Database.permissionCode Database.findPermission
  simp only [same.isSuperAdmin, same.reaches, permissions, rolePermissions]

end SameRoles

namespace World

def RolesCurrent (world : World) : Prop :=
  ∀ userId roles, world.cachedRoles userId = some roles → Lists world.db userId roles

def PermissionsCurrent (world : World) : Prop :=
  ∀ userId codes, world.cachedPermissions userId = some codes → Tells world.db userId codes

/-- Every user's permissions are resolved, to what the tables give. -/
def Current (world : World) : Prop :=
  ∀ userId, ∃ next codes, world.resolveUserPermissions userId = some (next, codes) ∧
    Tells world.db userId codes

end World

/-! ### Resolving -/

namespace World

variable {world : World} {db : Database} {userId : UserId}

theorem leads_hierarchyEdges (db : Database) :
    Reachability.Leads UserRoleInfo.roleId (hierarchyEdges db) = db.Inherits := by
  funext parent child
  apply propext
  unfold Reachability.Leads hierarchyEdges Database.Inherits
  constructor
  · rintro ⟨item, member, rfl⟩
    obtain ⟨edge, inTable, same⟩ := List.mem_map.mp member
    cases same
    exact inTable
  · intro inTable
    exact ⟨_, List.mem_map.mpr ⟨_, inTable, rfl⟩, rfl⟩

theorem mem_getDirectUserRoles {roleId : RoleId} :
    (∃ role ∈ getDirectUserRoles db userId, role.roleId = roleId) ↔
      ∃ granted ∈ db.userRoles, granted.userId = userId ∧ granted.suspended = false ∧
        granted.roleId = roleId := by
  unfold getDirectUserRoles
  constructor
  · rintro ⟨role, member, rfl⟩
    obtain ⟨granted, selected, rfl⟩ := List.mem_map.mp member
    obtain ⟨inTable, isUsers⟩ := List.mem_filter.mp selected
    have passes := of_decide_eq_true isUsers
    exact ⟨granted, inTable, passes.1, passes.2, rfl⟩
  · rintro ⟨granted, inTable, isUsers, isActive, rfl⟩
    exact ⟨_, List.mem_map_of_mem (List.mem_filter.mpr
      ⟨inTable, decide_eq_true ⟨isUsers, isActive⟩⟩), rfl⟩

theorem named_getDirectUserRoles :
    ∀ role ∈ getDirectUserRoles db userId, role.roleName = db.roleName role.roleId := by
  intro role member
  obtain ⟨granted, _, rfl⟩ := List.mem_map.mp member
  rfl

theorem reaches_iff_direct {roleId : RoleId} :
    db.Reaches userId roleId ↔
      ∃ start ∈ getDirectUserRoles db userId, ReflTransGen db.Inherits start.roleId roleId := by
  constructor
  · rintro ⟨granted, inTable, isUsers, isActive, path⟩
    obtain ⟨start, member, same⟩ :=
      mem_getDirectUserRoles.mpr ⟨granted, inTable, isUsers, isActive, rfl⟩
    exact ⟨start, member, same ▸ path⟩
  · rintro ⟨start, member, path⟩
    obtain ⟨granted, inTable, isUsers, isActive, same⟩ :=
      mem_getDirectUserRoles.mp ⟨start, member, rfl⟩
    exact ⟨granted, inTable, isUsers, isActive, same ▸ path⟩

theorem lists_of_explore {rounds : Nat} {roles : List UserRoleInfo}
    (explored : Reachability.explore UserRoleInfo.roleId (hierarchyEdges db) rounds
      (getDirectUserRoles db userId) [] = some roles) : Lists db userId roles where
  named := by
    refine Reachability.explore_forall ?_ named_getDirectUserRoles (List.forall_mem_nil _) explored
    intro parent child _ isEdge
    obtain ⟨edge, _, same⟩ := List.mem_map.mp isEdge
    rw [← (Prod.mk.inj same).2]
  reached := by
    intro roleId
    rw [Reachability.mem_explore explored, leads_hierarchyEdges]
    exact reaches_iff_direct.symm

/-- The roles are resolved on any hierarchy, cycles included. -/
theorem resolveAllUserRoles_spec (current : world.RolesCurrent) (userId : UserId) :
    ∃ roles, Lists world.db userId roles ∧
      world.resolveAllUserRoles userId = some (world.setCachedRoles userId roles, roles) := by
  unfold resolveAllUserRoles
  cases cached : world.cachedRoles userId with
  | some roles =>
      have unchanged : world.setCachedRoles userId roles = world := by
        unfold setCachedRoles
        rw [Function.update_eq_self_iff.mpr cached.symm]
      exact ⟨roles, current userId roles cached, by rw [unchanged]⟩
  | none =>
      dsimp only
      split
      · rename_i noneDirect
        refine ⟨[], ⟨List.forall_mem_nil _, ?_⟩, rfl⟩
        intro roleId
        rw [reaches_iff_direct, noneDirect]
        simp only [List.map_nil, List.not_mem_nil, false_and, exists_false]
      · obtain ⟨roles, explored⟩ := Reachability.explore_starts_returns UserRoleInfo.roleId
          (hierarchyEdges world.db) (getDirectUserRoles world.db userId)
        exact ⟨roles, lists_of_explore explored, by rw [explored]; rfl⟩

theorem isSuperAdmin_iff {roles : List UserRoleInfo} (lists : Lists db userId roles) :
    db.IsSuperAdmin userId ↔ ∃ role ∈ roles, role.roleName = superAdmin := by
  constructor
  · rintro ⟨roleId, reached, isNamed⟩
    obtain ⟨role, member, rfl⟩ := List.mem_map.mp ((lists.reached roleId).mpr reached)
    exact ⟨role, member, (lists.named role member).trans isNamed⟩
  · rintro ⟨role, member, isNamed⟩
    exact ⟨role.roleId, (lists.reached role.roleId).mp (List.mem_map_of_mem member),
      (lists.named role member).symm.trans isNamed⟩

theorem mem_codesOf {roleIds : List RoleId} {code : String} :
    code ∈ codesOf db roleIds ↔ ∃ attached ∈ db.rolePermissions, attached.roleId ∈ roleIds ∧
      db.permissionCode attached.permissionId = code := by
  unfold codesOf
  rw [List.mem_dedup, List.mem_map]
  constructor
  · rintro ⟨attached, selected, isCode⟩
    obtain ⟨inTable, isRoles⟩ := List.mem_filter.mp selected
    exact ⟨attached, inTable, of_decide_eq_true isRoles, isCode⟩
  · rintro ⟨attached, inTable, isRoles, isCode⟩
    exact ⟨attached, List.mem_filter.mpr ⟨inTable, decide_eq_true isRoles⟩, isCode⟩

/-- The codes computed from a list of the user's roles. -/
theorem tells_of_lists {roles : List UserRoleInfo} (lists : Lists db userId roles) :
    Tells db userId
      (if roles = [] then []
        else if roles.any fun role => role.roleName = superAdmin then ["*"]
        else codesOf db (roles.map UserRoleInfo.roleId)) := by
  intro code
  unfold Database.Effective
  rw [isSuperAdmin_iff lists]
  split
  · rename_i empty
    subst empty
    have unreached : ∀ roleId, ¬db.Reaches userId roleId := fun roleId reached =>
      List.not_mem_nil ((lists.reached roleId).mpr reached)
    simp only [List.not_mem_nil, false_and, exists_false, not_false_eq_true, true_and, false_or,
      false_iff]
    rintro ⟨attached, _, reached, _⟩
    exact unreached attached.roleId reached
  · split
    · rename_i found
      obtain ⟨role, member, isNamed⟩ := List.any_eq_true.mp found
      have isAdmin : ∃ role ∈ roles, role.roleName = superAdmin :=
        ⟨role, member, of_decide_eq_true isNamed⟩
      simp only [isAdmin, true_and, not_true_eq_false, false_and, or_false, List.mem_singleton]
    · rename_i missing
      have isNot : ¬∃ role ∈ roles, role.roleName = superAdmin := by
        rintro ⟨role, member, isNamed⟩
        exact missing (List.any_eq_true.mpr ⟨role, member, decide_eq_true isNamed⟩)
      rw [mem_codesOf]
      simp only [isNot, false_and, not_false_eq_true, true_and, false_or, lists.reached]

/-- What a read leaves: both caches filled for the user, or nothing if they were. -/
theorem resolveUserPermissions_spec (roles : world.RolesCurrent) (userId : UserId) :
    ∃ next codes, world.resolveUserPermissions userId = some (next, codes) ∧
      ((next = world ∧ world.cachedPermissions userId = some codes) ∨
        (world.cachedPermissions userId = none ∧ Tells world.db userId codes ∧
          ∃ listed, Lists world.db userId listed ∧
            next = (world.setCachedRoles userId listed).setCachedPermissions userId codes)) := by
  unfold resolveUserPermissions
  cases cached : world.cachedPermissions userId with
  | some codes => exact ⟨world, codes, rfl, Or.inl ⟨rfl, rfl⟩⟩
  | none =>
      obtain ⟨listed, lists, resolved⟩ := resolveAllUserRoles_spec roles userId
      dsimp only
      rw [resolved]
      exact ⟨_, _, rfl, Or.inr ⟨rfl, tells_of_lists lists, listed, lists, rfl⟩⟩

/-- Answers are current when the cached ones are. -/
theorem current_iff (roles : world.RolesCurrent) : world.Current ↔ world.PermissionsCurrent := by
  constructor
  · intro current userId codes cached
    obtain ⟨next, answered, resolved, tells⟩ := current userId
    unfold resolveUserPermissions at resolved
    rw [cached] at resolved
    cases resolved
    exact tells
  · intro permissions userId
    obtain ⟨next, codes, resolved, ⟨_, cached⟩ | ⟨_, tells, _⟩⟩ :=
      resolveUserPermissions_spec roles userId
    · exact ⟨next, codes, resolved, permissions userId codes cached⟩
    · exact ⟨next, codes, resolved, tells⟩

/-! ### Dropping caches -/

@[simp] theorem db_invalidateUsers (world : World) (userIds : List UserId) :
    (world.invalidateUsers userIds).db = world.db := by
  induction userIds generalizing world with
  | nil => rfl
  | cons first others ih => exact ih (world.invalidateUser first)

theorem cachedRoles_invalidateUsers {userIds : List UserId} {roles : List UserRoleInfo}
    (cached : (world.invalidateUsers userIds).cachedRoles userId = some roles) :
    userId ∉ userIds ∧ world.cachedRoles userId = some roles := by
  induction userIds generalizing world with
  | nil => exact ⟨List.not_mem_nil, cached⟩
  | cons first others ih =>
      obtain ⟨isOther, before⟩ := @ih (world.invalidateUser first) cached
      unfold invalidateUser at before
      by_cases isFirst : userId = first
      · subst isFirst
        simp at before
      · change Function.update world.cachedRoles first none userId = some roles at before
        rw [Function.update_of_ne isFirst] at before
        exact ⟨fun member => (List.mem_cons.mp member).elim isFirst isOther, before⟩

theorem cachedPermissions_invalidateUsers {userIds : List UserId} :
    (world.invalidateUsers userIds).cachedPermissions userId =
      if userId ∈ userIds then none else world.cachedPermissions userId := by
  induction userIds generalizing world with
  | nil => rfl
  | cons first others ih =>
      change ((world.invalidateUser first).invalidateUsers others).cachedPermissions userId = _
      rw [ih]
      unfold invalidateUser
      by_cases isFirst : userId = first
      · subst isFirst
        simp
      · simp [isFirst]

/-- A change of the tables, after which the caches of some users are dropped. -/
theorem rolesCurrent_of_change (current : world.RolesCurrent) {after : Database}
    {userIds : List UserId}
    (same : ∀ userId, userId ∉ userIds → SameRoles world.db after userId) :
    ((world.withDatabase after).invalidateUsers userIds).RolesCurrent := by
  intro userId roles cached
  obtain ⟨isOther, before⟩ := cachedRoles_invalidateUsers cached
  rw [db_invalidateUsers]
  exact (same userId isOther).lists (current userId roles before)

theorem permissionsCurrent_of_change (current : world.PermissionsCurrent) {after : Database}
    {userIds : List UserId}
    (same : ∀ userId, userId ∉ userIds → world.cachedPermissions userId ≠ none →
      ∀ code, after.Effective userId code ↔ world.db.Effective userId code) :
    ((world.withDatabase after).invalidateUsers userIds).PermissionsCurrent := by
  intro userId codes cached
  rw [cachedPermissions_invalidateUsers] at cached
  split at cached
  · cases cached
  · rename_i isOther
    have before : world.cachedPermissions userId = some codes := cached
    rw [db_invalidateUsers]
    intro code
    rw [current userId codes before code]
    exact (same userId isOther (by rw [before]; exact Option.some_ne_none codes) code).symm

/-! ### Whom a change leaves as they were -/

/-- A change of one user's assignments. -/
theorem sameRoles_of_userRoles (db : Database) {userRoles : List UserRole}
    (same : ∀ row : UserRole, row.userId = userId → (row ∈ userRoles ↔ row ∈ db.userRoles)) :
    SameRoles db { db with userRoles := userRoles } userId where
  roles := rfl
  reaches := by
    intro roleId
    constructor
    · rintro ⟨granted, member, isUsers, rest⟩
      exact ⟨granted, (same granted isUsers).mp member, isUsers, rest⟩
    · rintro ⟨granted, member, isUsers, rest⟩
      exact ⟨granted, (same granted isUsers).mpr member, isUsers, rest⟩

/-- The roles affected are the parent and those above it. -/
theorem affectedRoleIds_spec (db : Database) (parentRoleId : RoleId) :
    ∃ roleIds, affectedRoleIds db parentRoleId = some roleIds ∧
      ∀ roleId, roleId ∈ roleIds ↔ ReflTransGen db.Inherits roleId parentRoleId := by
  obtain ⟨roleIds, climbed⟩ := Reachability.climb_starts_returns
    (db.roleHierarchy.map fun edge => (edge.parentRoleId, edge.childRoleId)) [parentRoleId]
  refine ⟨roleIds, climbed, ?_⟩
  have sameEdges : (fun parent child => (parent, child) ∈
      db.roleHierarchy.map fun edge => (edge.parentRoleId, edge.childRoleId)) = db.Inherits := by
    funext parent child
    apply propext
    constructor
    · intro member
      obtain ⟨edge, inTable, same⟩ := List.mem_map.mp member
      cases same
      exact inTable
    · exact fun inTable => List.mem_map.mpr ⟨_, inTable, rfl⟩
  intro roleId
  rw [Reachability.mem_climb climbed, sameEdges]
  constructor
  · rintro ⟨start, member, path⟩
    exact List.mem_singleton.mp member ▸ path
  · exact fun path => ⟨parentRoleId, List.mem_singleton_self _, path⟩

/-- A change of the edges below one role, for a user who holds nothing above it. -/
theorem sameRoles_of_roleHierarchy (db : Database) {roleHierarchy : List RoleHierarchy}
    {parentRoleId : RoleId} {roleIds : List RoleId}
    (kept : ∀ edge : RoleHierarchy, edge.parentRoleId ≠ parentRoleId →
      (edge ∈ roleHierarchy ↔ edge ∈ db.roleHierarchy))
    (above : ∀ roleId, roleId ∈ roleIds ↔
      ReflTransGen ({ db with roleHierarchy := roleHierarchy } : Database).Inherits roleId
        parentRoleId)
    (isOther : userId ∉ holders db roleIds) :
    SameRoles db { db with roleHierarchy := roleHierarchy } userId where
  roles := rfl
  reaches := by
    intro roleId
    apply exists_congr
    intro granted
    apply and_congr_right
    intro member
    apply and_congr_right
    intro isUsers
    apply and_congr_right
    intro _
    have notAbove : granted.roleId ∉ roleIds := by
      intro isAbove
      apply isOther
      rw [← isUsers]
      exact List.mem_map_of_mem (List.mem_filter.mpr ⟨member, decide_eq_true isAbove⟩)
    exact (Reachability.path_iff_of_avoids
      (fun source target (isElsewhere : source ≠ parentRoleId) => (kept _ isElsewhere).symm)
      (fun path => notAbove ((above granted.roleId).mpr path))).symm

/-! ### Changes one after another -/

inductive RbacEvent where
  | assignRoleToUser (userId : UserId) (roleId : RoleId)
  | removeRoleFromUser (userId : UserId) (roleId : RoleId)
  | addRoleHierarchyEdge (edge : RoleHierarchy)
  | removeRoleHierarchyEdge (edge : RoleHierarchy)
  | assignPermissionToRole (attached : RolePermission)
  | removePermissionFromRole (attached : RolePermission)
  | resolveAllUserRoles (userId : UserId)
  | resolveUserPermissions (userId : UserId)

/-- A call that ran out of rounds would leave everything as it was; none does. -/
def step (world : World) : RbacEvent → World
  | .assignRoleToUser userId roleId => world.assignRoleToUser userId roleId
  | .removeRoleFromUser userId roleId => world.removeRoleFromUser userId roleId
  | .addRoleHierarchyEdge edge => (world.addRoleHierarchyEdge edge).getD world
  | .removeRoleHierarchyEdge edge => (world.removeRoleHierarchyEdge edge).getD world
  | .assignPermissionToRole attached => world.assignPermissionToRole attached
  | .removePermissionFromRole attached => world.removePermissionFromRole attached
  | .resolveAllUserRoles userId => ((world.resolveAllUserRoles userId).map Prod.fst).getD world
  | .resolveUserPermissions userId =>
      ((world.resolveUserPermissions userId).map Prod.fst).getD world

def ofDatabase (db : Database) : World :=
  { db := db
    cachedRoles := fun _ => none
    cachedPermissions := fun _ => none }

/-- Every user with a cached answer who has the role without a row for it is a super admin, or
has the permission from another role too. -/
def Spared (world : World) (attached : RolePermission) : Prop :=
  ∀ userId, world.cachedPermissions userId ≠ none → userId ∉ holders world.db [attached.roleId] →
    world.db.Reaches userId attached.roleId →
      world.db.IsSuperAdmin userId ∨
        ∃ other ∈ world.db.rolePermissions, other ≠ attached ∧
          world.db.permissionCode other.permissionId =
            world.db.permissionCode attached.permissionId ∧
          world.db.Reaches userId other.roleId

/-- A permission is attached or removed only where nobody is missed. -/
def Noticed (world : World) : RbacEvent → Prop
  | .assignPermissionToRole attached =>
      world.db.findRole attached.roleId ≠ none →
        world.db.findPermission attached.permissionId ≠ none →
          attached ∉ world.db.rolePermissions → world.Spared attached
  | .removePermissionFromRole attached =>
      attached ∈ world.db.rolePermissions → world.Spared attached
  | _ => True

/-- What each change leaves of the two caches. -/
structure Kept (before after : World) : Prop where
  roles : before.RolesCurrent → after.RolesCurrent
  permissions : before.RolesCurrent → before.PermissionsCurrent → after.PermissionsCurrent

theorem kept_refl (world : World) : Kept world world where
  roles := id
  permissions := fun _ => id

/-- A change that leaves the permissions of every role as they are. -/
theorem kept_of_change {after : Database} {userIds : List UserId}
    (permissions : after.permissions = world.db.permissions)
    (rolePermissions : after.rolePermissions = world.db.rolePermissions)
    (same : ∀ userId, userId ∉ userIds → SameRoles world.db after userId) :
    Kept world ((world.withDatabase after).invalidateUsers userIds) where
  roles := fun current => rolesCurrent_of_change current same
  permissions := fun _ current => permissionsCurrent_of_change current fun userId isOther _ =>
    (same userId isOther).effective permissions rolePermissions

theorem kept_assignRoleToUser (world : World) (userId : UserId) (roleId : RoleId) :
    Kept world (world.assignRoleToUser userId roleId) := by
  unfold assignRoleToUser
  cases world.db.findRole roleId with
  | none => exact kept_refl world
  | some role =>
      refine @kept_of_change world _ [userId] rfl rfl ?_
      intro other isOther
      apply sameRoles_of_userRoles
      intro row isOthers
      split
      · exact Iff.rfl
      · rw [List.mem_append, List.mem_singleton]
        apply or_iff_left
        rintro rfl
        exact isOther (isOthers ▸ List.mem_singleton_self _)

theorem kept_removeRoleFromUser (world : World) (userId : UserId) (roleId : RoleId) :
    Kept world (world.removeRoleFromUser userId roleId) := by
  refine @kept_of_change world _ [userId] rfl rfl ?_
  intro other isOther
  apply sameRoles_of_userRoles
  intro row isOthers
  rw [List.mem_filter]
  apply and_iff_left
  apply decide_eq_true
  rintro ⟨isUsers, -⟩
  exact isOther (List.mem_singleton.mpr (isOthers.symm.trans isUsers))

/-- The edges are changed first, and what is above the parent is found in the changed ones. -/
theorem kept_of_roleHierarchy (world : World) {roleHierarchy : List RoleHierarchy}
    {parentRoleId : RoleId}
    (kept : ∀ edge : RoleHierarchy, edge.parentRoleId ≠ parentRoleId →
      (edge ∈ roleHierarchy ↔ edge ∈ world.db.roleHierarchy)) :
    ∃ after, (world.withDatabase
        { world.db with roleHierarchy := roleHierarchy }).invalidateHierarchyAffectedUsers
          parentRoleId = some after ∧ Kept world after := by
  obtain ⟨roleIds, climbed, above⟩ := affectedRoleIds_spec
    { world.db with roleHierarchy := roleHierarchy } parentRoleId
  refine ⟨_, congrArg (Option.map _) climbed, ?_⟩
  refine @kept_of_change world { world.db with roleHierarchy := roleHierarchy } _ rfl rfl ?_
  intro userId isOther
  exact sameRoles_of_roleHierarchy world.db kept above isOther

theorem kept_addRoleHierarchyEdge (world : World) (edge : RoleHierarchy) :
    ∃ after, world.addRoleHierarchyEdge edge = some after ∧ Kept world after := by
  unfold addRoleHierarchyEdge
  split
  · exact ⟨world, rfl, kept_refl world⟩
  · split
    · exact ⟨world, rfl, kept_refl world⟩
    · apply kept_of_roleHierarchy
      intro other isElsewhere
      split
      · exact Iff.rfl
      · rw [List.mem_append, List.mem_singleton]
        apply or_iff_left
        rintro rfl
        exact isElsewhere rfl

theorem kept_removeRoleHierarchyEdge (world : World) (edge : RoleHierarchy) :
    ∃ after, world.removeRoleHierarchyEdge edge = some after ∧ Kept world after := by
  apply kept_of_roleHierarchy
  intro other isElsewhere
  rw [List.mem_filter]
  apply and_iff_left
  apply decide_eq_true
  rintro rfl
  exact isElsewhere rfl

theorem rolesCurrent_setCachedRoles (current : world.RolesCurrent) {roles : List UserRoleInfo}
    (lists : Lists world.db userId roles) : (world.setCachedRoles userId roles).RolesCurrent := by
  intro other listed cached
  change Function.update world.cachedRoles userId (some roles) other = some listed at cached
  by_cases isUser : other = userId
  · subst isUser
    rw [Function.update_self] at cached
    cases cached
    exact lists
  · rw [Function.update_of_ne isUser] at cached
    exact current other listed cached

theorem permissionsCurrent_setCachedPermissions (current : world.PermissionsCurrent)
    {codes : List String} (tells : Tells world.db userId codes) :
    (world.setCachedPermissions userId codes).PermissionsCurrent := by
  intro other told cached
  change Function.update world.cachedPermissions userId (some codes) other = some told at cached
  by_cases isUser : other = userId
  · subst isUser
    rw [Function.update_self] at cached
    cases cached
    exact tells
  · rw [Function.update_of_ne isUser] at cached
    exact current other told cached

theorem step_resolveAllUserRoles (world : World) (userId : UserId)
    (current : world.RolesCurrent) :
    ∃ roles, Lists world.db userId roles ∧
      world.step (.resolveAllUserRoles userId) = world.setCachedRoles userId roles := by
  obtain ⟨roles, lists, resolved⟩ := resolveAllUserRoles_spec current userId
  refine ⟨roles, lists, ?_⟩
  rw [step, resolved]
  rfl

theorem kept_resolveUserPermissions (current : world.RolesCurrent) (userId : UserId) :
    Kept world (world.step (.resolveUserPermissions userId)) := by
  obtain ⟨next, codes, resolved, ⟨rfl, _⟩ | ⟨_, tells, roles, lists, rfl⟩⟩ :=
    resolveUserPermissions_spec current userId
  · rw [step, resolved]
    exact kept_refl next
  · rw [step, resolved]
    exact
      { roles := fun _ => rolesCurrent_setCachedRoles current lists
        permissions := fun _ permissions =>
          @permissionsCurrent_setCachedPermissions (world.setCachedRoles userId roles) _
            permissions _ tells }

/-! ### Changes of a role's permissions -/

section Attached

variable {attached : RolePermission} {rolePermissions : List RolePermission}

theorem sameRoles_of_rolePermissions (db : Database) (rolePermissions : List RolePermission)
    (userId : UserId) : SameRoles db { db with rolePermissions := rolePermissions } userId where
  roles := rfl
  reaches := fun _ => Iff.rfl

/-- One role's permission goes, and the code stays for a user who has it elsewhere. -/
theorem effective_of_elsewhere {before after : Database} (same : SameRoles before after userId)
    (permissions : after.permissions = before.permissions)
    (elsewhere : ∀ other ∈ before.rolePermissions, other ≠ attached →
      other ∈ after.rolePermissions)
    (spared : before.Reaches userId attached.roleId → before.IsSuperAdmin userId ∨
      ∃ other ∈ after.rolePermissions,
        before.permissionCode other.permissionId = before.permissionCode attached.permissionId ∧
        before.Reaches userId other.roleId)
    {code : String} (effective : before.Effective userId code) : after.Effective userId code := by
  have sameCode : ∀ id, after.permissionCode id = before.permissionCode id := by
    intro id
    unfold Database.permissionCode Database.findPermission
    rw [permissions]
  rcases effective with ⟨isAdmin, isWildcard⟩ | ⟨notAdmin, source, member, reached, isCode⟩
  · exact Or.inl ⟨same.isSuperAdmin.mpr isAdmin, isWildcard⟩
  · refine Or.inr ⟨fun isAdmin => notAdmin (same.isSuperAdmin.mp isAdmin), ?_⟩
    by_cases isAttached : source = attached
    · subst isAttached
      obtain ⟨other, inTable, sameAs, otherReached⟩ := (spared reached).resolve_left notAdmin
      exact ⟨other, inTable, (same.reaches other.roleId).mpr otherReached,
        (sameCode other.permissionId).trans (sameAs.trans isCode)⟩
    · exact ⟨source, elsewhere source member isAttached, (same.reaches source.roleId).mpr reached,
        (sameCode source.permissionId).trans isCode⟩

/-- The code of a permission the user has from one role alone. -/
theorem effective_alone_iff {db : Database} (reached : db.Reaches userId attached.roleId)
    (notAdmin : ¬db.IsSuperAdmin userId)
    (alone : ∀ other ∈ db.rolePermissions,
      db.permissionCode other.permissionId = db.permissionCode attached.permissionId →
      db.Reaches userId other.roleId → other = attached) :
    db.Effective userId (db.permissionCode attached.permissionId) ↔
      attached ∈ db.rolePermissions := by
  constructor
  · rintro (⟨isAdmin, _⟩ | ⟨_, source, member, sourceReached, isCode⟩)
    · exact absurd isAdmin notAdmin
    · exact alone source member isCode sourceReached ▸ member
  · exact fun member => Or.inr ⟨notAdmin, attached, member, reached, rfl⟩

/-- The permission is attached or removed, and the holders of the role are invalidated. -/
def reattach (world : World) (attached : RolePermission)
    (rolePermissions : List RolePermission) : World :=
  (world.withDatabase { world.db with rolePermissions := rolePermissions }).invalidateUsers
    (holders world.db [attached.roleId])

theorem rolesCurrent_reattach (current : world.RolesCurrent) :
    (world.reattach attached rolePermissions).RolesCurrent :=
  rolesCurrent_of_change current fun userId _ =>
    sameRoles_of_rolePermissions world.db rolePermissions userId

theorem permissionsCurrent_reattach_iff (current : world.PermissionsCurrent)
    (elsewhere : ∀ other, other ≠ attached →
      (other ∈ rolePermissions ↔ other ∈ world.db.rolePermissions))
    (flipped : attached ∈ rolePermissions ↔ attached ∉ world.db.rolePermissions) :
    (world.reattach attached rolePermissions).PermissionsCurrent ↔ world.Spared attached := by
  constructor
  · intro after userId isCached isOther reached
    by_contra unspared
    obtain ⟨notAdmin, noOther⟩ := not_or.mp unspared
    obtain ⟨codes, cached⟩ := Option.ne_none_iff_exists'.mp isCached
    have before := current userId codes cached (world.db.permissionCode attached.permissionId)
    have stillCached : (world.reattach attached rolePermissions).cachedPermissions userId =
        some codes := by
      unfold reattach
      rw [cachedPermissions_invalidateUsers, if_neg isOther]
      exact cached
    have later := after userId codes stillCached
      (world.db.permissionCode attached.permissionId)
    unfold reattach at later
    rw [db_invalidateUsers] at later
    have alone : ∀ other ∈ world.db.rolePermissions,
        world.db.permissionCode other.permissionId =
          world.db.permissionCode attached.permissionId →
        world.db.Reaches userId other.roleId → other = attached := by
      intro other member sameCode otherReached
      by_contra different
      exact noOther ⟨other, member, different, sameCode, otherReached⟩
    have isBefore := effective_alone_iff reached notAdmin alone
    have isAfter := @effective_alone_iff _ _
      { world.db with rolePermissions := rolePermissions } reached notAdmin
      fun other member sameCode otherReached => by
        by_contra different
        exact different (alone other ((elsewhere other different).mp member) sameCode otherReached)
    have unchanged : attached ∈ rolePermissions ↔ attached ∈ world.db.rolePermissions :=
      isAfter.symm.trans (later.symm.trans (before.trans isBefore))
    exact iff_not_self (unchanged.symm.trans flipped)
  · intro spared
    apply permissionsCurrent_of_change current
    intro userId isOther isCached code
    have spares := spared userId isCached isOther
    have back : SameRoles { world.db with rolePermissions := rolePermissions } world.db userId :=
      ⟨rfl, fun _ => Iff.rfl⟩
    constructor
    · apply effective_of_elsewhere back rfl
      · exact fun other member different => (elsewhere other different).mp member
      · intro reached
        refine (spares reached).imp_right ?_
        rintro ⟨other, member, _, sameCode, otherReached⟩
        exact ⟨other, member, sameCode, otherReached⟩
    · apply effective_of_elsewhere
        (sameRoles_of_rolePermissions world.db rolePermissions userId) rfl
      · exact fun other member different => (elsewhere other different).mpr member
      · intro reached
        refine (spares reached).imp_right ?_
        rintro ⟨other, member, different, sameCode, otherReached⟩
        exact ⟨other, (elsewhere other different).mpr member, sameCode, otherReached⟩

end Attached

/-- A permission that is attached already, or not there to be removed. -/
theorem permissionsCurrent_reattach_self (current : world.PermissionsCurrent)
    {attached : RolePermission} {rolePermissions : List RolePermission}
    (same : ∀ other, other ∈ rolePermissions ↔ other ∈ world.db.rolePermissions) :
    (world.reattach attached rolePermissions).PermissionsCurrent := by
  apply permissionsCurrent_of_change current
  intro userId _ _ code
  unfold Database.Effective
  simp only [same]
  rfl

/-! ### Every sequence of changes and reads -/

theorem rolesCurrent_step (current : world.RolesCurrent) (event : RbacEvent) :
    (world.step event).RolesCurrent := by
  cases event with
  | assignRoleToUser userId roleId => exact (kept_assignRoleToUser world userId roleId).roles current
  | removeRoleFromUser userId roleId =>
      exact (kept_removeRoleFromUser world userId roleId).roles current
  | addRoleHierarchyEdge edge =>
      obtain ⟨after, changed, kept⟩ := kept_addRoleHierarchyEdge world edge
      rw [step, changed]
      exact kept.roles current
  | removeRoleHierarchyEdge edge =>
      obtain ⟨after, changed, kept⟩ := kept_removeRoleHierarchyEdge world edge
      rw [step, changed]
      exact kept.roles current
  | assignPermissionToRole attached =>
      rw [step, assignPermissionToRole]
      split
      · exact rolesCurrent_reattach current
      · exact current
  | removePermissionFromRole attached => exact rolesCurrent_reattach current
  | resolveAllUserRoles userId =>
      obtain ⟨roles, lists, resolved⟩ := step_resolveAllUserRoles world userId current
      rw [resolved]
      exact rolesCurrent_setCachedRoles current lists
  | resolveUserPermissions userId =>
      exact (kept_resolveUserPermissions current userId).roles current

theorem permissionsCurrent_step_iff (roles : world.RolesCurrent)
    (current : world.PermissionsCurrent) (event : RbacEvent) :
    (world.step event).PermissionsCurrent ↔ world.Noticed event := by
  cases event with
  | assignRoleToUser userId roleId =>
      exact iff_of_true ((kept_assignRoleToUser world userId roleId).permissions roles current)
        trivial
  | removeRoleFromUser userId roleId =>
      exact iff_of_true ((kept_removeRoleFromUser world userId roleId).permissions roles current)
        trivial
  | addRoleHierarchyEdge edge =>
      obtain ⟨after, changed, kept⟩ := kept_addRoleHierarchyEdge world edge
      rw [step, changed]
      exact iff_of_true (kept.permissions roles current) trivial
  | removeRoleHierarchyEdge edge =>
      obtain ⟨after, changed, kept⟩ := kept_removeRoleHierarchyEdge world edge
      rw [step, changed]
      exact iff_of_true (kept.permissions roles current) trivial
  | assignPermissionToRole attached =>
      rw [step, assignPermissionToRole, Noticed]
      split
      · rename_i role permission isRole isPermission
        rw [isRole, isPermission]
        change (world.reattach attached _).PermissionsCurrent ↔ _
        by_cases already : attached ∈ world.db.rolePermissions
        · rw [if_pos already]
          exact iff_of_true (permissionsCurrent_reattach_self current fun _ => Iff.rfl)
            fun _ _ isNew => absurd already isNew
        · rw [if_neg already, permissionsCurrent_reattach_iff current]
          · simp [already]
          · intro other different
            simp [different]
          · simp [already]
      · rename_i missing
        refine iff_of_true current fun isRole isPermission => ?_
        obtain ⟨role, foundRole⟩ := Option.ne_none_iff_exists'.mp isRole
        obtain ⟨permission, foundPermission⟩ := Option.ne_none_iff_exists'.mp isPermission
        exact absurd foundPermission (missing role permission foundRole)
  | removePermissionFromRole attached =>
      change (world.reattach attached _).PermissionsCurrent ↔ (_ → _)
      by_cases already : attached ∈ world.db.rolePermissions
      · rw [permissionsCurrent_reattach_iff current]
        · simp [already]
        · intro other different
          simp [different]
        · simp [already]
      · refine iff_of_true (permissionsCurrent_reattach_self current ?_) fun isThere =>
          absurd isThere already
        intro other
        rw [List.mem_filter]
        apply and_iff_left_of_imp
        rintro member
        exact decide_eq_true fun same => already (same ▸ member)
  | resolveAllUserRoles userId =>
      obtain ⟨listed, _, resolved⟩ := step_resolveAllUserRoles world userId roles
      rw [resolved]
      exact iff_of_true current trivial
  | resolveUserPermissions userId =>
      exact iff_of_true ((kept_resolveUserPermissions roles userId).permissions roles current)
        trivial

theorem rolesCurrent_ofDatabase (db : Database) : (ofDatabase db).RolesCurrent :=
  fun _ _ cached => nomatch cached

/-- Every answer in a run is the one the tables give exactly when no permission is attached to
or removed from a role that somebody with a cached answer has through the hierarchy alone. -/
theorem current_iff_noticed (db : Database) (events : List RbacEvent) :
    Runs.Always step Current (ofDatabase db) events ↔
      Runs.Each step Noticed (ofDatabase db) events := by
  have noRoles := rolesCurrent_ofDatabase db
  have noPermissions : (ofDatabase db).PermissionsCurrent := fun userId codes cached =>
    nomatch cached
  refine Runs.always_iff_each RolesCurrent ?_ ?_ (ofDatabase db) noRoles
    ((current_iff noRoles).mpr noPermissions) events
  · exact fun world event current _ _ => rolesCurrent_step current event
  · intro world event roles current
    rw [current_iff (rolesCurrent_step roles event)]
    exact permissionsCurrent_step_iff roles ((current_iff roles).mp current) event

/-! ### A permission inherited -/

namespace Inherited

def hierarchy : Database :=
  { roles := [⟨"r-admin", "ADMIN"⟩, ⟨"r-moderator", "MODERATOR"⟩]
    permissions := [⟨"p-ban", "user.ban"⟩]
    rolePermissions := []
    userRoles := [{ userId := "alice", roleId := "r-admin" }]
    roleHierarchy := [{ parentRoleId := "r-admin", childRoleId := "r-moderator" }] }

/-- Alice, an ADMIN, reads her permissions, and MODERATOR is then given one more. -/
def events : List RbacEvent :=
  [.resolveUserPermissions "alice",
    .assignPermissionToRole { roleId := "r-moderator", permissionId := "p-ban" }]

def final : World :=
  Runs.run step (ofDatabase hierarchy) events

end Inherited

open Inherited in
theorem not_current_inherited : ¬Runs.Always step Current (ofDatabase hierarchy) events := by
  intro always
  obtain ⟨next, codes, resolved, tells⟩ := Runs.Always.final always "alice"
  have stale : (final.resolveUserPermissions "alice").map Prod.snd = some [] := by
    decide +kernel
  have computed : ((ofDatabase final.db).resolveUserPermissions "alice").map Prod.snd =
      some ["user.ban"] := by
    decide +kernel
  obtain ⟨_, fresh, resolvedFresh, ⟨_, impossible⟩ | ⟨_, tellsFresh, _⟩⟩ :=
    resolveUserPermissions_spec (rolesCurrent_ofDatabase final.db) "alice"
  · cases impossible
  · rw [resolvedFresh] at computed
    cases computed
    have isEffective := (tellsFresh "user.ban").mp (List.mem_singleton_self _)
    have told := (tells "user.ban").mpr isEffective
    rw [show final.resolveUserPermissions "alice" = some (next, codes) from resolved] at stale
    cases stale
    exact List.not_mem_nil told

end World

end Soulzaa.Authorization
