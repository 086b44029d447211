/-
Roles, permissions, and their two caches.

A user's roles are those granted and those below them in the hierarchy, and the permissions are
those attached to any of these.  Both answers are cached per user, and every change of the RBAC
tables drops the caches of the users it takes to be affected.
-/

import Mathlib.Logic.Function.Basic
import Soulzaa.Lib.Reachability

namespace Soulzaa.Authorization

open Relation (ReflTransGen)

abbrev UserId := String
abbrev RoleId := String
abbrev PermissionId := String

/-! ### Tables -/

structure Role where
  id : RoleId
  name : String
  deriving DecidableEq, Repr

structure Permission where
  id : PermissionId
  code : String
  deriving DecidableEq, Repr

structure RolePermission where
  roleId : RoleId
  permissionId : PermissionId
  deriving DecidableEq, Repr

/-- An assignment; `suspended` says that `suspendedAt` is set. -/
structure UserRole where
  userId : UserId
  roleId : RoleId
  suspended : Bool := false
  deriving DecidableEq, Repr

structure RoleHierarchy where
  parentRoleId : RoleId
  childRoleId : RoleId
  deriving DecidableEq, Repr

structure Database where
  roles : List Role
  permissions : List Permission
  rolePermissions : List RolePermission
  userRoles : List UserRole
  roleHierarchy : List RoleHierarchy
  deriving DecidableEq, Repr

namespace Database

def findRole (db : Database) (id : RoleId) : Option Role :=
  db.roles.find? fun role => role.id = id

def findPermission (db : Database) (id : PermissionId) : Option Permission :=
  db.permissions.find? fun permission => permission.id = id

/-- The name a row's `role` is joined with. -/
def roleName (db : Database) (id : RoleId) : String :=
  ((db.findRole id).map Role.name).getD ""

def permissionCode (db : Database) (id : PermissionId) : String :=
  ((db.findPermission id).map Permission.code).getD ""

end Database

def superAdmin : String := "SUPER_ADMIN"

/-! ### What a user may do -/

namespace Database

/-- The parent role inherits from the child role. -/
def Inherits (db : Database) (parent child : RoleId) : Prop :=
  ({ parentRoleId := parent, childRoleId := child } : RoleHierarchy) ∈ db.roleHierarchy

/-- The role is granted to the user and not suspended, or below one that is. -/
def Reaches (db : Database) (userId : UserId) (roleId : RoleId) : Prop :=
  ∃ granted ∈ db.userRoles, granted.userId = userId ∧ granted.suspended = false ∧
    ReflTransGen db.Inherits granted.roleId roleId

def IsSuperAdmin (db : Database) (userId : UserId) : Prop :=
  ∃ roleId, db.Reaches userId roleId ∧ db.roleName roleId = superAdmin

/-- The wildcard for a super admin, and otherwise the codes attached to the user's roles. -/
def Effective (db : Database) (userId : UserId) (code : String) : Prop :=
  (db.IsSuperAdmin userId ∧ code = "*") ∨
    (¬db.IsSuperAdmin userId ∧ ∃ attached ∈ db.rolePermissions,
      db.Reaches userId attached.roleId ∧ db.permissionCode attached.permissionId = code)

end Database

/-! ### AuthorizationCacheService -/

structure UserRoleInfo where
  roleId : RoleId
  roleName : String
  isDirect : Bool
  deriving DecidableEq, Repr

/-- The tables and the two caches, whose entries do not expire. -/
structure World where
  db : Database
  cachedRoles : UserId → Option (List UserRoleInfo)
  cachedPermissions : UserId → Option (List String)

namespace World

def withDatabase (world : World) (db : Database) : World :=
  { world with db := db }

def setCachedRoles (world : World) (userId : UserId) (roles : List UserRoleInfo) : World :=
  { world with cachedRoles := Function.update world.cachedRoles userId (some roles) }

def setCachedPermissions (world : World) (userId : UserId) (permissions : List String) : World :=
  { world with
    cachedPermissions := Function.update world.cachedPermissions userId (some permissions) }

def invalidateUser (world : World) (userId : UserId) : World :=
  { world with
    cachedRoles := Function.update world.cachedRoles userId none
    cachedPermissions := Function.update world.cachedPermissions userId none }

def invalidateUsers (world : World) (userIds : List UserId) : World :=
  userIds.foldl invalidateUser world

/-! ### RoleResolver -/

def getDirectUserRoles (db : Database) (userId : UserId) : List UserRoleInfo :=
  (db.userRoles.filter fun granted => granted.userId = userId ∧ granted.suspended = false).map
    fun granted =>
      { roleId := granted.roleId
        roleName := db.roleName granted.roleId
        isDirect := true }

/-- The edges as the traversal follows them, with the child role each leads to. -/
def hierarchyEdges (db : Database) : List (RoleId × UserRoleInfo) :=
  db.roleHierarchy.map fun edge =>
    (edge.parentRoleId,
      { roleId := edge.childRoleId
        roleName := db.roleName edge.childRoleId
        isDirect := false })

/-- `none` if the traversal ran out of rounds. -/
def resolveAllUserRoles (world : World) (userId : UserId) :
    Option (World × List UserRoleInfo) :=
  match world.cachedRoles userId with
  | some cached => some (world, cached)
  | none =>
      let directRoles := getDirectUserRoles world.db userId
      if directRoles = [] then some (world.setCachedRoles userId [], [])
      else
        let edges := hierarchyEdges world.db
        (Reachability.explore UserRoleInfo.roleId edges (directRoles.length + edges.length)
          directRoles []).map fun result => (world.setCachedRoles userId result, result)

/-! ### PermissionResolver -/

/-- The codes of the permissions attached to the roles, each once. -/
def codesOf (db : Database) (roleIds : List RoleId) : List String :=
  ((db.rolePermissions.filter fun attached => attached.roleId ∈ roleIds).map fun attached =>
    db.permissionCode attached.permissionId).dedup

def resolveUserPermissions (world : World) (userId : UserId) : Option (World × List String) :=
  match world.cachedPermissions userId with
  | some cached => some (world, cached)
  | none =>
      (world.resolveAllUserRoles userId).map fun (world, roles) =>
        let permissions :=
          if roles = [] then []
          else if roles.any fun role => role.roleName = superAdmin then ["*"]
          else codesOf world.db (roles.map UserRoleInfo.roleId)
        (world.setCachedPermissions userId permissions, permissions)

/-! ### RoleService -/

def assignRoleToUser (world : World) (userId : UserId) (roleId : RoleId) : World :=
  match world.db.findRole roleId with
  | none => world
  | some _ =>
      -- An assignment that exists keeps its suspension.
      let userRoles :=
        if world.db.userRoles.any fun row => row.userId = userId ∧ row.roleId = roleId then
          world.db.userRoles
        else world.db.userRoles ++ [{ userId := userId, roleId := roleId }]
      (world.withDatabase { world.db with userRoles := userRoles }).invalidateUser userId

def removeRoleFromUser (world : World) (userId : UserId) (roleId : RoleId) : World :=
  let userRoles := world.db.userRoles.filter fun row =>
    ¬(row.userId = userId ∧ row.roleId = roleId)
  (world.withDatabase { world.db with userRoles := userRoles }).invalidateUser userId

/-- The users with a row for one of the roles, suspended or not. -/
def holders (db : Database) (roleIds : List RoleId) : List UserId :=
  (db.userRoles.filter fun row => row.roleId ∈ roleIds).map UserRole.userId

/-- The role and everything above it, or `none` if the walk ran out of rounds. -/
def affectedRoleIds (db : Database) (parentRoleId : RoleId) : Option (List RoleId) :=
  let edges := db.roleHierarchy.map fun edge => (edge.parentRoleId, edge.childRoleId)
  Reachability.climb edges (edges.length + 1) [parentRoleId]

def invalidateHierarchyAffectedUsers (world : World) (parentRoleId : RoleId) : Option World :=
  (affectedRoleIds world.db parentRoleId).map fun roleIds =>
    world.invalidateUsers (holders world.db roleIds)

/-- Refused for a loop and, by the foreign keys, for a role that does not exist. -/
def addRoleHierarchyEdge (world : World) (edge : RoleHierarchy) : Option World :=
  if edge.parentRoleId = edge.childRoleId then some world
  else if world.db.findRole edge.parentRoleId = none ∨
      world.db.findRole edge.childRoleId = none then
    some world
  else
    let roleHierarchy :=
      if edge ∈ world.db.roleHierarchy then world.db.roleHierarchy
      else world.db.roleHierarchy ++ [edge]
    (world.withDatabase
      { world.db with roleHierarchy := roleHierarchy }).invalidateHierarchyAffectedUsers
        edge.parentRoleId

def removeRoleHierarchyEdge (world : World) (edge : RoleHierarchy) : Option World :=
  let roleHierarchy := world.db.roleHierarchy.filter fun other => other ≠ edge
  (world.withDatabase
    { world.db with roleHierarchy := roleHierarchy }).invalidateHierarchyAffectedUsers
      edge.parentRoleId

/-! ### PermissionService -/

def assignPermissionToRole (world : World) (attached : RolePermission) : World :=
  match world.db.findRole attached.roleId, world.db.findPermission attached.permissionId with
  | some _, some _ =>
      let rolePermissions :=
        if attached ∈ world.db.rolePermissions then world.db.rolePermissions
        else world.db.rolePermissions ++ [attached]
      (world.withDatabase { world.db with rolePermissions := rolePermissions }).invalidateUsers
        (holders world.db [attached.roleId])
  | _, _ => world

def removePermissionFromRole (world : World) (attached : RolePermission) : World :=
  let rolePermissions := world.db.rolePermissions.filter fun other => other ≠ attached
  (world.withDatabase { world.db with rolePermissions := rolePermissions }).invalidateUsers
    (holders world.db [attached.roleId])

end World

end Soulzaa.Authorization
