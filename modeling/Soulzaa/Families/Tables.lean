/-
The tables of families, and the calls that read and write them.

A call makes one read or one transaction at a step.  A transaction that throws writes nothing, and
its call fails.
-/

import Soulzaa.Lib.KeyedRows
import Soulzaa.Lib.Runs

namespace Soulzaa.Families

abbrev UserId := String
abbrev FamilyId := Nat
abbrev MemberId := Nat
abbrev RequestId := Nat

/-! ### Rows -/

inductive Privacy where
  | isPublic
  | isPrivate
  deriving DecidableEq, Repr

structure Family where
  id : FamilyId
  name : String
  tag : String
  founderId : UserId
  memberCount : Int := 1
  maxMembers : Int := 100
  privacy : Privacy
  deriving DecidableEq, Repr

structure FamilyMember where
  id : MemberId
  familyId : FamilyId
  userId : UserId
  role : String := "MEMBER"
  deriving DecidableEq, Repr

inductive RequestStatus where
  | pending
  | approved
  | rejected
  deriving DecidableEq, Repr

structure FamilyJoinRequest where
  id : RequestId
  familyId : FamilyId
  userId : UserId
  status : RequestStatus := .pending
  deriving DecidableEq, Repr

structure FamilyBan where
  familyId : FamilyId
  userId : UserId
  bannedById : UserId
  deriving DecidableEq, Repr

def FamilyBan.key (ban : FamilyBan) : FamilyId × UserId := (ban.familyId, ban.userId)

inductive Action where
  | create
  | delete
  | join
  | leave
  | kick
  | acceptRequest
  | rejectRequest
  | promoteMember
  | transferLeadership
  deriving DecidableEq, Repr

structure FamilyHistory where
  familyId : FamilyId
  userId : UserId
  action : Action
  createdAt : Nat
  deriving DecidableEq, Repr

/-- An id is a number that is given once. -/
structure Tables where
  families : List Family := []
  members : List FamilyMember := []
  requests : List FamilyJoinRequest := []
  bans : List FamilyBan := []
  histories : List FamilyHistory := []
  nextId : Nat := 0
  deriving DecidableEq, Repr

/-! ### Reads and transactions -/

def tagOf (name : String) : String :=
  String.ofList ((name.toList.take 4).map Char.toUpper)

namespace Tables

def findById (tables : Tables) (familyId : FamilyId) : Option Family :=
  KeyedRows.find Family.id familyId tables.families

/-- Names are compared whatever the case of their letters. -/
def findByName (tables : Tables) (name : String) : Option Family :=
  tables.families.find? fun family => family.name.toLower = name.toLower

def findMemberByUserId (tables : Tables) (userId : UserId) : Option FamilyMember :=
  KeyedRows.find FamilyMember.userId userId tables.members

def findRequestById (tables : Tables) (requestId : RequestId) : Option FamilyJoinRequest :=
  KeyedRows.find FamilyJoinRequest.id requestId tables.requests

def findRequestByFamilyAndUser (tables : Tables) (familyId : FamilyId) (userId : UserId) :
    Option FamilyJoinRequest :=
  tables.requests.find? fun request =>
    request.familyId = familyId ∧ request.userId = userId ∧ request.status = .pending

def findBan (tables : Tables) (familyId : FamilyId) (userId : UserId) : Option FamilyBan :=
  KeyedRows.find FamilyBan.key (familyId, userId) tables.bans

/-- When the user was last written down as leaving, or as kicking. -/
def recentLeave (tables : Tables) (userId : UserId) : Option Nat :=
  let leaves := tables.histories.filter fun history =>
    history.userId = userId ∧ (history.action = .leave ∨ history.action = .kick)
  (leaves.map FamilyHistory.createdAt).max?

def logAction (tables : Tables) (now : Nat) (familyId : FamilyId) (userId : UserId)
    (action : Action) : Tables :=
  { tables with
    histories := tables.histories ++
      [{ familyId := familyId
         userId := userId
         action := action
         createdAt := now }] }

/-- A user is a member once. -/
def insertMember (tables : Tables) (familyId : FamilyId) (userId : UserId) (role : String) :
    Option Tables :=
  if userId ∈ tables.members.map FamilyMember.userId then none
  else
    some { tables with
      members := tables.members ++
        [{ id := tables.nextId
           familyId := familyId
           userId := userId
           role := if role = "" then "MEMBER" else role }]
      nextId := tables.nextId + 1 }

def incrementCount (tables : Tables) (familyId : FamilyId) (increment : Int) : Option Tables :=
  (tables.findById familyId).map fun _ =>
    { tables with
      families := KeyedRows.update Family.id familyId
        (fun family => { family with memberCount := family.memberCount + increment })
        tables.families }

/-- Names are unique, and so are tags. -/
def createFamily (tables : Tables) (now : Nat) (name : String) (founderId : UserId)
    (maxMembers : Int) (privacy : Privacy) : Option Tables :=
  if name ∈ tables.families.map Family.name ∨ tagOf name ∈ tables.families.map Family.tag then
    none
  else
    let family : Family :=
      { id := tables.nextId
        name := name
        tag := tagOf name
        founderId := founderId
        maxMembers := maxMembers
        privacy := privacy }
    let created : Tables :=
      { tables with
        families := tables.families ++ [family]
        nextId := tables.nextId + 1 }
    (created.insertMember family.id founderId "FOUNDER").map fun after : Tables =>
      after.logAction now family.id founderId .create

def deleteFamily (tables : Tables) (now : Nat) (familyId : FamilyId) (founderId : UserId) :
    Option Tables :=
  (tables.findById familyId).map fun _ =>
    { tables with
      families := tables.families.filter fun family => family.id ≠ familyId
      members := tables.members.filter fun member => member.familyId ≠ familyId
      requests := tables.requests.filter fun request => request.familyId ≠ familyId }.logAction
        now familyId founderId .delete

def addMember (tables : Tables) (familyId : FamilyId) (userId : UserId) (role : String) :
    Option Tables :=
  (tables.insertMember familyId userId role).bind fun inserted =>
    inserted.incrementCount familyId 1

/-- The row is deleted by its user, and the count is that of the family that is named. -/
def removeMember (tables : Tables) (now : Nat) (familyId : FamilyId) (userId actorId : UserId) :
    Option Tables :=
  (tables.findMemberByUserId userId).bind fun _ =>
    ({ tables with
        members := tables.members.filter fun member => member.userId ≠ userId }.incrementCount
          familyId (-1)).map fun after : Tables =>
      after.logAction now familyId actorId (if actorId = userId then .leave else .kick)

def createBan (tables : Tables) (familyId : FamilyId) (userId bannedById : UserId) : Tables :=
  let ban : FamilyBan :=
    { familyId := familyId
      userId := userId
      bannedById := bannedById }
  { tables with bans := KeyedRows.upsert FamilyBan.key ban tables.bans }

def createRequest (tables : Tables) (familyId : FamilyId) (userId : UserId) : Tables :=
  { tables with
    requests := tables.requests ++
      [{ id := tables.nextId
         familyId := familyId
         userId := userId }]
    nextId := tables.nextId + 1 }

def updateRequest (tables : Tables) (requestId : RequestId) (status : RequestStatus) :
    Option Tables :=
  (tables.findRequestById requestId).map fun _ =>
    { tables with
      requests := KeyedRows.update FamilyJoinRequest.id requestId
        (fun request => { request with status := status }) tables.requests }

def acceptRequest (tables : Tables) (now : Nat) (requestId : RequestId) (familyId : FamilyId)
    (userId actorId : UserId) (role : String) : Option Tables :=
  (tables.updateRequest requestId .approved).bind fun updated =>
    (updated.addMember familyId userId role).map fun after : Tables =>
      after.logAction now familyId actorId .acceptRequest

def rejectRequest (tables : Tables) (now : Nat) (requestId : RequestId) (familyId : FamilyId)
    (actorId : UserId) : Option Tables :=
  (tables.updateRequest requestId .rejected).map fun updated =>
    updated.logAction now familyId actorId .rejectRequest

def updateMember (tables : Tables) (memberId : MemberId) (role : String) : Option Tables :=
  if memberId ∈ tables.members.map FamilyMember.id then
    some { tables with
      members := KeyedRows.update FamilyMember.id memberId
        (fun member => { member with role := role }) tables.members }
  else none

def updateFounder (tables : Tables) (familyId : FamilyId) (founderId : UserId) : Option Tables :=
  (tables.findById familyId).map fun _ =>
    { tables with
      families := KeyedRows.update Family.id familyId
        (fun family => { family with founderId := founderId }) tables.families }

end Tables

/-! ### Roles -/

def isLeader (role : String) : Bool :=
  role.toUpper = "FOUNDER" ∨ role.toUpper = "LEADER"

def isCoLeader (role : String) : Bool :=
  role.toUpper = "CO_FOUNDER" ∨ role.toUpper = "CO_LEADER"

def roleWeight (role : String) : Nat :=
  if role = "FOUNDER" then 4
  else if role = "CO_FOUNDER" then 3
  else if role = "ELDER" then 2
  else 1

/-- The role that is written for one that is asked for. -/
def targetRoleOf (role : String) : String :=
  if role.toUpper = "CO_LEADER" then "CO_FOUNDER"
  else if role.toUpper = "LEADER" then "FOUNDER"
  else role.toUpper

/-- Why an actor may not give the target a role. -/
def promotionRefused (actorRole currentTargetRole targetRole : String) : Option String :=
  if isLeader currentTargetRole then
    some "You cannot promote or demote the family Leader. Use leadership transfer."
  else if isCoLeader targetRole ∧ isLeader actorRole = false then
    some "Only the Leader can promote a member to Co-Leader."
  else if isCoLeader currentTargetRole ∧ isLeader actorRole = false then
    some "Only the Leader can demote a Co-Leader."
  else if isLeader actorRole = false ∧ isCoLeader actorRole = false then
    some "Only Leaders and Co-Leaders can promote or demote members."
  else none

/-! ### Calls -/

structure FamilyConfig where
  maxMembers : Int := 100
  creationCost : Int := 1000
  defaultRole : String := "MEMBER"
  autoApprove : Bool := false
  joinCooldownSeconds : Int := 86400
  deriving DecidableEq, Repr

/-- What a step reads outside the tables: the clock, the configuration, and whether the wallet
pays. -/
structure Outside where
  now : Nat := 0
  config : FamilyConfig := {}
  paid : Bool := true
  deriving DecidableEq, Repr

inductive Command where
  | create (creatorId : UserId) (name : String) (autoAccept : Bool)
  | join (userId : UserId) (familyId : FamilyId)
  | handleRequest (actorId : UserId) (familyId : FamilyId) (requestId : RequestId)
      (approved : Bool)
  | leave (userId : UserId) (familyId : FamilyId)
  | kick (actorId : UserId) (familyId : FamilyId) (kickUserId : UserId)
  | promote (actorId : UserId) (familyId : FamilyId) (userId : UserId) (role : String)
  | transferLeadership (actorId : UserId) (familyId : FamilyId) (userId : UserId)
  | disband (actorId : UserId) (familyId : FamilyId)
  deriving DecidableEq, Repr

/-- A transfer, as its actor asks for it. -/
structure Transfer where
  actorId : UserId
  familyId : FamilyId
  userId : UserId
  deriving DecidableEq, Repr

/-- Where a call stands: what it does next, with what it has read. -/
inductive Point where
  | createFindMember (creatorId : UserId) (name : String) (privacy : Privacy)
  | createFindName (creatorId : UserId) (name : String) (privacy : Privacy)
  | debiting (creatorId : UserId) (name : String) (privacy : Privacy)
  | creating (creatorId : UserId) (name : String) (privacy : Privacy) (maxMembers : Int)
  | joinFindMember (userId : UserId) (familyId : FamilyId)
  | joinCooldown (userId : UserId) (familyId : FamilyId)
  | joinGet (userId : UserId) (familyId : FamilyId) (config : FamilyConfig)
  | joinFindBan (userId : UserId) (familyId : FamilyId) (role : String)
  | adding (userId : UserId) (familyId : FamilyId) (role : String)
  | findingRequest (userId : UserId) (familyId : FamilyId)
  | requestFindBan (userId : UserId) (familyId : FamilyId)
  | requesting (userId : UserId) (familyId : FamilyId)
  | handleFindRequest (actorId : UserId) (familyId : FamilyId) (requestId : RequestId)
      (approved : Bool)
  | handleFindMember (actorId : UserId) (request : FamilyJoinRequest) (approved : Bool)
  | handleGet (actorId : UserId) (request : FamilyJoinRequest) (approved : Bool)
  | handleFindTarget (actorId : UserId) (request : FamilyJoinRequest)
  | handleFindBan (actorId : UserId) (request : FamilyJoinRequest)
  | accepting (actorId : UserId) (request : FamilyJoinRequest)
  | rejecting (actorId : UserId) (request : FamilyJoinRequest) (error : Option String)
  | leaveFindMember (userId : UserId) (familyId : FamilyId)
  | leaving (userId : UserId) (familyId : FamilyId)
  | kickFindActor (actorId : UserId) (familyId : FamilyId) (kickUserId : UserId)
  | kickFindTarget (actor : FamilyMember) (familyId : FamilyId) (kickUserId : UserId)
  | kicking (actorId : UserId) (familyId : FamilyId) (kickUserId : UserId)
  | banning (actorId : UserId) (familyId : FamilyId) (kickUserId : UserId)
  | promoteGet (actorId : UserId) (familyId : FamilyId) (userId : UserId) (role : String)
  | promoteFindActor (actorId : UserId) (familyId : FamilyId) (userId : UserId) (role : String)
  | promoteFindTarget (actor : FamilyMember) (familyId : FamilyId) (userId : UserId)
      (role : String)
  | promoting (actor target : FamilyMember) (role : String)
  | transferGet (transfer : Transfer)
  | transferFindActor (transfer : Transfer)
  | transferFindTarget (transfer : Transfer) (actorMember : FamilyMember)
  | succeeding (transfer : Transfer) (actorMember targetMember : FamilyMember)
  | steppingDown (transfer : Transfer) (actorMember targetMember : FamilyMember)
  | naming (transfer : Transfer)
  | disbandGet (actorId : UserId) (familyId : FamilyId)
  | deleting (actorId : UserId) (familyId : FamilyId)
  | logging (familyId : FamilyId) (userId : UserId) (action : Action)
  | done
  | failed (message : String)
  deriving DecidableEq, Repr

def Point.ended : Point → Bool
  | .done | .failed _ => true
  | _ => false

def begin : Command → Point
  | .create creatorId name autoAccept =>
      .createFindMember creatorId name (if autoAccept = true then .isPublic else .isPrivate)
  | .join userId familyId => .joinFindMember userId familyId
  | .handleRequest actorId familyId requestId approved =>
      .handleFindRequest actorId familyId requestId approved
  | .leave userId familyId => .leaveFindMember userId familyId
  | .kick actorId familyId kickUserId =>
      if actorId = kickUserId then .failed "You cannot kick yourself. Use leave instead."
      else .kickFindActor actorId familyId kickUserId
  | .promote actorId familyId userId role => .promoteGet actorId familyId userId role
  | .transferLeadership actorId familyId userId => .transferGet ⟨actorId, familyId, userId⟩
  | .disband actorId familyId => .disbandGet actorId familyId

namespace Tables

/-- A transaction that commits, or the error it throws. -/
def orThrow (tables : Tables) (written : Option Tables) (message : String) (next : Point) :
    Tables × Point :=
  match written with
  | some after => (after, next)
  | none => (tables, .failed message)

def alreadyInFamily : String := "You are already a member of a family."
def notInFamily : String := "You are not a member of this family."
def familyNotFound : String := "Family not found."
def targetNotMember : String := "Target user is not a member of this family."
def notFound : String := "Record to update not found."
def uniqueFailed : String := "Unique constraint failed"

/-- Whether the cooldown of a user is over, or the error. -/
def cooldown (tables : Tables) (outside : Outside) (userId : UserId) : Option String :=
  if outside.config.joinCooldownSeconds ≤ 0 then none
  else
    match tables.recentLeave userId with
    | none => none
    | some createdAt =>
        let elapsedSeconds : Int := ((outside.now : Int) - createdAt) / 1000
        if elapsedSeconds < outside.config.joinCooldownSeconds then
          let remainingSeconds := outside.config.joinCooldownSeconds - elapsedSeconds
          let remainingMinutes := (remainingSeconds + 59) / 60
          some (s!"Join cooldown active. Please wait {remainingMinutes} minute(s) " ++
            "before joining another family.")
        else none

def joinFamily (tables : Tables) (userId : UserId) (familyId : FamilyId)
    (config : FamilyConfig) : Point :=
  match tables.findById familyId with
  | none => .failed familyNotFound
  | some family =>
      if family.privacy = .isPublic ∨ config.autoApprove = true then
        if family.maxMembers ≤ family.memberCount then
          .failed "This family has reached its maximum member limit."
        else .joinFindBan userId familyId config.defaultRole
      else .findingRequest userId familyId

def approve (tables : Tables) (actorId : UserId) (request : FamilyJoinRequest) : Point :=
  match tables.findById request.familyId with
  | none => .failed familyNotFound
  | some family =>
      if family.maxMembers ≤ family.memberCount then
        .failed "This family is full and cannot accept new members."
      else .handleFindTarget actorId request

def promotion (tables : Tables) (actor : FamilyMember) (familyId : FamilyId) (userId : UserId)
    (role : String) : Point :=
  match tables.findMemberByUserId userId with
  | none => .failed targetNotMember
  | some target =>
      if target.familyId ≠ familyId then .failed targetNotMember
      else
        match promotionRefused actor.role target.role (targetRoleOf role) with
        | some message => .failed message
        | none => .promoting actor target (targetRoleOf role)

/-- One read, or one transaction. -/
def goOn (tables : Tables) (outside : Outside) : Point → Tables × Point
  | .createFindMember creatorId name privacy =>
      if (tables.findMemberByUserId creatorId).isSome then
        (tables, .failed "You are already a member of another family.")
      else (tables, .createFindName creatorId name privacy)
  | .createFindName creatorId name privacy =>
      if (tables.findByName name).isSome then (tables, .failed "Family name is already taken.")
      else (tables, .debiting creatorId name privacy)
  | .debiting creatorId name privacy =>
      let cost := outside.config.creationCost
      if 0 < cost ∧ outside.paid = false then
        (tables, .failed s!"Insufficient coins to create a family. Required: {cost} coins.")
      else
        let maxMembers := if outside.config.maxMembers = 0 then 100 else outside.config.maxMembers
        (tables, .creating creatorId name privacy maxMembers)
  | .creating creatorId name privacy maxMembers =>
      tables.orThrow (tables.createFamily outside.now name creatorId maxMembers privacy)
        uniqueFailed .done
  | .joinFindMember userId familyId =>
      if (tables.findMemberByUserId userId).isSome then (tables, .failed alreadyInFamily)
      else (tables, .joinCooldown userId familyId)
  | .joinCooldown userId familyId =>
      match tables.cooldown outside userId with
      | some message => (tables, .failed message)
      | none => (tables, .joinGet userId familyId outside.config)
  | .joinGet userId familyId config => (tables, tables.joinFamily userId familyId config)
  | .joinFindBan userId familyId role =>
      if (tables.findBan familyId userId).isSome then
        (tables, .failed "You are not allowed to join this family.")
      else (tables, .adding userId familyId role)
  | .adding userId familyId role =>
      tables.orThrow (tables.addMember familyId userId role) uniqueFailed
        (.logging familyId userId .join)
  | .findingRequest userId familyId =>
      if (tables.findRequestByFamilyAndUser familyId userId).isSome then
        (tables, .failed "You already have a pending join request for this family.")
      else (tables, .requestFindBan userId familyId)
  | .requestFindBan userId familyId =>
      if (tables.findBan familyId userId).isSome then
        (tables, .failed "You are not allowed to join this family.")
      else (tables, .requesting userId familyId)
  | .requesting userId familyId => (tables.createRequest familyId userId, .done)
  | .handleFindRequest actorId familyId requestId approved =>
      match tables.findRequestById requestId with
      | none => (tables, .failed "Join request not found for this family.")
      | some request =>
          if request.familyId ≠ familyId then
            (tables, .failed "Join request not found for this family.")
          else if request.status ≠ .pending then
            (tables, .failed "This join request has already been processed.")
          else (tables, .handleFindMember actorId request approved)
  | .handleFindMember actorId request approved =>
      match tables.findMemberByUserId actorId with
      | none => (tables, .failed notInFamily)
      | some member =>
          if member.familyId ≠ request.familyId then (tables, .failed notInFamily)
          else if member.role = "MEMBER" then
            (tables, .failed
              "Only Leaders, Co-Leaders, and Elders can approve or reject join requests.")
          else (tables, .handleGet actorId request approved)
  | .handleGet actorId request approved =>
      if approved = true then (tables, tables.approve actorId request)
      else if (tables.findById request.familyId).isNone then (tables, .failed familyNotFound)
      else (tables, .rejecting actorId request none)
  | .handleFindTarget actorId request =>
      if (tables.findMemberByUserId request.userId).isSome then
        (tables, .rejecting actorId request (some "The user has already joined another family."))
      else (tables, .handleFindBan actorId request)
  | .handleFindBan actorId request =>
      if (tables.findBan request.familyId request.userId).isSome then
        (tables, .rejecting actorId request
          (some "This user is banned from the family and cannot be approved."))
      else (tables, .accepting actorId request)
  | .accepting actorId request =>
      tables.orThrow
        (tables.acceptRequest outside.now request.id request.familyId request.userId actorId
          outside.config.defaultRole)
        uniqueFailed .done
  | .rejecting actorId request error =>
      tables.orThrow (tables.rejectRequest outside.now request.id request.familyId actorId)
        notFound (error.elim .done .failed)
  | .leaveFindMember userId familyId =>
      match tables.findMemberByUserId userId with
      | none => (tables, .failed notInFamily)
      | some member =>
          if member.familyId ≠ familyId then (tables, .failed notInFamily)
          else if member.role = "FOUNDER" then
            (tables, .failed
              "Leaders cannot leave without transferring leadership or disbanding the family.")
          else (tables, .leaving userId familyId)
  | .leaving userId familyId =>
      tables.orThrow (tables.removeMember outside.now familyId userId userId) notFound .done
  | .kickFindActor actorId familyId kickUserId =>
      match tables.findMemberByUserId actorId with
      | none => (tables, .failed notInFamily)
      | some actor =>
          if actor.familyId ≠ familyId then (tables, .failed notInFamily)
          else (tables, .kickFindTarget actor familyId kickUserId)
  | .kickFindTarget actor familyId kickUserId =>
      match tables.findMemberByUserId kickUserId with
      | none => (tables, .failed targetNotMember)
      | some target =>
          if target.familyId ≠ familyId then (tables, .failed targetNotMember)
          else if roleWeight actor.role ≤ roleWeight target.role then
            (tables, .failed "You do not have permission to kick this member.")
          else (tables, .kicking actor.userId familyId kickUserId)
  | .kicking actorId familyId kickUserId =>
      tables.orThrow (tables.removeMember outside.now familyId kickUserId actorId) notFound
        (.banning actorId familyId kickUserId)
  | .banning actorId familyId kickUserId =>
      (tables.createBan familyId kickUserId actorId, .done)
  | .promoteGet actorId familyId userId role =>
      if (tables.findById familyId).isNone then (tables, .failed familyNotFound)
      else (tables, .promoteFindActor actorId familyId userId role)
  | .promoteFindActor actorId familyId userId role =>
      match tables.findMemberByUserId actorId with
      | none => (tables, .failed notInFamily)
      | some actor =>
          if actor.familyId ≠ familyId then (tables, .failed notInFamily)
          else (tables, .promoteFindTarget actor familyId userId role)
  | .promoteFindTarget actor familyId userId role =>
      (tables, tables.promotion actor familyId userId role)
  | .promoting actor target role =>
      tables.orThrow (tables.updateMember target.id role) notFound
        (.logging target.familyId actor.userId .promoteMember)
  | .transferGet transfer =>
      if (tables.findById transfer.familyId).isNone then (tables, .failed familyNotFound)
      else (tables, .transferFindActor transfer)
  | .transferFindActor transfer =>
      match tables.findMemberByUserId transfer.actorId with
      | none => (tables, .failed "Only the family Leader can transfer leadership.")
      | some actorMember =>
          if isLeader actorMember.role = false ∨ actorMember.familyId ≠ transfer.familyId then
            (tables, .failed "Only the family Leader can transfer leadership.")
          else if transfer.actorId = transfer.userId then
            (tables, .failed "You cannot transfer leadership to yourself.")
          else (tables, .transferFindTarget transfer actorMember)
  | .transferFindTarget transfer actorMember =>
      match tables.findMemberByUserId transfer.userId with
      | none => (tables, .failed targetNotMember)
      | some targetMember =>
          if targetMember.familyId ≠ transfer.familyId then (tables, .failed targetNotMember)
          else (tables, .succeeding transfer actorMember targetMember)
  | .succeeding transfer actorMember targetMember =>
      tables.orThrow (tables.updateMember targetMember.id "FOUNDER") notFound
        (.steppingDown transfer actorMember targetMember)
  | .steppingDown transfer actorMember _ =>
      tables.orThrow (tables.updateMember actorMember.id "CO_FOUNDER") notFound
        (.naming transfer)
  | .naming transfer =>
      tables.orThrow (tables.updateFounder transfer.familyId transfer.userId) notFound
        (.logging transfer.familyId transfer.actorId .transferLeadership)
  | .disbandGet actorId familyId =>
      match tables.findById familyId with
      | none => (tables, .failed familyNotFound)
      | some family =>
          if family.founderId ≠ actorId then
            (tables, .failed "Only the family Leader can disband the family.")
          else (tables, .deleting actorId familyId)
  | .deleting actorId familyId =>
      tables.orThrow (tables.deleteFamily outside.now familyId actorId) notFound .done
  | .logging familyId userId action =>
      (tables.logAction outside.now familyId userId action, .done)
  | .done => (tables, .done)
  | .failed message => (tables, .failed message)

end Tables

end Soulzaa.Families
