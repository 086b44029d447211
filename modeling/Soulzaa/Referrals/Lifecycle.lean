/-
Referral relationships, step by step.

Every transition reads first and writes the status later, whatever it has become.  Calls run
side by side, a step for each read and each write of a table.
-/

import Soulzaa.Lib.Journals
import Soulzaa.Lib.KeyedRows
import Soulzaa.Lib.Runs

namespace Soulzaa.Referrals

abbrev UserId := String
abbrev CodeId := String
abbrev CampaignId := String
abbrev RelationshipId := Nat
abbrev RewardId := Nat

/-! ### Tables -/

inductive ReferralStatus where
  | created
  | shared
  | registered
  | qualified
  | rewarded
  | expired
  | rejected
  | cancelled
  deriving DecidableEq, Repr

def ReferralStatus.Ended (status : ReferralStatus) : Prop :=
  status = .cancelled ∨ status = .expired

def ReferralStatus.Advanced (status : ReferralStatus) : Prop :=
  status = .qualified ∨ status = .rewarded

inductive CodeStatus where
  | active
  | expired
  deriving DecidableEq, Repr

inductive CampaignStatus where
  | draft
  | scheduled
  | active
  | paused
  | completed
  | expired
  | cancelled
  | archived
  deriving DecidableEq, Repr

structure ReferralCode where
  id : CodeId
  code : String
  referrerId : UserId
  campaignId : Option CampaignId := none
  maxUses : Nat := 100
  usesCount : Nat := 0
  expiresAt : Option Nat := none
  status : CodeStatus := .active
  deriving DecidableEq, Repr

/-- `qualificationRules` lists the names of the rules. -/
structure ReferralCampaign where
  id : CampaignId
  qualificationRules : List String := []
  maxUses : Nat := 10000
  usesCount : Nat := 0
  endTime : Option Nat := none
  status : CampaignStatus := .active
  deriving DecidableEq, Repr

structure ReferralRelationship where
  id : RelationshipId
  referralCodeId : CodeId
  referrerId : UserId
  refereeId : UserId
  campaignId : Option CampaignId
  status : ReferralStatus
  expiresAt : Nat
  qualifiedAt : Option Nat := none
  rewardedAt : Option Nat := none
  deriving DecidableEq, Repr

structure ReferralReward where
  id : RewardId
  relationshipId : RelationshipId
  dispatched : Bool := false
  deriving DecidableEq, Repr

/-- A write that moves a relationship on, or marks its reward as dispatched. -/
inductive Write where
  | status (relationshipId : RelationshipId) (status : ReferralStatus)
  | dispatched (relationshipId : RelationshipId)
  deriving DecidableEq, Repr

structure Config where
  selfReferralAllowed : Bool := false
  maxUses : Nat := 100
  qualificationTimeoutDays : Nat := 7
  deriving DecidableEq, Repr

/-- The tables, with the writes in the order they were made. -/
structure Tables where
  config : Config
  codes : List ReferralCode
  campaigns : List ReferralCampaign
  relationships : List ReferralRelationship := []
  rewards : List ReferralReward := []
  written : List Write := []
  deriving DecidableEq, Repr

namespace Tables

def findCode (tables : Tables) (code : String) : Option ReferralCode :=
  tables.codes.find? fun stored => stored.code = code

def findCampaign (tables : Tables) (id : CampaignId) : Option ReferralCampaign :=
  tables.campaigns.find? fun campaign => campaign.id = id

def findRelationship (tables : Tables) (id : RelationshipId) : Option ReferralRelationship :=
  KeyedRows.find ReferralRelationship.id id tables.relationships

def findByReferee (tables : Tables) (refereeId : UserId) : Option ReferralRelationship :=
  tables.relationships.find? fun relationship => relationship.refereeId = refereeId

def findReward (tables : Tables) (id : RewardId) : Option ReferralReward :=
  KeyedRows.find ReferralReward.id id tables.rewards

/-- An update by id, which throws if there is no such row. -/
def updateRelationship (tables : Tables) (id : RelationshipId) (status : ReferralStatus)
    (change : ReferralRelationship → ReferralRelationship) : Option Tables :=
  (tables.findRelationship id).map fun _ =>
    { tables with
      relationships := KeyedRows.update ReferralRelationship.id id
        (fun row => change { row with status := status }) tables.relationships
      written := tables.written ++ [.status id status] }

/-- The referee is unique. -/
def createRelationship (tables : Tables) (code : ReferralCode) (refereeId : UserId)
    (expiresAt : Nat) : Option (Tables × ReferralRelationship) :=
  if refereeId ∈ tables.relationships.map ReferralRelationship.refereeId then none
  else
    let relationship : ReferralRelationship :=
      { id := tables.relationships.length
        referralCodeId := code.id
        referrerId := code.referrerId
        refereeId := refereeId
        campaignId := code.campaignId
        status := .registered
        expiresAt := expiresAt }
    some
      ({ tables with
          relationships := tables.relationships ++ [relationship]
          written := tables.written ++ [.status relationship.id .registered] },
        relationship)

def createReward (tables : Tables) (relationshipId : RelationshipId) :
    Option (Tables × ReferralReward) :=
  (tables.findRelationship relationshipId).map fun _ =>
    let reward : ReferralReward :=
      { id := tables.rewards.length
        relationshipId := relationshipId }
    ({ tables with rewards := tables.rewards ++ [reward] }, reward)

def markDispatched (tables : Tables) (id : RewardId) : Option Tables :=
  (tables.findReward id).map fun reward =>
    { tables with
      rewards := KeyedRows.update ReferralReward.id id
        (fun row => { row with dispatched := true }) tables.rewards
      written := tables.written ++ [.dispatched reward.relationshipId] }

def incrementUses (tables : Tables) (id : CodeId) : Tables :=
  { tables with
    codes := KeyedRows.update ReferralCode.id id
      (fun row => { row with usesCount := row.usesCount + 1 }) tables.codes }

def incrementCampaignUses (tables : Tables) (id : CampaignId) : Tables :=
  { tables with
    campaigns := KeyedRows.update ReferralCampaign.id id
      (fun row => { row with usesCount := row.usesCount + 1 }) tables.campaigns }

end Tables

/-! ### Calls -/

def day : Nat := 24 * 60 * 60 * 1000

/-- Where a call stands: what it does next, with what it has read. -/
inductive Point where
  | assertCodeExists (code : String) (refereeId : UserId)
  | assertCodeActive (code : String) (refereeId : UserId)
  | findByCode (code : String) (refereeId : UserId)
  | runChecks (code : ReferralCode) (refereeId : UserId)
  | countCampaign (code : ReferralCode) (refereeId : UserId) (campaignId : CampaignId)
      (existing : Option ReferralRelationship)
  | assertCampaignActive (code : ReferralCode) (refereeId : UserId) (campaignId : CampaignId)
      (expiresAt : Nat)
  | findCampaign (code : ReferralCode) (refereeId : UserId) (campaignId : CampaignId)
      (expiresAt : Nat)
  | creating (code : ReferralCode) (refereeId : UserId) (expiresAt : Nat) (rules : List String)
  | incrementing (code : ReferralCode) (id : RelationshipId) (rules : List String)
  | incrementingCampaign (campaignId : CampaignId) (id : RelationshipId) (rules : List String)
  | handle (refereeId : UserId)
  | assertRelationshipExists (id : RelationshipId)
  | readStatus (id : RelationshipId)
  | qualifying (id : RelationshipId)
  | cancelExists (id : RelationshipId)
  | cancelling (id : RelationshipId)
  | findingStale
  | expiring (ids : List RelationshipId)
  | assertNoDuplicateReward (id : RelationshipId)
  | creatingReward (id : RelationshipId)
  | markingDispatched (rewardId : RewardId) (id : RelationshipId)
  | rewarding (id : RelationshipId)
  | done
  | failed (message : String)
  deriving DecidableEq, Repr

namespace Tables

/-- A relationship is qualified at once where there are no rules. -/
def afterUses (id : RelationshipId) (rules : List String) : Point :=
  if rules = [] then .assertRelationshipExists id else .done

/-- A write that finds its row, or the error it throws. -/
def orThrow (tables : Tables) (written : Option Tables) (next : Point) : Tables × Point :=
  match written with
  | some after => (after, next)
  | none => (tables, .failed "Record not found")

/-- The reasons to reject a registration, in the order of the checks. -/
def reasons (tables : Tables) (code : ReferralCode) (refereeId : UserId)
    (existing : Option ReferralRelationship) (exceeded : Bool) : List String :=
  (if tables.config.selfReferralAllowed = false ∧ code.referrerId = refereeId then
    ["Self-referral is not permitted."] else []) ++
  (if existing.isSome then ["Referee has already been referred by another user."] else []) ++
  (if exceeded then
    [s!"Referrer has exceeded the maximum referrals ({tables.config.maxUses}) for this campaign."]
    else []) ++
  (if existing.any fun row => row.status = .rewarded then
    ["Referral reward has already been dispatched for this referee."] else [])

def campaignCount (tables : Tables) (referrerId : UserId) (campaignId : CampaignId) : Nat :=
  tables.relationships.countP fun row =>
    row.referrerId = referrerId ∧ row.campaignId = some campaignId ∧
      row.status ≠ .rejected ∧ row.status ≠ .cancelled

/-- The checks passed, or what they found. -/
def afterChecks (tables : Tables) (now : Nat) (code : ReferralCode) (refereeId : UserId)
    (existing : Option ReferralRelationship) (exceeded : Bool) : Point :=
  let found := tables.reasons code refereeId existing exceeded
  if found ≠ [] then
    let joined := String.intercalate "; " found
    .failed s!"Referral rejected: {joined}"
  else
    let expiresAt := now + tables.config.qualificationTimeoutDays * day
    match code.campaignId with
    | some campaignId => .assertCampaignActive code refereeId campaignId expiresAt
    | none => .creating code refereeId expiresAt []

/-- One read or write. -/
def goOn (tables : Tables) (now : Nat) : Point → Tables × Point
  | .assertCodeExists code refereeId =>
      match tables.findCode code with
      | none => (tables, .failed s!"Referral code \"{code}\" not found.")
      | some _ => (tables, .assertCodeActive code refereeId)
  | .assertCodeActive code refereeId =>
      match tables.findCode code with
      | none => (tables, .failed s!"Referral code \"{code}\" not found.")
      | some stored =>
          if stored.status ≠ .active then
            (tables, .failed s!"Referral code \"{code}\" is not active.")
          else if stored.expiresAt.any fun limit => limit < now then
            (tables, .failed s!"Referral code \"{code}\" has expired.")
          else if stored.maxUses ≤ stored.usesCount then
            (tables, .failed s!"Referral code \"{code}\" has reached its maximum uses.")
          else (tables, .findByCode code refereeId)
  | .findByCode code refereeId =>
      match tables.findCode code with
      | none => (tables, .failed "Cannot read properties of null")
      | some stored => (tables, .runChecks stored refereeId)
  | .runChecks code refereeId =>
      let existing := tables.findByReferee refereeId
      match code.campaignId with
      | some campaignId => (tables, .countCampaign code refereeId campaignId existing)
      | none => (tables, tables.afterChecks now code refereeId existing false)
  | .countCampaign code refereeId campaignId existing =>
      let exceeded := tables.config.maxUses ≤ tables.campaignCount code.referrerId campaignId
      (tables, tables.afterChecks now code refereeId existing exceeded)
  | .assertCampaignActive code refereeId campaignId expiresAt =>
      match tables.findCampaign campaignId with
      | none => (tables, .failed s!"Campaign \"{campaignId}\" not found.")
      | some campaign =>
          if campaign.status ≠ .active then
            (tables, .failed s!"Campaign \"{campaignId}\" is not active.")
          else if campaign.endTime.any fun limit => limit < now then
            (tables, .failed s!"Campaign \"{campaignId}\" has ended.")
          else if campaign.maxUses ≤ campaign.usesCount then
            (tables, .failed s!"Campaign \"{campaignId}\" has reached its capacity.")
          else (tables, .findCampaign code refereeId campaignId expiresAt)
  | .findCampaign code refereeId campaignId expiresAt =>
      let rules := ((tables.findCampaign campaignId).map
        ReferralCampaign.qualificationRules).getD []
      (tables, .creating code refereeId expiresAt rules)
  | .creating code refereeId expiresAt rules =>
      match tables.createRelationship code refereeId expiresAt with
      | none => (tables, .failed "Unique constraint failed on refereeId")
      | some (after, relationship) => (after, .incrementing code relationship.id rules)
  | .incrementing code id rules =>
      let next :=
        match code.campaignId with
        | some campaignId => .incrementingCampaign campaignId id rules
        | none => afterUses id rules
      (tables.incrementUses code.id, next)
  | .incrementingCampaign campaignId id rules =>
      (tables.incrementCampaignUses campaignId, afterUses id rules)
  | .handle refereeId =>
      match tables.findByReferee refereeId with
      | none => (tables, .done)
      | some relationship =>
          if relationship.status ≠ .registered then (tables, .done)
          else (tables, .assertRelationshipExists relationship.id)
  | .assertRelationshipExists id =>
      match tables.findRelationship id with
      | none => (tables, .failed s!"Referral relationship \"{id}\" not found.")
      | some _ => (tables, .readStatus id)
  | .readStatus id =>
      match tables.findRelationship id with
      | none => (tables, .failed "Cannot read properties of null")
      | some relationship =>
          if relationship.status = .qualified ∨ relationship.status = .rewarded then
            (tables, .done)
          -- Every rule is recorded as passed, so the evaluation always qualifies.
          else (tables, .qualifying id)
  | .qualifying id =>
      tables.orThrow
        (tables.updateRelationship id .qualified fun row => { row with qualifiedAt := some now })
        .done
  | .cancelExists id =>
      match tables.findRelationship id with
      | none => (tables, .failed s!"Referral relationship \"{id}\" not found.")
      | some _ => (tables, .cancelling id)
  | .cancelling id => tables.orThrow (tables.updateRelationship id .cancelled fun row => row) .done
  | .findingStale =>
      let stale := tables.relationships.filter fun row =>
        (row.status = .registered ∨ row.status = .created) ∧ row.expiresAt < now
      (tables, .expiring (stale.map ReferralRelationship.id))
  | .expiring [] => (tables, .done)
  | .expiring (id :: ids) =>
      tables.orThrow (tables.updateRelationship id .expired fun row => row) (.expiring ids)
  | .assertNoDuplicateReward id =>
      if tables.rewards.any fun row => row.relationshipId = id ∧ row.dispatched = true then
        (tables, .failed
          "Referral reward already dispatched — duplicate reward prevention triggered.")
      else (tables, .creatingReward id)
  | .creatingReward id =>
      match tables.createReward id with
      | none => (tables, .failed "Foreign key constraint failed")
      | some (after, reward) => (after, .markingDispatched reward.id id)
  | .markingDispatched rewardId id =>
      tables.orThrow (tables.markDispatched rewardId) (.rewarding id)
  | .rewarding id =>
      tables.orThrow
        (tables.updateRelationship id .rewarded fun row => { row with rewardedAt := some now })
        .done
  | .done => (tables, .done)
  | .failed message => (tables, .failed message)

end Tables

inductive Command where
  | register (code : String) (refereeId : UserId)
  | qualify (id : RelationshipId)
  | cancel (id : RelationshipId)
  | expireStale
  | dispatch (id : RelationshipId)
  /-- An event of the referee's, which the listener may get more than once. -/
  | deliver (refereeId : UserId)
  deriving DecidableEq, Repr

def Command.start : Command → Point
  | .register code refereeId => .assertCodeExists code refereeId
  | .qualify id => .assertRelationshipExists id
  | .cancel id => .cancelExists id
  | .expireStale => .findingStale
  | .dispatch id => .assertNoDuplicateReward id
  | .deliver refereeId => .handle refereeId

structure World where
  tables : Tables
  calls : List Point := []
  deriving DecidableEq, Repr

inductive Happening where
  | begin (command : Command)
  | goOn (position : Nat) (now : Nat)
  /-- A call is cut off. -/
  | stop (position : Nat)
  deriving DecidableEq, Repr

namespace World

def step (world : World) : Happening → World
  | .begin command => { world with calls := world.calls ++ [command.start] }
  | .goOn position now =>
      match world.calls[position]? with
      | none => world
      | some point =>
          let (tables, next) := world.tables.goOn now point
          { tables := tables
            calls := world.calls.set position next }
  | .stop position => { world with calls := world.calls.set position .done }

end World

end Soulzaa.Referrals
