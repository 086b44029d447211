/-
In which orders the writes of referral calls may come.

A relationship that has ended may be qualified or rewarded by a write whose check came earlier,
or did not ask; a reward may be marked twice, and a code used past its limit, between a check and
the write it is for.
-/

import Soulzaa.Referrals.Lifecycle

namespace Soulzaa.Referrals

/-- A write is in order after the writes before it. -/
def Write.Proper (earlier : List Write) : Write → Prop
  | .status id reached => reached.Advanced → ∀ ended : ReferralStatus, ended.Ended →
      .status id ended ∉ earlier
  | .dispatched id => .status id .qualified ∈ earlier ∧ .dispatched id ∉ earlier

namespace Tables

def uses (tables : Tables) (codeId : CodeId) : Nat :=
  tables.relationships.countP fun row => row.referralCodeId = codeId

/-- Every referee has one relationship at most, every write was in order, and no code has been
used past its limit. -/
structure Orderly (tables : Tables) : Prop where
  single : (tables.relationships.map ReferralRelationship.refereeId).Nodup
  lawful : Journals.Lawful Write.Proper tables.written
  limited : ∀ code ∈ tables.codes, tables.uses code.id ≤ code.maxUses

/-- What a write relies on still stands when it is made. -/
def Guarded (tables : Tables) : Point → Prop
  | .creating code refereeId _ _ =>
      refereeId ∉ tables.relationships.map ReferralRelationship.refereeId →
        ∀ stored ∈ tables.codes, stored.id = code.id → tables.uses code.id < stored.maxUses
  | .qualifying id => ∀ row ∈ tables.findRelationship id, ¬row.status.Ended
  | .rewarding id => ∀ row ∈ tables.findRelationship id, ¬row.status.Ended
  | .markingDispatched rewardId _ => ∀ reward ∈ tables.findReward rewardId,
      (∀ row ∈ tables.findRelationship reward.relationshipId, row.qualifiedAt ≠ none) ∧
        ∀ other ∈ tables.rewards, other.relationshipId = reward.relationshipId →
          other.dispatched = false
  | _ => True

/-! ### The tables and the writes -/

/-- Relationships are numbered as they come, and their columns tell what has been written. -/
structure Told (tables : Tables) : Prop where
  numbered : tables.relationships.map ReferralRelationship.id =
    List.range tables.relationships.length
  known : ∀ id status, .status id status ∈ tables.written → id < tables.relationships.length
  ended : ∀ row ∈ tables.relationships, ∀ status : ReferralStatus, status.Ended →
    .status row.id status ∈ tables.written → row.status.Ended
  isEnded : ∀ row ∈ tables.relationships, row.status.Ended →
    .status row.id row.status ∈ tables.written
  qualified : ∀ row ∈ tables.relationships,
    .status row.id .qualified ∈ tables.written ↔ row.qualifiedAt ≠ none
  referred : ∀ reward ∈ tables.rewards, reward.relationshipId < tables.relationships.length
  dispatched : ∀ id, .dispatched id ∈ tables.written ↔
    ∃ reward ∈ tables.rewards, reward.relationshipId = id ∧ reward.dispatched = true
  rewards : tables.rewards.map ReferralReward.id = List.range tables.rewards.length

variable {tables after : Tables} {id : RelationshipId} {row : ReferralRelationship}

theorem Told.distinct (told : tables.Told) :
    (tables.relationships.map ReferralRelationship.id).Nodup :=
  told.numbered ▸ List.nodup_range

theorem Told.exists_row (told : tables.Told) (inside : id < tables.relationships.length) :
    ∃ row, tables.findRelationship id = some row :=
  KeyedRows.find_of_key (told.numbered ▸ List.mem_range.mpr inside)

theorem Told.lt_of_mem (told : tables.Told) (member : row ∈ tables.relationships) :
    row.id < tables.relationships.length := by
  have isNumber := List.mem_map_of_mem (f := ReferralRelationship.id) member
  rw [told.numbered] at isNumber
  exact List.mem_range.mp isNumber

/-- The relationship a write of the status is about is one of the table. -/
theorem Told.ended_iff (told : tables.Told) (found : tables.findRelationship id = some row) :
    row.status.Ended ↔ ∃ status : ReferralStatus, status.Ended ∧
      .status id status ∈ tables.written := by
  have member := KeyedRows.mem_of_find found
  have isId := KeyedRows.key_of_find found
  subst isId
  constructor
  · exact fun isEnded => ⟨row.status, isEnded, told.isEnded row member isEnded⟩
  · rintro ⟨status, isEnded, isWritten⟩
    exact told.ended row member status isEnded isWritten

/-! ### Writes of a status -/

/-- What a status write changes of its row besides the status. -/
structure Marks (status : ReferralStatus) (change : ReferralRelationship → ReferralRelationship) :
    Prop where
  id : ∀ row, (change row).id = row.id
  refereeId : ∀ row, (change row).refereeId = row.refereeId
  referralCodeId : ∀ row, (change row).referralCodeId = row.referralCodeId
  keepsStatus : ∀ row, (change row).status = row.status
  qualifiedAt : ∀ row, (change row).qualifiedAt ≠ none ↔
    status = .qualified ∨ row.qualifiedAt ≠ none

section Update

variable {status : ReferralStatus} {change : ReferralRelationship → ReferralRelationship}

theorem updateRelationship_spec
    (updated : tables.updateRelationship id status change = some after) :
    ∃ row, tables.findRelationship id = some row ∧
      after = { tables with
        relationships := KeyedRows.update ReferralRelationship.id id
          (fun row => change { row with status := status }) tables.relationships
        written := tables.written ++ [.status id status] } := by
  obtain ⟨row, found, rfl⟩ := Option.map_eq_some_iff.mp updated
  exact ⟨row, found, rfl⟩

/-- A column that neither the status nor the change touches. -/
theorem map_updated {Value : Type} {column : ReferralRelationship → Value}
    (keeps : ∀ row, column (change row) = column row)
    (apart : ∀ row : ReferralRelationship, column { row with status := status } = column row)
    (rows : List ReferralRelationship) :
    (KeyedRows.update ReferralRelationship.id id
      (fun row => change { row with status := status }) rows).map column = rows.map column :=
  KeyedRows.map_update fun row => (keeps _).trans (apart row)

/-- A row of the table after the write: the one written, or another that stays. -/
theorem mem_updated (marks : Marks status change) {written : ReferralRelationship}
    (member : written ∈ KeyedRows.update ReferralRelationship.id id
      (fun row => change { row with status := status }) tables.relationships) :
    ∃ before ∈ tables.relationships, written.id = before.id ∧
      ((before.id = id ∧ written.status = status ∧
          (written.qualifiedAt ≠ none ↔ status = .qualified ∨ before.qualifiedAt ≠ none)) ∨
        (before.id ≠ id ∧ written = before)) := by
  obtain ⟨before, inside, rfl⟩ := KeyedRows.mem_update member
  refine ⟨before, inside, ?_⟩
  split
  · rename_i isId
    exact ⟨marks.id _, Or.inl ⟨isId, marks.keepsStatus _, marks.qualifiedAt _⟩⟩
  · rename_i isOther
    exact ⟨rfl, Or.inr ⟨isOther, rfl⟩⟩

theorem Told.updateRelationship (told : tables.Told) (marks : Marks status change)
    (moves : status.Advanced ∨ status.Ended)
    (updated : tables.updateRelationship id status change = some after)
    (permitted : status.Advanced → ∀ row ∈ tables.findRelationship id, ¬row.status.Ended) :
    after.Told := by
  obtain ⟨found, isFound, rfl⟩ := updateRelationship_spec updated
  have sameLength : (KeyedRows.update ReferralRelationship.id id
      (fun row => change { row with status := status }) tables.relationships).length =
        tables.relationships.length :=
    List.length_map _
  constructor
  · rw [sameLength]
    exact (map_updated marks.id (fun _ => rfl) tables.relationships).trans told.numbered
  · intro other reached isWritten
    rw [sameLength]
    rcases List.mem_append.mp isWritten with old | new
    · exact told.known other reached old
    · cases List.mem_singleton.mp new
      have isId := KeyedRows.key_of_find isFound
      exact isId ▸ told.lt_of_mem (KeyedRows.mem_of_find isFound)
  · intro written member reached isEnded isWritten
    obtain ⟨before, inside, sameId, ⟨isId, isStatus, _⟩ | ⟨isOther, rfl⟩⟩ :=
      mem_updated marks member
    · rw [isStatus]
      rcases moves with advanced | ended
      · rcases List.mem_append.mp isWritten with old | new
        · have isRow : tables.findRelationship id = some before :=
            isId ▸ KeyedRows.find_of_mem told.distinct inside
          exact absurd (told.ended before inside reached isEnded (sameId ▸ old))
            (permitted advanced before isRow)
        · cases List.mem_singleton.mp new
          exact isEnded
      · exact ended
    · rcases List.mem_append.mp isWritten with old | new
      · exact told.ended written inside reached isEnded old
      · cases List.mem_singleton.mp new
        exact absurd rfl isOther
  · intro written member isEnded
    obtain ⟨before, inside, sameId, ⟨isId, isStatus, _⟩ | ⟨isOther, rfl⟩⟩ :=
      mem_updated marks member
    · rw [sameId, isId, isStatus]
      exact List.mem_append_right _ (List.mem_singleton_self _)
    · exact List.mem_append_left _ (told.isEnded written inside isEnded)
  · intro written member
    obtain ⟨before, inside, sameId, ⟨isId, isStatus, isQualified⟩ | ⟨isOther, rfl⟩⟩ :=
      mem_updated marks member
    · rw [isQualified, ← told.qualified before inside, sameId, isId, List.mem_append,
        List.mem_singleton, or_comm]
      simp [eq_comm]
    · rw [← told.qualified written inside, List.mem_append, List.mem_singleton]
      apply or_iff_left
      rintro same
      cases same
      exact isOther rfl
  · intro reward member
    rw [sameLength]
    exact told.referred reward member
  · intro other
    rw [← told.dispatched other, List.mem_append]
    apply or_iff_left
    intro new
    cases List.mem_singleton.mp new
  · exact told.rewards

/-- The write is in order exactly when it advances no relationship that has ended. -/
theorem Orderly.updateRelationship_iff (orderly : tables.Orderly) (told : tables.Told)
    (marks : Marks status change)
    (updated : tables.updateRelationship id status change = some after) :
    after.Orderly ↔ (status.Advanced → ∀ row ∈ tables.findRelationship id, ¬row.status.Ended) := by
  obtain ⟨found, isFound, rfl⟩ := updateRelationship_spec updated
  have inOrder : Write.Proper tables.written (.status id status) ↔
      (status.Advanced → ∀ row ∈ tables.findRelationship id, ¬row.status.Ended) := by
    apply imp_congr_right
    intro _
    constructor
    · intro unwritten row isRow ended
      obtain ⟨reached, isEnded, isWritten⟩ := (told.ended_iff isRow).mp ended
      exact unwritten reached isEnded isWritten
    · intro unended reached isEnded isWritten
      exact unended found isFound ((told.ended_iff isFound).mpr ⟨reached, isEnded, isWritten⟩)
  rw [← inOrder]
  constructor
  · exact fun after => (Journals.lawful_concat.mp after.lawful).2
  · intro isProper
    constructor
    · exact (congrArg List.Nodup (map_updated marks.refereeId (fun _ => rfl)
        tables.relationships)).mpr orderly.single
    · exact Journals.lawful_concat.mpr ⟨orderly.lawful, isProper⟩
    · intro code member
      unfold uses
      have sameCodes : ∀ rows : List ReferralRelationship,
          rows.countP (fun row => row.referralCodeId = code.id) =
            (rows.map ReferralRelationship.referralCodeId).countP fun other => other = code.id := by
        intro rows
        rw [List.countP_map]
        rfl
      rw [sameCodes]
      refine (congrArg _ (map_updated marks.referralCodeId (fun _ => rfl)
        tables.relationships)).trans_le ?_
      rw [← sameCodes]
      exact orderly.limited code member

end Update

/-! ### The other writes -/

theorem createRelationship_spec {code : ReferralCode} {refereeId : UserId} {expiresAt : Nat}
    (created : tables.createRelationship code refereeId expiresAt = some (after, row)) :
    refereeId ∉ tables.relationships.map ReferralRelationship.refereeId ∧
      row.id = tables.relationships.length ∧ row.refereeId = refereeId ∧
      row.referralCodeId = code.id ∧ row.status = .registered ∧ row.qualifiedAt = none ∧
      after = { tables with
        relationships := tables.relationships ++ [row]
        written := tables.written ++ [.status row.id .registered] } := by
  unfold createRelationship at created
  split at created
  · cases created
  · rename_i isNew
    cases created
    exact ⟨isNew, rfl, rfl, rfl, rfl, rfl, rfl⟩

theorem Told.createRelationship (told : tables.Told) {code : ReferralCode} {refereeId : UserId}
    {expiresAt : Nat}
    (created : tables.createRelationship code refereeId expiresAt = some (after, row)) :
    after.Told := by
  obtain ⟨_, isNext, _, _, isRegistered, unqualified, rfl⟩ := createRelationship_spec created
  -- No write of an earlier time is about the new row.
  have unwritten : ∀ status, Write.status row.id status ∉ tables.written := by
    intro status isWritten
    exact Nat.lt_irrefl _ (isNext ▸ told.known row.id status isWritten)
  constructor
  · rw [List.map_append, told.numbered, List.length_append, List.length_singleton,
      List.range_succ, List.map_singleton, isNext]
  · intro other status isWritten
    rw [List.length_append, List.length_singleton]
    rcases List.mem_append.mp isWritten with old | new
    · exact Nat.lt_succ_of_lt (told.known other status old)
    · cases List.mem_singleton.mp new
      exact isNext ▸ Nat.lt_succ_self _
  · intro other member status isEnded isWritten
    rcases List.mem_append.mp isWritten with old | new
    · rcases List.mem_append.mp member with earlier | isRow
      · exact told.ended other earlier status isEnded old
      · rw [List.mem_singleton.mp isRow] at old
        exact absurd old (unwritten status)
    · rw [(Write.status.inj (List.mem_singleton.mp new)).2] at isEnded
      rcases isEnded with impossible | impossible <;> cases impossible
  · intro other member isEnded
    rcases List.mem_append.mp member with earlier | isRow
    · exact List.mem_append_left _ (told.isEnded other earlier isEnded)
    · rw [List.mem_singleton.mp isRow, isRegistered] at isEnded
      rcases isEnded with impossible | impossible <;> cases impossible
  · intro other member
    rcases List.mem_append.mp member with earlier | isRow
    · rw [← told.qualified other earlier, List.mem_append, List.mem_singleton]
      apply or_iff_left
      intro same
      cases (Write.status.inj same).2
    · rw [List.mem_singleton.mp isRow]
      refine iff_of_false ?_ fun isQualified => isQualified unqualified
      intro isWritten
      rcases List.mem_append.mp isWritten with old | new
      · exact unwritten .qualified old
      · cases (Write.status.inj (List.mem_singleton.mp new)).2
  · intro reward member
    rw [List.length_append]
    exact Nat.lt_add_right _ (told.referred reward member)
  · intro other
    rw [← told.dispatched other, List.mem_append]
    apply or_iff_left
    intro new
    cases List.mem_singleton.mp new
  · exact told.rewards

theorem Orderly.createRelationship_iff (orderly : tables.Orderly) {code : ReferralCode}
    {refereeId : UserId} {expiresAt : Nat}
    (created : tables.createRelationship code refereeId expiresAt = some (after, row)) :
    after.Orderly ↔ ∀ stored ∈ tables.codes, stored.id = code.id →
      tables.uses code.id < stored.maxUses := by
  obtain ⟨isNew, isNext, isReferee, isCode, isRegistered, _, rfl⟩ :=
    createRelationship_spec created
  have counted : ∀ codeId, uses { tables with
      relationships := tables.relationships ++ [row]
      written := tables.written ++ [.status row.id .registered] } codeId =
        tables.uses codeId + if code.id = codeId then 1 else 0 := by
    intro codeId
    unfold uses
    rw [List.countP_append, List.countP_singleton, isCode]
    simp only [decide_eq_true_eq]
  constructor
  · intro after stored member sameId
    have limited := after.limited stored member
    rw [counted, sameId, if_pos rfl] at limited
    exact limited
  · intro spare
    constructor
    · rw [List.map_append]
      refine List.Nodup.append orderly.single (List.nodup_singleton _) ?_
      exact List.disjoint_singleton.mpr (isReferee ▸ isNew)
    · refine Journals.lawful_concat.mpr ⟨orderly.lawful, ?_⟩
      rintro (impossible | impossible) <;> cases impossible
    · intro stored member
      rw [counted]
      split
      · rename_i sameId
        rw [← sameId]
        exact spare stored member sameId.symm
      · exact orderly.limited stored member

theorem Told.createReward (told : tables.Told) {reward : ReferralReward}
    (created : tables.createReward id = some (after, reward)) :
    after.Told ∧ (tables.Orderly → after.Orderly) := by
  obtain ⟨row, found, same⟩ := Option.map_eq_some_iff.mp created
  cases same
  have inside : id < tables.relationships.length :=
    KeyedRows.key_of_find found ▸ told.lt_of_mem (KeyedRows.mem_of_find found)
  constructor
  · constructor
    · exact told.numbered
    · exact told.known
    · exact told.ended
    · exact told.isEnded
    · exact told.qualified
    · intro other member
      rcases List.mem_append.mp member with earlier | isNew
      · exact told.referred other earlier
      · rw [List.mem_singleton.mp isNew]
        exact inside
    · intro other
      rw [told.dispatched other]
      constructor
      · rintro ⟨earlier, member, rest⟩
        exact ⟨earlier, List.mem_append_left _ member, rest⟩
      · rintro ⟨earlier, member, isOther, isDispatched⟩
        rcases List.mem_append.mp member with old | isNew
        · exact ⟨earlier, old, isOther, isDispatched⟩
        · rw [List.mem_singleton.mp isNew] at isDispatched
          cases isDispatched
    · rw [List.map_append, told.rewards, List.length_append, List.length_singleton,
        List.range_succ]
      rfl
  · exact fun orderly => ⟨orderly.single, orderly.lawful, orderly.limited⟩

theorem markDispatched_spec {rewardId : RewardId}
    (marked : tables.markDispatched rewardId = some after) :
    ∃ reward, tables.findReward rewardId = some reward ∧
      after = { tables with
        rewards := KeyedRows.update ReferralReward.id rewardId
          (fun row => { row with dispatched := true }) tables.rewards
        written := tables.written ++ [.dispatched reward.relationshipId] } := by
  obtain ⟨reward, found, rfl⟩ := Option.map_eq_some_iff.mp marked
  exact ⟨reward, found, rfl⟩

theorem Told.markDispatched (told : tables.Told) {rewardId : RewardId}
    (marked : tables.markDispatched rewardId = some after) : after.Told := by
  obtain ⟨reward, found, rfl⟩ := markDispatched_spec marked
  have unwritten : ∀ other status, Write.status other status ∈
      tables.written ++ [.dispatched reward.relationshipId] ↔
        .status other status ∈ tables.written := by
    intro other status
    rw [List.mem_append, List.mem_singleton]
    apply or_iff_left
    nofun
  constructor
  · exact told.numbered
  · exact fun other status isWritten => told.known other status ((unwritten _ _).mp isWritten)
  · exact fun row member status isEnded isWritten =>
      told.ended row member status isEnded ((unwritten _ _).mp isWritten)
  · exact fun row member isEnded => (unwritten _ _).mpr (told.isEnded row member isEnded)
  · exact fun row member => (unwritten _ _).trans (told.qualified row member)
  · intro written member
    obtain ⟨before, inside, rfl⟩ := KeyedRows.mem_update member
    have refers := told.referred before inside
    split <;> exact refers
  · intro other
    rw [List.mem_append, told.dispatched other, List.mem_singleton]
    constructor
    · rintro (⟨before, inside, isOther, isDispatched⟩ | new)
      · refine ⟨_, List.mem_map_of_mem inside, ?_, ?_⟩
        · split <;> exact isOther
        · split
          · rfl
          · exact isDispatched
      · cases new
        refine ⟨_, List.mem_map_of_mem (KeyedRows.mem_of_find found), ?_, ?_⟩
        · split <;> rfl
        · rw [if_pos (KeyedRows.key_of_find found)]
    · rintro ⟨written, member, isOther, isDispatched⟩
      obtain ⟨before, inside, rfl⟩ := KeyedRows.mem_update member
      split at isOther
      · rename_i isReward
        have same : before = reward := List.inj_on_of_nodup_map
          (told.rewards ▸ List.nodup_range) inside (KeyedRows.mem_of_find found)
          (isReward.trans (KeyedRows.key_of_find found).symm)
        have ofReward : before.relationshipId = other := isOther
        rw [same] at ofReward
        exact Or.inr (congrArg Write.dispatched ofReward.symm)
      · rename_i isElse
        rw [if_neg isElse] at isDispatched
        exact Or.inl ⟨before, inside, isOther, isDispatched⟩
  · have sameIds : (KeyedRows.update ReferralReward.id rewardId
        (fun row => { row with dispatched := true }) tables.rewards).map ReferralReward.id =
          tables.rewards.map ReferralReward.id :=
      KeyedRows.keys_update fun _ => rfl
    exact (sameIds.trans told.rewards).trans (congrArg List.range (List.length_map _).symm)

theorem Orderly.markDispatched_iff (orderly : tables.Orderly) (told : tables.Told)
    {rewardId : RewardId} (marked : tables.markDispatched rewardId = some after)
    (id : RelationshipId) :
    after.Orderly ↔ tables.Guarded (.markingDispatched rewardId id) := by
  obtain ⟨reward, found, rfl⟩ := markDispatched_spec marked
  obtain ⟨row, isRow⟩ :=
    told.exists_row (told.referred reward (KeyedRows.mem_of_find found))
  have inOrder : Write.Proper tables.written (.dispatched reward.relationshipId) ↔
      tables.Guarded (.markingDispatched rewardId id) := by
    have isId := KeyedRows.key_of_find isRow
    have qualified := told.qualified row (KeyedRows.mem_of_find isRow)
    rw [isId] at qualified
    unfold Write.Proper Guarded
    dsimp only
    rw [qualified, told.dispatched]
    constructor
    · rintro ⟨isQualified, undispatched⟩ stored isStored
      cases Option.some_inj.mp (found.symm.trans isStored)
      constructor
      · intro other isOther
        rw [← Option.some_inj.mp (isRow.symm.trans isOther)]
        exact isQualified
      · intro other member sameId
        exact eq_false_of_ne_true fun isDispatched =>
          undispatched ⟨other, member, sameId, isDispatched⟩
    · intro guarded
      obtain ⟨isQualified, undispatched⟩ := guarded reward found
      refine ⟨isQualified row isRow, ?_⟩
      rintro ⟨other, member, sameId, isDispatched⟩
      rw [undispatched other member sameId] at isDispatched
      cases isDispatched
  rw [← inOrder]
  constructor
  · exact fun after => (Journals.lawful_concat.mp after.lawful).2
  · exact fun isProper =>
      ⟨orderly.single, Journals.lawful_concat.mpr ⟨orderly.lawful, isProper⟩, orderly.limited⟩

/-! ### One step of a call -/

/-- What one read or write makes of the tables. -/
inductive Change (tables : Tables) (point : Point) : Tables → Prop where
  /-- A read, or a write that throws. -/
  | kept (guarded : tables.Guarded point) : Change tables point tables
  | counted {after : Tables} (codes : after.codes.map (fun code => (code.id, code.maxUses)) =
        tables.codes.map fun code => (code.id, code.maxUses))
      (relationships : after.relationships = tables.relationships)
      (rewards : after.rewards = tables.rewards) (written : after.written = tables.written)
      (guarded : tables.Guarded point) : Change tables point after
  | updated {after : Tables} {id : RelationshipId} {status : ReferralStatus}
      {change : ReferralRelationship → ReferralRelationship} (marks : Marks status change)
      (moves : status.Advanced ∨ status.Ended)
      (update : tables.updateRelationship id status change = some after)
      (guarded : tables.Guarded point ↔
        (status.Advanced → ∀ row ∈ tables.findRelationship id, ¬row.status.Ended)) :
      Change tables point after
  | created {after : Tables} {row : ReferralRelationship} {code : ReferralCode}
      {refereeId : UserId} {expiresAt : Nat}
      (create : tables.createRelationship code refereeId expiresAt = some (after, row))
      (guarded : tables.Guarded point ↔ ∀ stored ∈ tables.codes, stored.id = code.id →
        tables.uses code.id < stored.maxUses) : Change tables point after
  | rewarded {after : Tables} {id : RelationshipId} {reward : ReferralReward}
      (create : tables.createReward id = some (after, reward)) (guarded : tables.Guarded point) :
      Change tables point after
  | marked {after : Tables} {id : RelationshipId} {rewardId : RewardId}
      (mark : tables.markDispatched rewardId = some after)
      (isPoint : point = .markingDispatched rewardId id) : Change tables point after

theorem marks_ended {status : ReferralStatus} (ended : status.Ended) :
    Marks status fun row => row where
  id := fun _ => rfl
  refereeId := fun _ => rfl
  referralCodeId := fun _ => rfl
  keepsStatus := fun _ => rfl
  qualifiedAt := by
    intro row
    have notQualified : status ≠ .qualified := by
      rintro rfl
      rcases ended with impossible | impossible <;> cases impossible
    simp [notQualified]

theorem marks_qualified (now : Nat) :
    Marks .qualified fun row => { row with qualifiedAt := some now } where
  id := fun _ => rfl
  refereeId := fun _ => rfl
  referralCodeId := fun _ => rfl
  keepsStatus := fun _ => rfl
  qualifiedAt := fun _ => by simp

theorem marks_rewarded (now : Nat) :
    Marks .rewarded fun row => { row with rewardedAt := some now } where
  id := fun _ => rfl
  refereeId := fun _ => rfl
  referralCodeId := fun _ => rfl
  keepsStatus := fun _ => rfl
  qualifiedAt := fun _ => by simp

/-- A write of a status, found or not. -/
theorem change_orThrow {point next : Point} {status : ReferralStatus}
    {change : ReferralRelationship → ReferralRelationship} (marks : Marks status change)
    (moves : status.Advanced ∨ status.Ended)
    (guarded : tables.Guarded point ↔
      (status.Advanced → ∀ row ∈ tables.findRelationship id, ¬row.status.Ended)) :
    tables.Change point
      (tables.orThrow (tables.updateRelationship id status change) next).1 := by
  unfold orThrow
  cases updated : tables.updateRelationship id status change with
  | some after => exact .updated marks moves updated guarded
  | none =>
      refine .kept (guarded.mpr fun _ row isRow => ?_)
      have missing := Option.map_eq_none_iff.mp updated
      rw [missing] at isRow
      cases isRow

theorem change_goOn (tables : Tables) (now : Nat) (point : Point) :
    tables.Change point (tables.goOn now point).1 := by
  have read : ∀ {next : Tables}, next = tables → tables.Guarded point →
      tables.Change point next := by
    rintro next rfl guarded
    exact .kept guarded
  have notAdvanced : ∀ {status : ReferralStatus}, status.Ended → ¬status.Advanced := by
    rintro status (rfl | rfl) (impossible | impossible) <;> cases impossible
  cases point with
  | assertCodeExists code refereeId =>
      refine read ?_ trivial
      rw [goOn]
      split <;> rfl
  | assertCodeActive code refereeId =>
      refine read ?_ trivial
      rw [goOn]
      (repeat' split) <;> rfl
  | findByCode code refereeId =>
      refine read ?_ trivial
      rw [goOn]
      split <;> rfl
  | runChecks code refereeId =>
      refine read ?_ trivial
      rw [goOn]
      cases code.campaignId <;> rfl
  | countCampaign code refereeId campaignId existing => exact read rfl trivial
  | assertCampaignActive code refereeId campaignId expiresAt =>
      refine read ?_ trivial
      rw [goOn]
      (repeat' split) <;> rfl
  | findCampaign code refereeId campaignId expiresAt => exact read rfl trivial
  | creating code refereeId expiresAt rules =>
      rw [goOn]
      cases created : tables.createRelationship code refereeId expiresAt with
      | none =>
          refine .kept fun isNew => ?_
          unfold createRelationship at created
          rw [if_neg isNew] at created
          cases created
      | some written =>
          have isNew := (createRelationship_spec created).1
          exact .created created ⟨fun guarded => guarded isNew, fun spare _ => spare⟩
  | incrementing code id rules =>
      exact .counted (KeyedRows.map_update fun _ => rfl) rfl rfl rfl trivial
  | incrementingCampaign campaignId id rules => exact .counted rfl rfl rfl rfl trivial
  | handle refereeId =>
      refine read ?_ trivial
      rw [goOn]
      (repeat' split) <;> rfl
  | assertRelationshipExists id =>
      refine read ?_ trivial
      rw [goOn]
      split <;> rfl
  | readStatus id =>
      refine read ?_ trivial
      rw [goOn]
      (repeat' split) <;> rfl
  | qualifying id =>
      exact change_orThrow (marks_qualified now) (Or.inl (Or.inl rfl))
        ⟨fun guarded _ => guarded, fun guarded => guarded (Or.inl rfl)⟩
  | cancelExists id =>
      refine read ?_ trivial
      rw [goOn]
      split <;> rfl
  | cancelling id =>
      exact change_orThrow (marks_ended (Or.inl rfl)) (Or.inr (Or.inl rfl))
        (iff_of_true trivial fun advanced => absurd advanced (notAdvanced (Or.inl rfl)))
  | findingStale => exact read rfl trivial
  | expiring ids =>
      cases ids with
      | nil => exact read rfl trivial
      | cons id ids =>
          exact change_orThrow (marks_ended (Or.inr rfl)) (Or.inr (Or.inr rfl))
            (iff_of_true trivial fun advanced => absurd advanced (notAdvanced (Or.inr rfl)))
  | assertNoDuplicateReward id =>
      refine read ?_ trivial
      rw [goOn]
      split <;> rfl
  | creatingReward id =>
      rw [goOn]
      cases created : tables.createReward id with
      | none => exact .kept trivial
      | some written => exact .rewarded created trivial
  | markingDispatched rewardId id =>
      rw [goOn, orThrow.eq_def]
      cases marked : tables.markDispatched rewardId with
      | some after => exact .marked marked rfl
      | none =>
          refine .kept fun reward isReward => ?_
          rw [Option.map_eq_none_iff.mp marked] at isReward
          cases isReward
  | rewarding id =>
      exact change_orThrow (marks_rewarded now) (Or.inl (Or.inr rfl))
        ⟨fun guarded _ => guarded, fun guarded => guarded (Or.inr rfl)⟩
  | done => exact read rfl trivial
  | failed message => exact read rfl trivial

theorem Change.told {point : Point} (change : tables.Change point after) (told : tables.Told)
    (guarded : tables.Guarded point) : after.Told := by
  cases change with
  | kept => exact told
  | counted codes relationships rewards written =>
      exact
        { numbered := relationships ▸ told.numbered
          known := relationships ▸ written ▸ told.known
          ended := relationships ▸ written ▸ told.ended
          isEnded := relationships ▸ written ▸ told.isEnded
          qualified := relationships ▸ written ▸ told.qualified
          referred := relationships ▸ rewards ▸ told.referred
          dispatched := rewards ▸ written ▸ told.dispatched
          rewards := rewards ▸ told.rewards }
  | updated marks moves update guardedIff =>
      exact told.updateRelationship marks moves update (guardedIff.mp guarded)
  | created create => exact told.createRelationship create
  | rewarded create => exact (told.createReward create).1
  | marked mark => exact told.markDispatched mark

theorem Change.orderly_iff {point : Point} (change : tables.Change point after)
    (told : tables.Told) (orderly : tables.Orderly) :
    after.Orderly ↔ tables.Guarded point := by
  cases change with
  | kept guarded => exact iff_of_true orderly guarded
  | counted codes relationships rewards written guarded =>
      refine iff_of_true ⟨relationships ▸ orderly.single, written ▸ orderly.lawful, ?_⟩ guarded
      intro code member
      have listed := List.mem_map_of_mem (f := fun code => (code.id, code.maxUses)) member
      rw [codes] at listed
      obtain ⟨before, inside, same⟩ := List.mem_map.mp listed
      have sameId : before.id = code.id := congrArg Prod.fst same
      have sameMost : before.maxUses = code.maxUses := congrArg Prod.snd same
      have limited := orderly.limited before inside
      unfold uses at limited ⊢
      rw [relationships, ← sameId, ← sameMost]
      exact limited
  | updated marks moves update guardedIff =>
      rw [guardedIff]
      exact orderly.updateRelationship_iff told marks update
  | created create guardedIff =>
      rw [guardedIff]
      exact orderly.createRelationship_iff create
  | rewarded create guarded => exact iff_of_true ((told.createReward create).2 orderly) guarded
  | marked mark isPoint =>
      subst isPoint
      exact orderly.markDispatched_iff told mark _

end Tables

/-! ### Calls side by side -/

namespace World

/-- The write that a call is about to make is guarded. -/
def Guarded (world : World) : Happening → Prop
  | .goOn position _ => ∀ point ∈ world.calls[position]?, world.tables.Guarded point
  | _ => True

/-- Before the first call. -/
def opening (config : Config) (codes : List ReferralCode) (campaigns : List ReferralCampaign) :
    World :=
  { tables :=
      { config := config
        codes := codes
        campaigns := campaigns } }

theorem told_opening (config : Config) (codes : List ReferralCode)
    (campaigns : List ReferralCampaign) : (opening config codes campaigns).tables.Told where
  numbered := rfl
  known := fun _ _ => nofun
  ended := List.forall_mem_nil _
  isEnded := List.forall_mem_nil _
  qualified := List.forall_mem_nil _
  referred := List.forall_mem_nil _
  dispatched := fun _ => ⟨nofun, fun ⟨_, impossible, _⟩ => nomatch impossible⟩
  rewards := rfl

theorem orderly_opening (config : Config) (codes : List ReferralCode)
    (campaigns : List ReferralCampaign) : (opening config codes campaigns).tables.Orderly where
  single := List.nodup_nil
  lawful := Journals.lawful_nil _
  limited := fun code _ => Nat.zero_le code.maxUses

variable {world : World}

theorem told_step (told : world.tables.Told) {event : Happening}
    (guarded : world.Guarded event) : (world.step event).tables.Told := by
  cases event with
  | begin command => exact told
  | goOn position now =>
      rw [step]
      split
      · exact told
      · rename_i point found
        exact (Tables.change_goOn world.tables now point).told told (guarded point found)
  | stop position => exact told

theorem orderly_step_iff (told : world.tables.Told) (orderly : world.tables.Orderly)
    (event : Happening) : (world.step event).tables.Orderly ↔ world.Guarded event := by
  cases event with
  | begin command => exact iff_of_true orderly trivial
  | goOn position now =>
      rw [step, Guarded]
      split
      · rename_i missing
        refine iff_of_true orderly fun point isPoint => ?_
        rw [missing] at isPoint
        cases isPoint
      · rename_i point found
        rw [found]
        have changed := (Tables.change_goOn world.tables now point).orderly_iff told orderly
        exact changed.trans ⟨fun guarded other isOther => Option.some_inj.mp isOther ▸ guarded,
          fun all => all point rfl⟩
  | stop position => exact iff_of_true orderly trivial

/-- However the calls interleave and wherever they stop, every write is in order exactly when
what it relies on still stands each time one is made. -/
theorem orderly_iff_guarded (config : Config) (codes : List ReferralCode)
    (campaigns : List ReferralCampaign) (events : List Happening) :
    Runs.Always step (fun world => world.tables.Orderly) (opening config codes campaigns) events ↔
      Runs.Each step Guarded (opening config codes campaigns) events := by
  refine Runs.always_iff_each (fun world : World => world.tables.Told) ?_ ?_ _
    (told_opening config codes campaigns) (orderly_opening config codes campaigns) events
  · exact fun world event told _ guarded => told_step told guarded
  · exact fun world event told orderly => orderly_step_iff told orderly event

/-! ### A cancelled referral that is rewarded -/

namespace Revived

def codes : List ReferralCode :=
  [{ id := "code-1", code := "INVITE", referrerId := "alice", campaignId := some "spring" }]

def campaigns : List ReferralCampaign :=
  [{ id := "spring", qualificationRules := ["first-gift"] }]

def goOn (position : Nat) : Happening := .goOn position 0

/-- Bob registers, an admin cancels the referral, and it is then qualified. -/
def events : List Happening :=
  .begin (.register "INVITE" "bob") :: List.replicate 10 (goOn 0) ++
    (.begin (.cancel 0) :: List.replicate 2 (goOn 1)) ++
    (.begin (.qualify 0) :: List.replicate 3 (goOn 2))

end Revived

open Revived in
theorem not_orderly_revived :
    ¬Runs.Always step (fun world : World => world.tables.Orderly) (opening {} codes campaigns)
      events := by
  intro always
  have lawful := (Runs.Always.final always).lawful
  have written : (Runs.run step (opening {} codes campaigns) events).tables.written =
      [.status 0 .registered, .status 0 .cancelled] ++ [.status 0 .qualified] := by
    decide +kernel
  rw [written] at lawful
  have isProper := (Journals.lawful_concat.mp lawful).2
  exact isProper (Or.inl rfl) .cancelled (Or.inl rfl) (by decide)

end World

end Soulzaa.Referrals
