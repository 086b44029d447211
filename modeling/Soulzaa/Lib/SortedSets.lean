/-
Sorted sets under keys, as a cache keeps them.

The entries of all keys stand in one list in the order of their scores, where members
break ties.  The list carries the proof that no member is twice under a key.
-/

import Mathlib.Data.List.Sort
import Mathlib.Data.List.Nodup

namespace Soulzaa

structure ScoredEntry (Key Member : Type) where
  key : Key
  member : Member
  score : Int
  deriving DecidableEq, Repr

namespace ScoredEntry

variable {Key Member : Type}

def name (entry : ScoredEntry Key Member) : Key × Member := (entry.key, entry.member)

def Before [LE Member] (one two : ScoredEntry Key Member) : Prop :=
  one.score < two.score ∨ one.score = two.score ∧ one.member ≤ two.member

instance [LE Member] [DecidableLE Member] (one two : ScoredEntry Key Member) :
    Decidable (Before one two) :=
  inferInstanceAs (Decidable (_ ∨ _))

end ScoredEntry

structure SortedSets (Key Member : Type) where
  entries : List (ScoredEntry Key Member)
  distinct : (entries.map ScoredEntry.name).Nodup

namespace SortedSets

variable {Key Member : Type}

def empty : SortedSets Key Member :=
  { entries := []
    distinct := List.nodup_nil }

section Keys

variable [DecidableEq Key]

def members (sets : SortedSets Key Member) (key : Key) : List Member :=
  (sets.entries.filter fun entry => entry.key = key).map ScoredEntry.member

def count (sets : SortedSets Key Member) (key : Key) : Nat := (sets.members key).length

/-- The lowest-scored members, ascending. -/
def lowest (sets : SortedSets Key Member) (key : Key) (count : Nat) : List Member :=
  (sets.members key).take count

/-- The members with a score in the range, ascending. -/
def rangeByScore (sets : SortedSets Key Member) (key : Key) (low high : Int) : List Member :=
  (sets.entries.filter fun entry =>
    entry.key = key ∧ low ≤ entry.score ∧ entry.score ≤ high).map ScoredEntry.member

variable {sets : SortedSets Key Member} {key : Key}

theorem mem_members {wanted : Member} : wanted ∈ sets.members key ↔
    ∃ entry ∈ sets.entries, entry.key = key ∧ entry.member = wanted := by
  unfold members
  rw [List.mem_map]
  constructor
  · rintro ⟨entry, selected, isWanted⟩
    obtain ⟨stored, isKey⟩ := List.mem_filter.mp selected
    exact ⟨entry, stored, by simpa using isKey, isWanted⟩
  · rintro ⟨entry, stored, isKey, isWanted⟩
    exact ⟨entry, List.mem_filter.mpr ⟨stored, by simpa using isKey⟩, isWanted⟩

theorem nodup_members (sets : SortedSets Key Member) (key : Key) : (sets.members key).Nodup := by
  have distinct := sets.distinct.sublist
    ((List.filter_sublist (p := fun entry => decide (entry.key = key))).map ScoredEntry.name)
  apply List.Nodup.of_map (fun member => (key, member))
  unfold members
  rw [List.map_map]
  convert distinct using 1
  apply List.map_congr_left
  intro entry selected
  have isKey := (List.mem_filter.mp selected).2
  rw [decide_eq_true_eq] at isKey
  unfold ScoredEntry.name
  rw [Function.comp_apply, isKey]

theorem mem_of_lowest {number : Nat} {member : Member} (isLow : member ∈ sets.lowest key number) :
    member ∈ sets.members key :=
  List.mem_of_mem_take isLow

theorem nodup_lowest (sets : SortedSets Key Member) (key : Key) (number : Nat) :
    (sets.lowest key number).Nodup :=
  (sets.nodup_members key).sublist (List.take_sublist number _)

theorem length_lowest {number : Nat} (enough : number ≤ sets.count key) :
    (sets.lowest key number).length = number :=
  List.length_take_of_le enough

/-- No more members under a key, no higher count. -/
theorem count_le_of_subset {after : SortedSets Key Member} {members : List Member}
    (subset : ∀ member ∈ after.members key, member ∈ members) : after.count key ≤ members.length :=
  (List.subperm_of_subset (after.nodup_members key) subset).length_le

end Keys

section Removal

variable [DecidableEq Key] [DecidableEq Member]

def remove (sets : SortedSets Key Member) (key : Key) (gone : List Member) :
    SortedSets Key Member :=
  { entries := sets.entries.filter fun entry => ¬(entry.key = key ∧ entry.member ∈ gone)
    distinct := sets.distinct.sublist (List.filter_sublist.map ScoredEntry.name) }

variable {sets : SortedSets Key Member} {key other : Key} {gone : List Member}

theorem mem_members_remove {wanted : Member} :
    wanted ∈ (sets.remove key gone).members other ↔
      wanted ∈ sets.members other ∧ ¬(other = key ∧ wanted ∈ gone) := by
  rw [mem_members, mem_members]
  unfold remove
  constructor
  · rintro ⟨entry, kept, rfl, rfl⟩
    obtain ⟨stored, stays⟩ := List.mem_filter.mp kept
    exact ⟨⟨entry, stored, rfl, rfl⟩, of_decide_eq_true stays⟩
  · rintro ⟨⟨entry, stored, rfl, rfl⟩, stays⟩
    exact ⟨entry, List.mem_filter.mpr ⟨stored, decide_eq_true stays⟩, rfl, rfl⟩

theorem count_remove_le (sets : SortedSets Key Member) (key other : Key) (gone : List Member) :
    (sets.remove key gone).count other ≤ sets.count other :=
  count_le_of_subset fun _ member => (mem_members_remove.mp member).1

/-- As many are fewer as were there to be removed. -/
theorem count_remove (distinct : gone.Nodup) (present : ∀ member ∈ gone, member ∈ sets.members key) :
    (sets.remove key gone).count key + gone.length = sets.count key := by
  have split : ((sets.remove key gone).members key ++ gone).Perm (sets.members key) := by
    rw [List.perm_ext_iff_of_nodup _ (sets.nodup_members key)]
    · intro member
      rw [List.mem_append, mem_members_remove]
      constructor
      · rintro (⟨stays, _⟩ | isGone)
        · exact stays
        · exact present member isGone
      · intro isMember
        by_cases isGone : member ∈ gone
        · exact Or.inr isGone
        · exact Or.inl ⟨isMember, fun removed => isGone removed.2⟩
    · apply List.Nodup.append (nodup_members _ key) distinct
      intro member stays isGone
      exact (mem_members_remove.mp stays).2 ⟨rfl, isGone⟩
  have length := split.length_eq
  rw [List.length_append] at length
  exact length

end Removal

section Scores

variable [DecidableEq Key] [DecidableEq Member]

/-- The entries without one member of a key. -/
def others (sets : SortedSets Key Member) (key : Key) (member : Member) :
    List (ScoredEntry Key Member) :=
  sets.entries.filter fun entry => entry.name ≠ (key, member)

variable [LE Member] [DecidableLE Member]

def setScore (sets : SortedSets Key Member) (key : Key) (member : Member) (score : Int) :
    SortedSets Key Member :=
  { entries := (sets.others key member).orderedInsert ScoredEntry.Before
      { key := key
        member := member
        score := score }
    distinct := by
      have sorted := List.perm_orderedInsert ScoredEntry.Before
        { key := key, member := member, score := score } (sets.others key member)
      rw [(sorted.map ScoredEntry.name).nodup_iff, List.map_cons, List.nodup_cons]
      constructor
      · intro taken
        obtain ⟨entry, kept, same⟩ := List.mem_map.mp taken
        have different := (List.mem_filter.mp kept).2
        rw [decide_eq_true_eq] at different
        exact different same
      · exact sets.distinct.sublist (List.filter_sublist.map ScoredEntry.name) }

variable {sets : SortedSets Key Member} {key other : Key} {member : Member} {score : Int}

theorem mem_members_setScore {wanted : Member} :
    wanted ∈ (sets.setScore key member score).members other ↔
      other = key ∧ wanted = member ∨ wanted ∈ sets.members other := by
  have sorted : ∀ entry, entry ∈ (sets.setScore key member score).entries ↔
      entry = { key := key, member := member, score := score } ∨
        entry ∈ sets.others key member := by
    intro entry
    unfold setScore
    rw [(List.perm_orderedInsert ScoredEntry.Before _ _).mem_iff, List.mem_cons]
  rw [mem_members, mem_members]
  constructor
  · rintro ⟨entry, stored, rfl, rfl⟩
    rcases (sorted entry).mp stored with rfl | kept
    · exact Or.inl ⟨rfl, rfl⟩
    · exact Or.inr ⟨entry, (List.mem_filter.mp kept).1, rfl, rfl⟩
  · rintro (⟨rfl, rfl⟩ | ⟨entry, stored, rfl, rfl⟩)
    · exact ⟨_, (sorted _).mpr (Or.inl rfl), rfl, rfl⟩
    · by_cases same : entry.name = (key, member)
      · obtain ⟨rfl, rfl⟩ := Prod.mk.inj same
        exact ⟨_, (sorted _).mpr (Or.inl rfl), rfl, rfl⟩
      · refine ⟨entry, (sorted entry).mpr (Or.inr ?_), rfl, rfl⟩
        exact List.mem_filter.mpr ⟨stored, by simpa using same⟩

theorem count_setScore_le (sets : SortedSets Key Member) (key : Key) (member : Member)
    (score : Int) : (sets.setScore key member score).count key ≤ sets.count key + 1 := by
  have subset : ∀ wanted ∈ (sets.setScore key member score).members key,
      wanted ∈ member :: sets.members key := by
    intro wanted isMember
    rcases mem_members_setScore.mp isMember with ⟨_, rfl⟩ | stored
    · exact List.mem_cons_self
    · exact List.mem_cons_of_mem _ stored
  exact count_le_of_subset subset

theorem count_setScore_of_ne (different : other ≠ key) :
    (sets.setScore key member score).count other ≤ sets.count other := by
  apply count_le_of_subset
  intro wanted isMember
  rcases mem_members_setScore.mp isMember with ⟨same, _⟩ | stored
  · exact absurd same different
  · exact stored

end Scores

end SortedSets

end Soulzaa
