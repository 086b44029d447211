/-
What the journal of a session has posted, and what a list of payouts pays.
-/

import Soulzaa.Games.Session

namespace Soulzaa.Games

def Posted (journal : Journal) (kind : MovementKind) (userId : UserId) : Prop :=
  ∃ movement ∈ journal.rows, movement.key = (kind, userId)

theorem posted_of_mem {journal : Journal} {movement : Movement}
    (member : movement ∈ journal.rows) : Posted journal movement.kind movement.userId :=
  ⟨movement, member, rfl⟩

theorem not_posted_empty (kind : MovementKind) (userId : UserId) :
    ¬Posted UniqueTable.empty kind userId := by
  rintro ⟨_, member, _⟩
  exact absurd member List.not_mem_nil

theorem Posted.ensure {journal : Journal} {kind : MovementKind} {userId : UserId}
    (posted : Posted journal kind userId) (movement : Movement) :
    Posted (journal.ensure movement) kind userId := by
  obtain ⟨row, member, same⟩ := posted
  exact ⟨row, UniqueTable.mem_ensure_of_mem member, same⟩

theorem posted_ensure_iff (journal : Journal) (movement : Movement) (kind : MovementKind)
    (userId : UserId) : Posted (journal.ensure movement) kind userId ↔
      Posted journal kind userId ∨ (kind, userId) = movement.key := by
  constructor
  · rintro ⟨row, member, same⟩
    rcases UniqueTable.mem_ensure member with before | ⟨rfl, _⟩
    · exact Or.inl ⟨row, before, same⟩
    · exact Or.inr same.symm
  · rintro (before | same)
    · exact before.ensure movement
    · obtain ⟨row, member, key⟩ := UniqueTable.key_mem_ensure journal movement
      exact ⟨row, member, key.trans same.symm⟩

theorem posted_ensure_of_ne {journal : Journal} {movement : Movement} {kind : MovementKind}
    (other : movement.kind ≠ kind) (userId : UserId) :
    Posted (journal.ensure movement) kind userId ↔ Posted journal kind userId := by
  rw [posted_ensure_iff]
  constructor
  · rintro (before | same)
    · exact before
    · exact absurd (congrArg Prod.fst same).symm other
  · exact Or.inl

/-! ### Payouts -/

theorem payoutOf_cons (entry : PayoutEntry) (rest : List PayoutEntry) (userId : UserId) :
    payoutOf (entry :: rest) userId =
      if entry.userId = userId then entry.amount else payoutOf rest userId := by
  unfold payoutOf
  rw [List.find?_cons]
  by_cases same : entry.userId = userId <;> simp [same]

theorem payoutOf_eq_zero {payouts : List PayoutEntry} {userId : UserId}
    (absent : userId ∉ payouts.map PayoutEntry.userId) : payoutOf payouts userId = 0 := by
  induction payouts with
  | nil => rfl
  | cons entry rest ih =>
      rw [List.map_cons, List.mem_cons, not_or] at absent
      rw [payoutOf_cons, if_neg fun same => absent.1 same.symm]
      exact ih absent.2

end Soulzaa.Games
