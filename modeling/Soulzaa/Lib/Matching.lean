/-
Rows that each have a row of their own in another list.

A matching takes the positions of one list to distinct positions of the other that
carry the same value.  One exists exactly when every value occurs often enough.
-/

import Mathlib.Algebra.Order.BigOperators.Group.List
import Mathlib.Algebra.Ring.Int.Defs
import Mathlib.Data.List.Perm.Subperm
import Mathlib.Data.List.FinRange

namespace Soulzaa

variable {Row Other Value : Type}

def Matched (due : Row → Value) (paid : Other → Value) (rows : List Row)
    (others : List Other) : Prop :=
  ∃ own : Fin rows.length → Fin others.length,
    Function.Injective own ∧ ∀ index, paid (others.get (own index)) = due (rows.get index)

namespace Matched

variable {due : Row → Value} {paid : Other → Value} {rows : List Row} {others : List Other}

theorem map_positions (value : Row → Value) (rows : List Row) :
    ((List.finRange rows.length).map fun index => value (rows.get index)) = rows.map value := by
  change (List.finRange rows.length).map (value ∘ rows.get) = rows.map value
  rw [← List.map_map, List.map_get_finRange]

theorem subperm (matched : Matched due paid rows others) :
    (rows.map due).Subperm (others.map paid) := by
  obtain ⟨own, injective, pays⟩ := matched
  have chosen : ((List.finRange rows.length).map own).Subperm (List.finRange others.length) :=
    List.subperm_of_subset ((List.nodup_finRange _).map injective) fun _ _ => List.mem_finRange _
  obtain ⟨inOrder, same, isPart⟩ := chosen
  have dues : ((List.finRange rows.length).map own).map
      (fun index => paid (others.get index)) = rows.map due := by
    rw [List.map_map, ← map_positions due rows]
    exact List.map_congr_left fun index _ => pays index
  rw [← dues, ← map_positions paid others]
  exact ⟨inOrder.map _, same.map _, isPart.map _⟩

variable [BEq Value] [LawfulBEq Value]

theorem of_subperm (listed : (rows.map due).Subperm (others.map paid)) :
    Matched due paid rows others := by
  have toDue : rows.length = (rows.map due).length := (List.length_map due).symm
  have ofPaid : (others.map paid).length = others.length := List.length_map paid
  refine ⟨fun index => (listed.idxInj (index.cast toDue)).cast ofPaid, ?_, ?_⟩
  · intro first second same
    have sameIndex := listed.idxInj_injective (Fin.cast_injective ofPaid same)
    exact Fin.cast_injective toDue sameIndex
  · intro index
    have pays := listed.getElem_idxInj_eq_getElem (i := index.cast toDue)
    rw [List.getElem_map, List.getElem_map] at pays
    exact pays

theorem iff_subperm :
    Matched due paid rows others ↔ (rows.map due).Subperm (others.map paid) :=
  ⟨subperm, of_subperm⟩

/-- One more row is matched exactly when a row with its value is left over. -/
theorem concat_iff (matched : Matched due paid rows others) (row : Row) :
    Matched due paid (rows ++ [row]) others ↔
      (rows.map due).count (due row) < (others.map paid).count (due row) := by
  have sameRows : ((rows ++ [row]).map due).Perm (due row :: rows.map due) := by
    rw [List.map_append]
    exact List.perm_append_comm
  rw [iff_subperm, sameRows.subperm_right]
  constructor
  · intro listed
    have counted := listed.count_le (due row)
    rw [List.count_cons_self] at counted
    exact counted
  · exact matched.subperm.cons_left (due row)

theorem of_prefix (matched : Matched due paid rows others) (more : List Other) :
    Matched due paid rows (others ++ more) := by
  rw [iff_subperm, List.map_append]
  exact matched.subperm.trans (List.sublist_append_left _ _).subperm

omit [BEq Value] [LawfulBEq Value] in
/-- The matched rows sum to at most what the others sum to. -/
theorem sum_le (matched : Matched due paid rows others) (amount : Value → Int)
    (nonnegative : ∀ other ∈ others, 0 ≤ amount (paid other)) :
    (rows.map fun row => amount (due row)).sum ≤
      (others.map fun other => amount (paid other)).sum := by
  obtain ⟨inOrder, same, isPart⟩ := matched.subperm
  have sameSum := (same.map amount).sum_eq
  have atMost := (isPart.map amount).sum_le_sum fun value member => by
    rw [List.map_map] at member
    obtain ⟨other, inside, rfl⟩ := List.mem_map.mp member
    exact nonnegative other inside
  rw [sameSum, List.map_map, List.map_map] at atMost
  exact atMost

end Matched

end Soulzaa
