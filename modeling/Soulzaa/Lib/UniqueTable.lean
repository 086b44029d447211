/-
An append-only table with a unique key.

The rows carry the proof that no key occurs twice, so a row whose key is taken
cannot be stored: `create` answers `none` there, as a unique constraint does.
-/

import Mathlib.Data.List.Nodup

namespace Soulzaa

structure UniqueTable {Row Key : Type} (key : Row → Key) where
  rows : List Row
  distinct : (rows.map key).Nodup

namespace UniqueTable

variable {Row Key : Type} {key : Row → Key}

def empty : UniqueTable key :=
  { rows := []
    distinct := List.nodup_nil }

def Absent (table : UniqueTable key) (wanted : Key) : Prop :=
  wanted ∉ table.rows.map key

def insert (table : UniqueTable key) (row : Row) (absent : table.Absent (key row)) :
    UniqueTable key :=
  { rows := table.rows ++ [row]
    distinct := by
      rw [List.map_append, List.map_singleton]
      exact List.Nodup.append table.distinct (List.nodup_singleton _)
        (List.disjoint_singleton.mpr absent) }

variable [DecidableEq Key]

instance (table : UniqueTable key) (wanted : Key) : Decidable (table.Absent wanted) :=
  inferInstanceAs (Decidable (wanted ∉ table.rows.map key))

def find? (table : UniqueTable key) (wanted : Key) : Option Row :=
  table.rows.find? fun row => key row = wanted

def create (table : UniqueTable key) (row : Row) : Option (UniqueTable key) :=
  if absent : table.Absent (key row) then some (table.insert row absent) else none

theorem find?_eq_none_iff (table : UniqueTable key) (wanted : Key) :
    table.find? wanted = none ↔ table.Absent wanted := by
  unfold find? Absent
  rw [List.find?_eq_none, List.mem_map]
  constructor
  · rintro missing ⟨row, member, same⟩
    exact missing row member (by simpa using same)
  · intro missing row member same
    exact missing ⟨row, member, by simpa using same⟩

theorem create_of_absent {table : UniqueTable key} {row : Row}
    (absent : table.Absent (key row)) :
    table.create row = some (table.insert row absent) :=
  dif_pos absent

theorem create_eq_none_iff (table : UniqueTable key) (row : Row) :
    table.create row = none ↔ ¬table.Absent (key row) := by
  unfold create
  by_cases absent : table.Absent (key row)
  · simp [absent]
  · simp [absent]

theorem rows_of_create {table after : UniqueTable key} {row : Row}
    (created : table.create row = some after) :
    table.Absent (key row) ∧ after.rows = table.rows ++ [row] := by
  unfold create at created
  split at created
  · rename_i absent
    cases created
    exact ⟨absent, rfl⟩
  · cases created

/-- Stores the row unless its key is taken. -/
def ensure (table : UniqueTable key) (row : Row) : UniqueTable key :=
  if absent : table.Absent (key row) then table.insert row absent else table

theorem mem_ensure_of_mem {table : UniqueTable key} {row other : Row}
    (member : other ∈ table.rows) : other ∈ (table.ensure row).rows := by
  unfold ensure
  split
  · exact List.mem_append_left _ member
  · exact member

theorem mem_ensure {table : UniqueTable key} {row other : Row}
    (member : other ∈ (table.ensure row).rows) :
    other ∈ table.rows ∨ (other = row ∧ table.Absent (key row)) := by
  unfold ensure at member
  split at member
  · rename_i absent
    exact (List.mem_append.mp member).imp_right fun new => ⟨List.mem_singleton.mp new, absent⟩
  · exact Or.inl member

theorem prefix_ensure {table : UniqueTable key} {row other : Row} {front : List Row}
    (inside : front ++ [other] <+: (table.ensure row).rows) :
    front ++ [other] <+: table.rows ∨ (front = table.rows ∧ other = row) := by
  unfold ensure at inside
  split at inside
  · rcases List.prefix_concat_iff.mp inside with whole | before
    · obtain ⟨sameFront, sameRow⟩ := List.append_inj' whole rfl
      exact Or.inr ⟨sameFront, List.singleton_inj.mp sameRow⟩
    · exact Or.inl before
  · exact Or.inl inside

theorem key_mem_ensure (table : UniqueTable key) (row : Row) :
    ∃ stored ∈ (table.ensure row).rows, key stored = key row := by
  unfold ensure
  split
  · exact ⟨row, List.mem_append_right _ (List.mem_singleton_self row), rfl⟩
  · rename_i taken
    obtain ⟨stored, member, same⟩ := List.mem_map.mp (Decidable.of_not_not taken)
    exact ⟨stored, member, same⟩

/-- Uniqueness, counted: at most one row has any given key. -/
theorem length_filter_le_one (table : UniqueTable key) (wanted : Key) :
    (table.rows.filter fun row => key row = wanted).length ≤ 1 := by
  have counted := List.nodup_iff_count_le_one.mp table.distinct wanted
  rw [List.count_eq_countP, List.countP_map, List.countP_eq_length_filter] at counted
  calc (table.rows.filter fun row => key row = wanted).length
      = (table.rows.filter ((fun other => other == wanted) ∘ key)).length := by
        congr 1
    _ ≤ 1 := counted

end UniqueTable

end Soulzaa
