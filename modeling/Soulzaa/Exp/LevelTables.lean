/-
The table of levels, and the two ways in which a level is looked up in it.

One takes the highest of all rows that the EXP reaches.  The other goes up the active rows as far
as the EXP and the highest level allowed let it, and finds the next level by its number.
-/

import Mathlib.Algebra.Ring.Nat
import Mathlib.Data.List.Basic

namespace Soulzaa.Exp

structure LevelDefinition where
  level : Nat
  requiredExp : Nat
  active : Bool := true
  positive : 1 ≤ level
  deriving DecidableEq

namespace LevelDefinition

def Below (one two : LevelDefinition) : Prop :=
  one.level < two.level ∧ one.requiredExp < two.requiredExp

/-- The row is active and not above the highest level allowed. -/
def Usable (maxLevel : Nat) (row : LevelDefinition) : Prop :=
  row.active = true ∧ row.level ≤ maxLevel

instance (maxLevel : Nat) : DecidablePred (Usable maxLevel) :=
  fun _ => inferInstanceAs (Decidable (_ ∧ _))

end LevelDefinition

open LevelDefinition

/-- The rows in the order of their levels. -/
structure LevelTable where
  rows : List LevelDefinition
  ascending : rows.Pairwise Below

/-! ### Looking up -/

def levelForExp (totalExp : Nat) (configs : List LevelDefinition) : Nat :=
  configs.foldl
    (fun level config => if config.requiredExp ≤ totalExp then max level config.level else level) 1

/-- The highest usable level that the EXP reaches, or else 1. -/
def highestUsable (maxLevel totalExp : Nat) (rows : List LevelDefinition) : Nat :=
  ((rows.filter fun row => row.Usable maxLevel ∧ row.requiredExp ≤ totalExp).map
    LevelDefinition.level).max?.getD 1

def calculateExpForLevel (level : Nat) : Nat := if level ≤ 1 then 0 else 100 * (level - 1) ^ 2

/-- The level and its EXP, up to the first row that is not reached or is above the limit. -/
def walk (maxLevelLimit totalExp : Nat) (reached : Nat × Nat) : List LevelDefinition → Nat × Nat
  | [] => reached
  | definition :: rest =>
      if definition.requiredExp ≤ totalExp ∧ definition.level ≤ maxLevelLimit then
        walk maxLevelLimit totalExp (definition.level, definition.requiredExp) rest
      else reached

/-- The levels of the formula, where there is no definition. -/
def climb (totalExp : Nat) : Nat → Nat → Nat
  | 0, level => level
  | left + 1, level =>
      if calculateExpForLevel (level + 1) ≤ totalExp then climb totalExp left (level + 1) else level

structure LevelCalculation where
  currentLevel : Nat
  expForCurrentLevel : Nat
  expForNextLevel : Nat
  isMaxLevel : Bool
  deriving DecidableEq, Repr

def calculateUserLevel (rows : List LevelDefinition) (totalExp maxLevelLimit : Nat) :
    LevelCalculation :=
  let definitions := rows.filter LevelDefinition.active
  let climbed := climb totalExp (maxLevelLimit - 1) 1
  let current :=
    if definitions = [] then (climbed, calculateExpForLevel climbed)
    else walk maxLevelLimit totalExp (1, 0) definitions
  let nextDef := definitions.find? fun definition =>
    definition.level = current.1 + 1 ∧ definition.level ≤ maxLevelLimit
  let expForNextLevel :=
    if definitions = [] then calculateExpForLevel (current.1 + 1)
    else (nextDef.map LevelDefinition.requiredExp).getD current.2
  { currentLevel := current.1
    expForCurrentLevel := current.2
    expForNextLevel := expForNextLevel
    isMaxLevel := maxLevelLimit ≤ current.1 || expForNextLevel = current.2 }

/-! ### Highest rows -/

variable {rows : List LevelDefinition} {maxLevel totalExp level : Nat}

/-- The level is the highest of the rows that satisfy, or 1 where none does. -/
def IsHighest (satisfies : LevelDefinition → Prop) (rows : List LevelDefinition) (level : Nat) :
    Prop :=
  (∀ row ∈ rows, satisfies row → row.level ≤ level) ∧
    ((∃ row ∈ rows, satisfies row ∧ row.level = level) ∨
      level = 1 ∧ ∀ row ∈ rows, ¬satisfies row)

theorem IsHighest.unique {satisfies : LevelDefinition → Prop} {other : Nat}
    (one : IsHighest satisfies rows level) (two : IsHighest satisfies rows other) :
    level = other := by
  obtain ⟨most, some | none⟩ := one
  · obtain ⟨row, isRow, holds, rfl⟩ := some
    obtain ⟨mostTwo, someTwo | noneTwo⟩ := two
    · obtain ⟨second, isSecond, holdsTwo, rfl⟩ := someTwo
      exact Nat.le_antisymm (mostTwo row isRow holds) (most second isSecond holdsTwo)
    · exact absurd holds (noneTwo.2 row isRow)
  · obtain ⟨_, someTwo | noneTwo⟩ := two
    · obtain ⟨second, isSecond, holdsTwo, _⟩ := someTwo
      exact absurd holdsTwo (none.2 second isSecond)
    · exact none.1.trans noneTwo.1.symm

/-- Every row has a level of 1 at least: where the highest is 1, it is a row's or there is none. -/
theorem isHighest_of_le {satisfies : LevelDefinition → Prop}
    (most : ∀ row ∈ rows, satisfies row → row.level ≤ level)
    (attained : level = 1 ∨ ∃ row ∈ rows, satisfies row ∧ row.level = level) :
    IsHighest satisfies rows level := by
  refine ⟨most, ?_⟩
  rcases attained with isOne | some
  · by_cases some : ∃ row ∈ rows, satisfies row
    · obtain ⟨row, isRow, holds⟩ := some
      have atMost := most row isRow holds
      have atLeast := row.positive
      exact Or.inl ⟨row, isRow, holds, by omega⟩
    · exact Or.inr ⟨isOne, fun row isRow holds => some ⟨row, isRow, holds⟩⟩
  · exact Or.inl some

theorem isHighest_levelForExp :
    IsHighest (fun row => row.requiredExp ≤ totalExp) rows (levelForExp totalExp rows) := by
  have folded : ∀ start,
      let last := rows.foldl (fun level config =>
        if config.requiredExp ≤ totalExp then max level config.level else level) start
      start ≤ last ∧ (∀ row ∈ rows, row.requiredExp ≤ totalExp → row.level ≤ last) ∧
        (last = start ∨ ∃ row ∈ rows, row.requiredExp ≤ totalExp ∧ row.level = last) := by
    induction rows with
    | nil => exact fun start => ⟨Nat.le_refl start, by simp, Or.inl rfl⟩
    | cons first rest ih =>
        intro start
        dsimp only
        rw [List.foldl_cons]
        by_cases reached : first.requiredExp ≤ totalExp
        · obtain ⟨atLeast, most, attained⟩ := ih (max start first.level)
          rw [if_pos reached]
          refine ⟨Nat.le_trans (Nat.le_max_left _ _) atLeast, ?_, ?_⟩
          · intro row isRow holds
            rcases List.mem_cons.mp isRow with rfl | later
            · exact Nat.le_trans (Nat.le_max_right _ _) atLeast
            · exact most row later holds
          · rcases attained with isStart | some
            · rw [isStart]
              rcases Nat.le_total start first.level with le | ge
              · rw [Nat.max_eq_right le]
                exact Or.inr ⟨first, List.mem_cons_self, reached, rfl⟩
              · exact Or.inl (Nat.max_eq_left ge)
            · obtain ⟨row, isRow, holds⟩ := some
              exact Or.inr ⟨row, List.mem_cons_of_mem first isRow, holds⟩
        · obtain ⟨atLeast, most, attained⟩ := ih start
          rw [if_neg reached]
          refine ⟨atLeast, ?_, ?_⟩
          · intro row isRow holds
            rcases List.mem_cons.mp isRow with rfl | later
            · exact absurd holds reached
            · exact most row later holds
          · rcases attained with isStart | some
            · exact Or.inl isStart
            · obtain ⟨row, isRow, holds⟩ := some
              exact Or.inr ⟨row, List.mem_cons_of_mem first isRow, holds⟩
  obtain ⟨_, most, attained⟩ := folded 1
  exact isHighest_of_le most attained

theorem isHighest_highestUsable :
    IsHighest (fun row => row.Usable maxLevel ∧ row.requiredExp ≤ totalExp) rows
      (highestUsable maxLevel totalExp rows) := by
  have isIn : ∀ level, level ∈ ((rows.filter fun row =>
        row.Usable maxLevel ∧ row.requiredExp ≤ totalExp).map LevelDefinition.level) ↔
      ∃ row ∈ rows, (row.Usable maxLevel ∧ row.requiredExp ≤ totalExp) ∧ row.level = level := by
    intro level
    simp only [List.mem_map, List.mem_filter, decide_eq_true_eq, and_assoc]
  unfold highestUsable
  cases isMax : ((rows.filter fun row =>
      row.Usable maxLevel ∧ row.requiredExp ≤ totalExp).map LevelDefinition.level).max? with
  | none =>
      refine ⟨?_, Or.inr ⟨rfl, ?_⟩⟩
      · intro row isRow holds
        have member := (isIn row.level).mpr ⟨row, isRow, holds, rfl⟩
        rw [List.max?_eq_none_iff.mp isMax] at member
        cases member
      · intro row isRow holds
        have member := (isIn row.level).mpr ⟨row, isRow, holds, rfl⟩
        rw [List.max?_eq_none_iff.mp isMax] at member
        cases member
  | some level =>
      obtain ⟨member, most⟩ := List.max?_eq_some_iff.mp isMax
      refine ⟨?_, Or.inl ((isIn level).mp member)⟩
      intro row isRow holds
      exact most row.level ((isIn row.level).mpr ⟨row, isRow, holds, rfl⟩)

/-! ### The walk -/

/-- The walk ends at the highest row that it may pass, or where it began. -/
theorem walk_cases (ascending : rows.Pairwise Below) (reached : Nat × Nat) :
    (∃ row ∈ rows, (row.requiredExp ≤ totalExp ∧ row.level ≤ maxLevel) ∧
        walk maxLevel totalExp reached rows = (row.level, row.requiredExp) ∧
        ∀ other ∈ rows, other.requiredExp ≤ totalExp ∧ other.level ≤ maxLevel →
          other.level ≤ row.level) ∨
      walk maxLevel totalExp reached rows = reached ∧
        ∀ row ∈ rows, ¬(row.requiredExp ≤ totalExp ∧ row.level ≤ maxLevel) := by
  induction rows generalizing reached with
  | nil => exact Or.inr ⟨rfl, by simp⟩
  | cons first rest ih =>
      obtain ⟨lowest, others⟩ := List.pairwise_cons.mp ascending
      unfold walk
      by_cases passed : first.requiredExp ≤ totalExp ∧ first.level ≤ maxLevel
      · rw [if_pos passed]
        left
        rcases ih others (first.level, first.requiredExp) with some | none
        · obtain ⟨row, isRow, holds, ends, most⟩ := some
          refine ⟨row, List.mem_cons_of_mem first isRow, holds, ends, ?_⟩
          intro other isOther otherHolds
          rcases List.mem_cons.mp isOther with rfl | later
          · exact Nat.le_of_lt (lowest row isRow).1
          · exact most other later otherHolds
        · refine ⟨first, List.mem_cons_self, passed, none.1, ?_⟩
          intro other isOther otherHolds
          rcases List.mem_cons.mp isOther with rfl | later
          · exact Nat.le_refl _
          · exact absurd otherHolds (none.2 other later)
      · rw [if_neg passed]
        refine Or.inr ⟨rfl, ?_⟩
        intro row isRow holds
        rcases List.mem_cons.mp isRow with rfl | later
        · exact passed holds
        · have above := lowest row later
          unfold Below at above
          exact passed ⟨by omega, by omega⟩

theorem le_climb (left level : Nat) : level ≤ climb totalExp left level := by
  induction left generalizing level with
  | zero => exact Nat.le_refl level
  | succ left ih =>
      unfold climb
      split
      · exact Nat.le_trans (Nat.le_succ level) (ih (level + 1))
      · exact Nat.le_refl level

theorem climb_eq_one_iff (left : Nat) : climb totalExp left 1 = 1 ↔ left = 0 ∨ totalExp < 100 := by
  cases left with
  | zero => exact iff_of_true rfl (Or.inl rfl)
  | succ left =>
      have second : calculateExpForLevel (1 + 1) = 100 := rfl
      have higher := @le_climb totalExp left (1 + 1)
      unfold climb
      rw [second]
      split
      · omega
      · omega

/-! ### Levels as calculated -/

section Calculated

variable (table : LevelTable)

/-- Some row is active. -/
def LevelTable.Live : Prop := ∃ row ∈ table.rows, row.active = true

/-- The highest row that the EXP reaches is usable, unless it is of level 1. -/
def LevelTable.TopUsable (maxLevel totalExp : Nat) : Prop :=
  ∀ row ∈ table.rows, row.requiredExp ≤ totalExp →
    (∀ other ∈ table.rows, other.requiredExp ≤ totalExp → other.level ≤ row.level) →
      row.level = 1 ∨ row.Usable maxLevel

/-- A level that some EXP is given. -/
def LevelTable.Standing (maxLevel level : Nat) : Prop :=
  (∃ row ∈ table.rows, row.Usable maxLevel ∧ row.level = level) ∨
    level = 1 ∧ ∀ row ∈ table.rows, row.Usable maxLevel → 0 < row.requiredExp

/-- No level is left out below a usable one, and some row is active where levels go beyond 1. -/
structure LevelTable.Consecutive (maxLevel : Nat) : Prop where
  next : ∀ level, table.Standing maxLevel level →
    (∃ row ∈ table.rows, row.Usable maxLevel ∧ level < row.level) →
      ∃ row ∈ table.rows, row.Usable maxLevel ∧ row.level = level + 1
  live : table.Live ∨ maxLevel ≤ 1

/-- The highest level is reported exactly where no active level is above. -/
def LevelTable.ReportsMax (maxLevel totalExp : Nat) : Prop :=
  (calculateUserLevel table.rows totalExp maxLevel).isMaxLevel = true ↔
    ¬∃ row ∈ table.rows, row.Usable maxLevel ∧
      (calculateUserLevel table.rows totalExp maxLevel).currentLevel < row.level

variable {table}

theorem live_iff : table.Live ↔ table.rows.filter LevelDefinition.active ≠ [] := by
  unfold LevelTable.Live
  rw [ne_eq, List.filter_eq_nil_iff]
  simp only [not_forall, not_not, exists_prop]

theorem eq_of_level {one two : LevelDefinition} (isOne : one ∈ table.rows)
    (isTwo : two ∈ table.rows)
    (same : one.level = two.level) : one = two := by
  have ascending := table.ascending
  generalize table.rows = rows at isOne isTwo ascending
  induction rows with
  | nil => cases isOne
  | cons first rest ih =>
      obtain ⟨lowest, others⟩ := List.pairwise_cons.mp ascending
      rcases List.mem_cons.mp isOne with rfl | laterOne
      · rcases List.mem_cons.mp isTwo with rfl | laterTwo
        · rfl
        · exact absurd same (Nat.ne_of_lt (lowest two laterTwo).1)
      · rcases List.mem_cons.mp isTwo with rfl | laterTwo
        · exact absurd same.symm (Nat.ne_of_lt (lowest one laterOne).1)
        · exact ih laterOne laterTwo others

theorem requiredExp_lt {one two : LevelDefinition} (isOne : one ∈ table.rows)
    (isTwo : two ∈ table.rows) (lower : one.level < two.level) :
    one.requiredExp < two.requiredExp := by
  have ascending := table.ascending
  generalize table.rows = rows at isOne isTwo ascending
  induction rows with
  | nil => cases isOne
  | cons first rest ih =>
      obtain ⟨lowest, others⟩ := List.pairwise_cons.mp ascending
      rcases List.mem_cons.mp isOne with rfl | laterOne
      · rcases List.mem_cons.mp isTwo with rfl | laterTwo
        · exact absurd lower (Nat.lt_irrefl _)
        · exact (lowest two laterTwo).2
      · rcases List.mem_cons.mp isTwo with rfl | laterTwo
        · exact absurd (lowest one laterOne).1 (Nat.not_lt_of_lt lower)
        · exact ih laterOne laterTwo others

/-- The two look-ups agree where the highest row reached is usable. -/
theorem levelForExp_eq_iff :
    levelForExp totalExp table.rows = highestUsable maxLevel totalExp table.rows ↔
      table.TopUsable maxLevel totalExp := by
  have all := @isHighest_levelForExp table.rows totalExp
  have usable := @isHighest_highestUsable table.rows maxLevel totalExp
  constructor
  · intro same row isRow reached most
    rw [all.unique (isHighest_of_le most (Or.inr ⟨row, isRow, reached, rfl⟩))] at same
    rw [← same] at usable
    rcases usable.2 with some | none
    · obtain ⟨other, isOther, holds, isLevel⟩ := some
      rw [← eq_of_level isOther isRow isLevel]
      exact Or.inr holds.1
    · exact Or.inl none.1
  · intro top
    refine IsHighest.unique ?_ usable
    rcases all.2 with some | none
    · obtain ⟨row, isRow, reached, isLevel⟩ := some
      have most : ∀ other ∈ table.rows, other.requiredExp ≤ totalExp → other.level ≤ row.level := by
        rw [isLevel]
        exact all.1
      rw [← isLevel]
      apply isHighest_of_le fun other isOther holds => most other isOther holds.2
      rcases top row isRow reached most with isOne | isUsable
      · exact Or.inl isOne
      · exact Or.inr ⟨row, isRow, ⟨isUsable, reached⟩, rfl⟩
    · exact ⟨fun row isRow holds => absurd holds.2 (none.2 row isRow),
        Or.inr ⟨none.1, fun row isRow holds => none.2 row isRow holds.2⟩⟩

/-- Where some row is active, the walk finds the highest usable row reached and its EXP. -/
theorem calculated_cases (live : table.Live) :
    (∃ row ∈ table.rows, row.Usable maxLevel ∧ row.requiredExp ≤ totalExp ∧
        (calculateUserLevel table.rows totalExp maxLevel).currentLevel = row.level ∧
        (calculateUserLevel table.rows totalExp maxLevel).expForCurrentLevel = row.requiredExp ∧
        ∀ other ∈ table.rows, other.Usable maxLevel → other.requiredExp ≤ totalExp →
          other.level ≤ row.level) ∨
      (calculateUserLevel table.rows totalExp maxLevel).currentLevel = 1 ∧
        (calculateUserLevel table.rows totalExp maxLevel).expForCurrentLevel = 0 ∧
        ∀ row ∈ table.rows, row.Usable maxLevel → ¬row.requiredExp ≤ totalExp := by
  have isWalk : walk maxLevel totalExp (1, 0) (table.rows.filter LevelDefinition.active) =
      ((calculateUserLevel table.rows totalExp maxLevel).currentLevel,
        (calculateUserLevel table.rows totalExp maxLevel).expForCurrentLevel) := by
    unfold calculateUserLevel
    dsimp only
    rw [if_neg (live_iff.mp live)]
  have isIn : ∀ row, row ∈ table.rows.filter LevelDefinition.active ↔
      row ∈ table.rows ∧ row.active = true := fun _ => List.mem_filter
  have ascending : (table.rows.filter LevelDefinition.active).Pairwise Below :=
    table.ascending.filter _
  rcases @walk_cases _ maxLevel totalExp ascending (1, 0) with some | none
  · obtain ⟨row, isRow, reached, ends, most⟩ := some
    obtain ⟨inside, isActive⟩ := (isIn row).mp isRow
    rw [isWalk, Prod.mk.injEq] at ends
    refine Or.inl ⟨row, inside, ⟨isActive, reached.2⟩, reached.1, ends.1, ends.2, ?_⟩
    intro other isOther usable isReached
    exact most other ((isIn other).mpr ⟨isOther, usable.1⟩) ⟨isReached, usable.2⟩
  · obtain ⟨ends, unreached⟩ := none
    rw [isWalk, Prod.mk.injEq] at ends
    refine Or.inr ⟨ends.1, ends.2, ?_⟩
    intro row isRow usable isReached
    exact unreached row ((isIn row).mpr ⟨isRow, usable.1⟩) ⟨isReached, usable.2⟩

/-- The level is calculated as it should be where some row is active, or the formula gives 1. -/
theorem currentLevel_eq_iff :
    (calculateUserLevel table.rows totalExp maxLevel).currentLevel =
        highestUsable maxLevel totalExp table.rows ↔
      table.Live ∨ maxLevel ≤ 1 ∨ totalExp < 100 := by
  have usable := @isHighest_highestUsable table.rows maxLevel totalExp
  by_cases live : table.Live
  · refine iff_of_true (IsHighest.unique ?_ usable) (Or.inl live)
    rcases @calculated_cases maxLevel totalExp table live with some | none
    · obtain ⟨row, isRow, isUsable, reached, isLevel, _, most⟩ := some
      rw [isLevel]
      exact ⟨fun other isOther holds => most other isOther holds.1 holds.2,
        Or.inl ⟨row, isRow, ⟨isUsable, reached⟩, rfl⟩⟩
    · rw [none.1]
      exact ⟨fun row isRow holds => absurd holds.2 (none.2.2 row isRow holds.1),
        Or.inr ⟨rfl, fun row isRow holds => none.2.2 row isRow holds.1 holds.2⟩⟩
  · have isOne : highestUsable maxLevel totalExp table.rows = 1 :=
      usable.unique ⟨fun row isRow holds => absurd ⟨row, isRow, holds.1.1⟩ live,
        Or.inr ⟨rfl, fun row isRow holds => live ⟨row, isRow, holds.1.1⟩⟩⟩
    have climbed : (calculateUserLevel table.rows totalExp maxLevel).currentLevel =
        climb totalExp (maxLevel - 1) 1 := by
      unfold calculateUserLevel
      dsimp only
      rw [if_pos (not_not.mp (mt live_iff.mpr live))]
    rw [isOne, climbed, climb_eq_one_iff, or_iff_right live]
    omega

/-! ### The highest level -/

theorem isMaxLevel_of_live (live : table.Live) :
    (calculateUserLevel table.rows totalExp maxLevel).isMaxLevel = true ↔
      maxLevel ≤ (calculateUserLevel table.rows totalExp maxLevel).currentLevel ∨
        ∀ row ∈ table.rows, row.Usable maxLevel →
          row.level = (calculateUserLevel table.rows totalExp maxLevel).currentLevel + 1 →
            row.requiredExp =
              (calculateUserLevel table.rows totalExp maxLevel).expForCurrentLevel := by
  unfold calculateUserLevel
  dsimp only
  rw [if_neg (live_iff.mp live), if_neg (live_iff.mp live), Bool.or_eq_true, decide_eq_true_eq,
    decide_eq_true_eq]
  apply or_congr_right
  generalize walk maxLevel totalExp (1, 0) (table.rows.filter LevelDefinition.active) = current
  have isNext : ∀ row, row ∈ table.rows → row.Usable maxLevel → row.level = current.1 + 1 →
      (table.rows.filter LevelDefinition.active).find? (fun definition =>
        decide (definition.level = current.1 + 1 ∧ definition.level ≤ maxLevel)) = some row := by
    intro row isRow usable isLevel
    cases found : (table.rows.filter LevelDefinition.active).find? (fun definition =>
        decide (definition.level = current.1 + 1 ∧ definition.level ≤ maxLevel)) with
    | none =>
        have member : row ∈ table.rows.filter LevelDefinition.active :=
          List.mem_filter.mpr ⟨isRow, usable.1⟩
        exact absurd (decide_eq_true ⟨isLevel, usable.2⟩) (List.find?_eq_none.mp found row member)
    | some other =>
        have isOther := List.mem_of_find?_eq_some found
        have holds := List.find?_some found
        rw [decide_eq_true_eq] at holds
        rw [eq_of_level (List.mem_filter.mp isOther).1 isRow (holds.1.trans isLevel.symm)]
  constructor
  · intro same row isRow usable isLevel
    rw [isNext row isRow usable isLevel] at same
    exact same
  · intro all
    cases found : (table.rows.filter LevelDefinition.active).find? (fun definition =>
        decide (definition.level = current.1 + 1 ∧ definition.level ≤ maxLevel)) with
    | none => rfl
    | some next =>
        obtain ⟨isRow, isActive⟩ := List.mem_filter.mp (List.mem_of_find?_eq_some found)
        have holds := List.find?_some found
        rw [decide_eq_true_eq] at holds
        exact all next isRow ⟨isActive, holds.2⟩ holds.1

/-- A level that the EXP gives is one that the table gives. -/
theorem standing_currentLevel (live : table.Live) :
    table.Standing maxLevel (calculateUserLevel table.rows totalExp maxLevel).currentLevel := by
  rcases @calculated_cases maxLevel totalExp table live with some | none
  · obtain ⟨row, isRow, usable, _, isLevel, _⟩ := some
    exact Or.inl ⟨row, isRow, usable, isLevel.symm⟩
  · refine Or.inr ⟨none.1, fun row isRow usable => ?_⟩
    exact Nat.pos_of_ne_zero fun isZero => none.2.2 row isRow usable (isZero ▸ Nat.zero_le _)

/-- Every level that the table gives, some EXP is given. -/
theorem currentLevel_of_standing (live : table.Live) (standing : table.Standing maxLevel level) :
    ∃ totalExp, (calculateUserLevel table.rows totalExp maxLevel).currentLevel = level := by
  rcases standing with some | none
  · obtain ⟨row, isRow, usable, rfl⟩ := some
    refine ⟨row.requiredExp, ?_⟩
    rcases @calculated_cases maxLevel row.requiredExp table live with found | unfound
    · obtain ⟨other, isOther, _, reached, isLevel, _, most⟩ := found
      rw [isLevel]
      apply Nat.le_antisymm
      · exact Nat.le_of_not_lt fun higher =>
          absurd (requiredExp_lt isRow isOther higher) (Nat.not_lt_of_le reached)
      · exact most row isRow usable (Nat.le_refl _)
    · exact absurd (Nat.le_refl _) (unfound.2.2 row isRow usable)
  · refine ⟨0, ?_⟩
    rcases @calculated_cases maxLevel 0 table live with found | unfound
    · obtain ⟨row, isRow, usable, reached, _⟩ := found
      exact absurd (none.2 row isRow usable) (Nat.not_lt_of_le reached)
    · exact unfound.1.trans none.1.symm

theorem reportsMax_iff_of_live (live : table.Live) :
    table.ReportsMax maxLevel totalExp ↔
      ((∃ row ∈ table.rows, row.Usable maxLevel ∧
          (calculateUserLevel table.rows totalExp maxLevel).currentLevel < row.level) →
        ∃ row ∈ table.rows, row.Usable maxLevel ∧
          row.level = (calculateUserLevel table.rows totalExp maxLevel).currentLevel + 1) := by
  unfold LevelTable.ReportsMax
  rw [isMaxLevel_of_live live]
  by_cases higher : ∃ row ∈ table.rows, row.Usable maxLevel ∧
      (calculateUserLevel table.rows totalExp maxLevel).currentLevel < row.level
  · rw [iff_false_right (not_not.mpr higher), forall_prop_of_true higher]
    obtain ⟨top, _, topUsable, above⟩ := higher
    constructor
    · intro reported
      rw [not_or] at reported
      obtain ⟨_, some⟩ := reported
      simp only [not_forall] at some
      obtain ⟨row, isRow, usable, isLevel, _⟩ := some
      exact ⟨row, isRow, usable, isLevel⟩
    · intro next reported
      obtain ⟨row, isRow, usable, isLevel⟩ := next
      rcases reported with limit | same
      · exact absurd (Nat.lt_of_lt_of_le above topUsable.2) (Nat.not_lt_of_le limit)
      · have sameExp := same row isRow usable isLevel
        -- the next row requires more than the one that was found, or more than nothing
        rcases @calculated_cases maxLevel totalExp table live with found | unfound
        · obtain ⟨current, isCurrent, _, _, currentLevel, currentExp, _⟩ := found
          have more := requiredExp_lt isCurrent isRow (by omega)
          omega
        · have unreached := unfound.2.2 row isRow usable
          omega
  · refine iff_of_true (iff_of_true (Or.inr ?_) higher) fun is => absurd is higher
    intro row isRow usable isLevel
    exact absurd ⟨row, isRow, usable, by omega⟩ higher

theorem reportsMax_iff :
    (∀ totalExp, table.ReportsMax maxLevel totalExp) ↔ table.Consecutive maxLevel := by
  by_cases live : table.Live
  · constructor
    · intro reports
      refine ⟨fun level standing higher => ?_, Or.inl live⟩
      obtain ⟨totalExp, rfl⟩ := currentLevel_of_standing live standing
      exact (reportsMax_iff_of_live live).mp (reports totalExp) higher
    · intro consecutive totalExp
      rw [reportsMax_iff_of_live live]
      exact consecutive.next _ (standing_currentLevel live)
  · have empty : table.rows.filter LevelDefinition.active = [] := not_not.mp (mt live_iff.mpr live)
    have none_above : ∀ level, ¬∃ row ∈ table.rows, row.Usable maxLevel ∧ level < row.level := by
      intro level some
      obtain ⟨row, isRow, usable, _⟩ := some
      exact live ⟨row, isRow, usable.1⟩
    constructor
    · intro reports
      refine ⟨fun level _ higher => absurd higher (none_above level), Or.inr ?_⟩
      have atZero := (reports 0).mpr (none_above _)
      unfold calculateUserLevel at atZero
      dsimp only at atZero
      rw [if_pos empty, if_pos empty, (climb_eq_one_iff _).mpr (Or.inr (by decide)),
        Bool.or_eq_true, decide_eq_true_eq, decide_eq_true_eq] at atZero
      exact atZero.resolve_right (by decide)
    · intro consecutive totalExp
      refine iff_of_true ?_ (none_above _)
      have limit := consecutive.live.resolve_left live
      unfold calculateUserLevel
      dsimp only
      rw [if_pos empty, Bool.or_eq_true, decide_eq_true_eq]
      exact Or.inl (Nat.le_trans limit (le_climb _ 1))

end Calculated

end Soulzaa.Exp
