/-
The two engines that award EXP to a user, over one row and one history of keys.

Each computes the level anew from the EXP that it writes: ExpService from all rows of the table,
ExperienceService from the active ones up to the highest level allowed.
-/

import Mathlib.Data.List.Nodup
import Soulzaa.Exp.LevelTables
import Soulzaa.Lib.Runs

namespace Soulzaa.Exp

/-! ### Calls -/

structure UserLevel where
  currentLevel : Nat := 1
  lifetimeExp : Nat := 0
  dailyExp : Nat := 0
  deriving DecidableEq, Repr

/-- A row of the history, or a removal, which has none. -/
inductive Entry where
  | added (idempotencyKey : String) (amount : Nat)
  | removed (amount : Nat)
  deriving DecidableEq, Repr

def Entry.key : Entry → Option String
  | .added idempotencyKey _ => some idempotencyKey
  | .removed _ => none

/-- The EXP does not fall below zero. -/
def Entry.apply (total : Nat) : Entry → Nat
  | .added _ amount => total + amount
  | .removed amount => total - amount

structure ExpState where
  userLevel : Option UserLevel := none
  entries : List Entry := []
  deriving DecidableEq, Repr

/-- What the calls read beside the rows of the user. -/
structure Settings where
  table : LevelTable
  maxLevel : Nat := 100
  dailyExpLimit : Nat := 50000

/-- A call under the user's lock.  The events multiply an award, and `known` says that the user
is there, and the source where one is named, is active. -/
inductive ExpCall where
  | award (amount : Int) (multiplier : Nat) (idempotencyKey : String)
  | addExp (amount : Int) (idempotencyKey : String) (known : Bool)
  | removeExp (amount : Int) (known : Bool)
  deriving DecidableEq, Repr

namespace ExpState

def keys (state : ExpState) : List String := state.entries.filterMap Entry.key

/-- The row, or the one that is created. -/
def row (state : ExpState) : UserLevel := state.userLevel.getD {}

def write (state : ExpState) (level : Nat) (entry : Entry) (daily : Nat) : ExpState :=
  { userLevel :=
      some
        { currentLevel := level
          lifetimeExp := entry.apply state.row.lifetimeExp
          dailyExp := state.row.dailyExp + daily }
    entries := state.entries ++ [entry] }

variable (settings : Settings)

def award (state : ExpState) (amount : Int) (multiplier : Nat) (idempotencyKey : String) :
    ExpState :=
  if amount ≤ 0 ∨ idempotencyKey ∈ state.keys then state
  else
    let effectiveAmount := amount.toNat * multiplier
    state.write (levelForExp (state.row.lifetimeExp + effectiveAmount) settings.table.rows)
      (.added idempotencyKey effectiveAmount) 0

/-- A user without a row has no limit yet. -/
def withinLimits (state : ExpState) (amount : Nat) : Bool :=
  state.userLevel.all fun row => row.dailyExp + amount ≤ settings.dailyExpLimit

def addExp (state : ExpState) (amount : Int) (idempotencyKey : String) (known : Bool) : ExpState :=
  if known = false ∨ amount ≤ 0 ∨ idempotencyKey ∈ state.keys ∨
      state.withinLimits settings amount.toNat = false then
    state
  else
    state.write
      (calculateUserLevel settings.table.rows (state.row.lifetimeExp + amount.toNat)
        settings.maxLevel).currentLevel
      (.added idempotencyKey amount.toNat) amount.toNat

def removeExp (state : ExpState) (amount : Int) (known : Bool) : ExpState :=
  if known = false ∨ amount ≤ 0 ∨ state.userLevel = none then state
  else
    state.write
      (calculateUserLevel settings.table.rows (state.row.lifetimeExp - amount.toNat)
        settings.maxLevel).currentLevel
      (.removed amount.toNat) 0

def step (state : ExpState) : ExpCall → ExpState
  | .award amount multiplier idempotencyKey =>
      state.award settings amount multiplier idempotencyKey
  | .addExp amount idempotencyKey known => state.addExp settings amount idempotencyKey known
  | .removeExp amount known => state.removeExp settings amount known

/-! ### The property -/

/-- The level is the one of the EXP, and each key has been counted once. -/
structure Agrees (state : ExpState) : Prop where
  level : settings.table.rows ≠ [] → ∀ row ∈ state.userLevel,
    row.currentLevel = highestUsable settings.maxLevel row.lifetimeExp settings.table.rows
  once : state.keys.Nodup
  counted : state.row.lifetimeExp = state.entries.foldl Entry.apply 0

/-- An award that is counted reaches a usable row, and another change reaches none of the levels
of the formula. -/
def PermitsCall (state : ExpState) : ExpCall → Prop
  | .award amount multiplier idempotencyKey =>
      settings.table.rows ≠ [] → 0 < amount → idempotencyKey ∉ state.keys →
        settings.table.TopUsable settings.maxLevel
          (state.row.lifetimeExp + amount.toNat * multiplier)
  | .addExp amount idempotencyKey known =>
      settings.table.rows ≠ [] → known = true → 0 < amount → idempotencyKey ∉ state.keys →
        state.withinLimits settings amount.toNat = true →
          settings.table.Live ∨ settings.maxLevel ≤ 1 ∨
            state.row.lifetimeExp + amount.toNat < 100
  | .removeExp amount known =>
      settings.table.rows ≠ [] → known = true → 0 < amount → state.userLevel ≠ none →
        settings.table.Live ∨ settings.maxLevel ≤ 1 ∨ state.row.lifetimeExp - amount.toNat < 100

/-! ### Writes -/

variable {settings} {state : ExpState} {level daily : Nat} {entry : Entry}

/-- A write under a new key keeps the property as it writes the level. -/
theorem agrees_write_iff (agrees : state.Agrees settings)
    (isNew : ∀ key ∈ entry.key, key ∉ state.keys) :
    (state.write level entry daily).Agrees settings ↔
      (settings.table.rows ≠ [] →
        level = highestUsable settings.maxLevel (entry.apply state.row.lifetimeExp)
          settings.table.rows) := by
  constructor
  · intro after isTable
    exact after.level isTable _ rfl
  · intro isLevel
    refine ⟨?_, ?_, ?_⟩
    · intro isTable row isRow
      cases isRow
      exact isLevel isTable
    · have keys_write : (state.write level entry daily).keys = state.keys ++ entry.key.toList := by
        unfold write keys
        rw [List.filterMap_append]
        cases entry <;> rfl
      rw [keys_write]
      cases isKey : entry.key with
      | none =>
          rw [Option.toList_none, List.append_nil]
          exact agrees.once
      | some key =>
          rw [Option.toList_some]
          refine List.nodup_append.mpr ⟨agrees.once, List.nodup_singleton key, ?_⟩
          intro before isBefore last isLast same
          apply isNew key isKey
          rw [← List.mem_singleton.mp isLast, ← same]
          exact isBefore
    · unfold write
      rw [List.foldl_append, ← agrees.counted]
      rfl

theorem agrees_award_iff (agrees : state.Agrees settings) (amount : Int) (multiplier : Nat)
    (idempotencyKey : String) :
    (state.award settings amount multiplier idempotencyKey).Agrees settings ↔
      state.PermitsCall settings (.award amount multiplier idempotencyKey) := by
  unfold award PermitsCall
  split
  · rename_i unchanged
    refine iff_of_true agrees fun _ positive isNew => ?_
    exact absurd unchanged (not_or.mpr ⟨Int.not_le.mpr positive, isNew⟩)
  · rename_i counted
    rw [not_or, Int.not_le] at counted
    have isNew : ∀ key ∈ (Entry.added idempotencyKey (amount.toNat * multiplier)).key,
        key ∉ state.keys := by
      intro key isKey
      cases isKey
      exact counted.2
    dsimp only
    rw [agrees_write_iff agrees isNew, forall_prop_of_true counted.1, forall_prop_of_true counted.2]
    exact forall_congr' fun _ => levelForExp_eq_iff

theorem agrees_addExp_iff (agrees : state.Agrees settings) (amount : Int)
    (idempotencyKey : String) (known : Bool) :
    (state.addExp settings amount idempotencyKey known).Agrees settings ↔
      state.PermitsCall settings (.addExp amount idempotencyKey known) := by
  unfold addExp PermitsCall
  split
  · rename_i unchanged
    refine iff_of_true agrees fun _ isKnown positive isNew within => ?_
    rw [isKnown, within] at unchanged
    exact absurd unchanged (by simp [isNew, Int.not_le.mpr positive])
  · rename_i counted
    simp only [not_or, Int.not_le, Bool.not_eq_false] at counted
    obtain ⟨isKnown, positive, notYet, within⟩ := counted
    have isNew : ∀ key ∈ (Entry.added idempotencyKey amount.toNat).key, key ∉ state.keys := by
      intro key isKey
      cases isKey
      exact notYet
    dsimp only
    rw [agrees_write_iff agrees isNew, forall_prop_of_true isKnown, forall_prop_of_true positive,
      forall_prop_of_true notYet, forall_prop_of_true within]
    exact forall_congr' fun _ => currentLevel_eq_iff

theorem agrees_removeExp_iff (agrees : state.Agrees settings) (amount : Int) (known : Bool) :
    (state.removeExp settings amount known).Agrees settings ↔
      state.PermitsCall settings (.removeExp amount known) := by
  unfold removeExp PermitsCall
  split
  · rename_i unchanged
    refine iff_of_true agrees fun _ isKnown positive there => ?_
    rw [isKnown] at unchanged
    exact absurd unchanged (by simp [there, Int.not_le.mpr positive])
  · rename_i written
    simp only [not_or, Int.not_le, Bool.not_eq_false] at written
    obtain ⟨isKnown, positive, there⟩ := written
    have isNew : ∀ key ∈ (Entry.removed amount.toNat).key, key ∉ state.keys := by
      intro key isKey
      cases isKey
    dsimp only
    rw [agrees_write_iff agrees isNew, forall_prop_of_true isKnown, forall_prop_of_true positive,
      forall_prop_of_true there]
    exact forall_congr' fun _ => currentLevel_eq_iff

theorem agrees_step_iff (agrees : state.Agrees settings) (call : ExpCall) :
    (state.step settings call).Agrees settings ↔ state.PermitsCall settings call := by
  cases call with
  | award amount multiplier idempotencyKey => exact agrees_award_iff agrees _ _ _
  | addExp amount idempotencyKey known => exact agrees_addExp_iff agrees _ _ _
  | removeExp amount known => exact agrees_removeExp_iff agrees _ _

end ExpState

/-- Both engines write the level of the EXP after every call of a run, and the highest level is
reported as it should be, exactly under these conditions on the table and the calls. -/
theorem enginesAgree_iff (settings : Settings) (calls : List ExpCall) :
    (Runs.Always (ExpState.step settings) (ExpState.Agrees settings) {} calls ∧
        ∀ totalExp, settings.table.ReportsMax settings.maxLevel totalExp) ↔
      Runs.Each (ExpState.step settings) (ExpState.PermitsCall settings) {} calls ∧
        settings.table.Consecutive settings.maxLevel := by
  rw [reportsMax_iff]
  apply and_congr_left
  intro _
  have fresh : ExpState.Agrees settings {} := by
    refine ⟨?_, List.nodup_nil, rfl⟩
    intro _ row isRow
    cases isRow
  have exactly : ∀ state call, True → ExpState.Agrees settings state →
      (ExpState.Agrees settings (state.step settings call) ↔ state.PermitsCall settings call) :=
    fun _ call _ agrees => ExpState.agrees_step_iff agrees call
  exact Runs.always_iff_each (fun _ => True) (fun _ _ _ _ _ => trivial) exactly {} trivial fresh
    calls

/-! ### An inactive level -/

def third (level requiredExp : Nat) (active : Bool) : LevelDefinition where
  level := level + 1
  requiredExp := requiredExp
  active := active
  positive := Nat.le_add_left 1 level

theorem ascending_thirds :
    [third 0 0 true, third 1 100 true, third 2 200 false].Pairwise LevelDefinition.Below := by
  simp [LevelDefinition.Below, third]

def inactiveThird : LevelTable := ⟨_, ascending_thirds⟩

/-- An award reaches a level that is not active. -/
theorem not_enginesAgree_inactive :
    ¬Runs.Always (ExpState.step { table := inactiveThird })
      (ExpState.Agrees { table := inactiveThird }) {} [.award 200 1 "a"] := by
  intro always
  have level := always.final.level (List.cons_ne_nil _ _) ⟨3, 200, 0⟩ (by decide)
  revert level
  decide

end Soulzaa.Exp
