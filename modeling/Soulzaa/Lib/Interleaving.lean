/-
Proof outlines for calls that run interleaved over shared state.

A call stands wherever its last await has left it, and one call goes on at a time.
An outline says what holds of the shared state, what holds of it while a call
stands at a point, and where two calls never stand together.  It is kept when the
call that goes on keeps it and disturbs no assertion of another call.  Locks are a
case: a call holds keys at each point, and takes only keys that are free.
-/

import Mathlib.Algebra.BigOperators.Group.List.Basic
import Mathlib.Algebra.Order.BigOperators.Group.List
import Mathlib.Data.List.Basic

namespace Soulzaa.Interleaving

variable {Shared Call Key : Type}

structure Outline (Shared Call : Type) where
  world : Shared → Prop
  asserts : Shared → Call → Prop
  apart : Call → Call → Prop

structure Outline.Holds (outline : Outline Shared Call) (shared : Shared) (calls : List Call) :
    Prop where
  world : outline.world shared
  asserts : ∀ call ∈ calls, outline.asserts shared call
  apart : ∀ (first second : Nat) (one two : Call), calls[first]? = some one →
    calls[second]? = some two → first ≠ second → outline.apart one two

namespace Outline

variable {outline : Outline Shared Call} {shared after : Shared} {calls : List Call}

theorem holds_nil (world : outline.world shared) : outline.Holds shared [] where
  world := world
  asserts := List.forall_mem_nil _
  apart := by
    intro first second one two found
    rw [List.getElem?_nil] at found
    cases found

/-- A new call joins the others. -/
theorem Holds.spawn (holds : outline.Holds shared calls) {call : Call}
    (starts : outline.asserts shared call)
    (alone : ∀ other ∈ calls, outline.apart call other ∧ outline.apart other call) :
    outline.Holds shared (calls ++ [call]) where
  world := holds.world
  asserts := by
    intro other member
    rcases List.mem_append.mp member with earlier | new
    · exact holds.asserts other earlier
    · rw [List.mem_singleton.mp new]
      exact starts
  apart := by
    intro first second one two foundOne foundTwo different
    rw [List.getElem?_append] at foundOne foundTwo
    split at foundOne
    · split at foundTwo
      · exact holds.apart first second one two foundOne foundTwo different
      · have isNew := List.mem_singleton.mp (List.mem_of_getElem? foundTwo)
        rw [isNew]
        exact (alone one (List.mem_of_getElem? foundOne)).2
    · have isNew := List.mem_singleton.mp (List.mem_of_getElem? foundOne)
      split at foundTwo
      · rw [isNew]
        exact (alone two (List.mem_of_getElem? foundTwo)).1
      · have firstInside := (List.getElem?_eq_some_iff.mp foundOne).1
        have secondInside := (List.getElem?_eq_some_iff.mp foundTwo).1
        rw [List.length_singleton] at firstInside secondInside
        omega

/-- One call goes on, and the calls at other places keep what they rely on. -/
theorem Holds.goOn_at (holds : outline.Holds shared calls) {position : Nat} {call next : Call}
    (found : calls[position]? = some call) (world : outline.world after)
    (own : outline.asserts after next)
    (others : ∀ (place : Nat) (other : Call), place ≠ position → calls[place]? = some other →
      outline.asserts shared other → outline.apart call other → outline.apart other call →
        outline.asserts after other ∧ outline.apart next other ∧ outline.apart other next) :
    outline.Holds after (calls.set position next) := by
  have kept : ∀ (place : Nat) (other : Call), place ≠ position → calls[place]? = some other →
      outline.asserts after other ∧ outline.apart next other ∧ outline.apart other next := by
    intro place other elsewhere foundOther
    exact others place other elsewhere foundOther
      (holds.asserts other (List.mem_of_getElem? foundOther))
      (holds.apart position place call other found foundOther elsewhere.symm)
      (holds.apart place position other call foundOther found elsewhere)
  have inside : position < calls.length := (List.getElem?_eq_some_iff.mp found).1
  have written : ∀ (place : Nat) (other : Call), (calls.set position next)[place]? = some other →
      (place = position ∧ other = next) ∨ (place ≠ position ∧ calls[place]? = some other) := by
    intro place other foundOther
    rw [List.getElem?_set] at foundOther
    split at foundOther
    · rename_i same
      cases foundOther
      exact Or.inl ⟨same.symm, rfl⟩
    · rename_i different
      exact Or.inr ⟨fun same => different same.symm, foundOther⟩
  constructor
  · exact world
  · intro other member
    obtain ⟨place, foundOther⟩ := List.getElem?_of_mem member
    rcases written place other foundOther with ⟨_, rfl⟩ | ⟨elsewhere, foundOther⟩
    · exact own
    · exact (kept place other elsewhere foundOther).1
  · intro first second one two foundOne foundTwo different
    rcases written first one foundOne with ⟨atFirst, rfl⟩ | ⟨elsewhere, wasOne⟩
    · rcases written second two foundTwo with ⟨atSecond, _⟩ | ⟨elsewhere, wasTwo⟩
      · exact absurd (atFirst.trans atSecond.symm) different
      · exact (kept second two elsewhere wasTwo).2.1
    · rcases written second two foundTwo with ⟨_, rfl⟩ | ⟨_, wasTwo⟩
      · exact (kept first one elsewhere wasOne).2.2
      · exact holds.apart first second one two wasOne wasTwo different

/-- One call goes on, and the others keep what they rely on. -/
theorem Holds.goOn (holds : outline.Holds shared calls) {position : Nat} {call next : Call}
    (found : calls[position]? = some call) (world : outline.world after)
    (own : outline.asserts after next)
    (others : ∀ other ∈ calls, outline.asserts shared other → outline.apart call other →
      outline.apart other call →
        outline.asserts after other ∧ outline.apart next other ∧ outline.apart other next) :
    outline.Holds after (calls.set position next) :=
  holds.goOn_at found world own fun _ other _ foundOther =>
    others other (List.mem_of_getElem? foundOther)

/-- The shared state changes by itself. -/
theorem Holds.disturb (holds : outline.Holds shared calls) (world : outline.world after)
    (kept : ∀ call ∈ calls, outline.asserts shared call → outline.asserts after call) :
    outline.Holds after calls where
  world := world
  asserts := fun call member => kept call member (holds.asserts call member)
  apart := holds.apart

end Outline

/-! ### The other calls -/

section Others

variable {calls : List Call} {position : Nat} {call : Call} {holds : Call → Prop}

theorem exists_iff_others (found : calls[position]? = some call) :
    (∃ other ∈ calls, holds other) ↔
      holds call ∨ ∃ other ∈ calls.eraseIdx position, holds other := by
  constructor
  · rintro ⟨other, member, isHeld⟩
    obtain ⟨place, foundOther⟩ := List.getElem?_of_mem member
    by_cases same : place = position
    · rw [same, found] at foundOther
      rw [Option.some_inj.mp foundOther]
      exact Or.inl isHeld
    · exact Or.inr ⟨other, List.mem_eraseIdx_iff_getElem?.mpr ⟨place, same, foundOther⟩, isHeld⟩
  · rintro (isHeld | ⟨other, member, isHeld⟩)
    · exact ⟨call, List.mem_of_getElem? found, isHeld⟩
    · exact ⟨other, List.mem_of_mem_eraseIdx member, isHeld⟩

theorem exists_set_iff_others (found : calls[position]? = some call) (next : Call) :
    (∃ other ∈ calls.set position next, holds other) ↔
      holds next ∨ ∃ other ∈ calls.eraseIdx position, holds other := by
  have inside : position < calls.length := (List.getElem?_eq_some_iff.mp found).1
  rw [exists_iff_others (List.getElem?_set_self inside), List.eraseIdx_set_eq]

end Others

/-! ### Locks -/

/-- No call holds the key. -/
def Free (locks : Call → List Key) (calls : List Call) (key : Key) : Prop :=
  ∀ call ∈ calls, key ∉ locks call

instance [DecidableEq Key] (locks : Call → List Key) (calls : List Call) (key : Key) :
    Decidable (Free locks calls key) :=
  inferInstanceAs (Decidable (∀ call ∈ calls, key ∉ locks call))

/-- Two calls hold no key in common. -/
def Apart (locks : Call → List Key) (one two : Call) : Prop :=
  ∀ key ∈ locks one, key ∉ locks two

variable {locks : Call → List Key} {one two next : Call}

theorem Apart.symm (apart : Apart locks one two) : Apart locks two one :=
  fun key held also => apart key also held

/-- A call that goes on keeps its keys, or takes one that the other does not hold. -/
theorem Apart.of_taken (apart : Apart locks one two) {wanted : Option Key}
    (only : ∀ key ∈ locks next, key ∈ wanted ∨ key ∈ locks one)
    (free : ∀ key ∈ wanted, key ∉ locks two) : Apart locks next two := by
  intro key held
  rcases only key held with taken | before
  · exact free key taken
  · exact apart key before

/-- What an unblocked call takes, no other call holds. -/
theorem untaken {calls : List Call} {awaited : Option Key}
    (unblocked : ¬∃ key ∈ awaited, ¬Free locks calls key) (member : two ∈ calls) :
    ∀ key ∈ awaited, key ∉ locks two := by
  intro key isAwaited held
  apply unblocked
  refine ⟨key, isAwaited, ?_⟩
  intro isFree
  exact isFree two member held

theorem apart_of_none (none : locks one = []) : Apart locks one two := by
  intro key held
  rw [none] at held
  cases held

/-! ### What calls have under way -/

section UnderWay

variable {Amount : Type} [AddCommGroup Amount]

/-- What the calls have under way, together. -/
def underWay (amount : Call → Amount) (calls : List Call) : Amount := (calls.map amount).sum

variable {amount : Call → Amount} {calls : List Call}

theorem underWay_spawn (call : Call) :
    underWay amount (calls ++ [call]) = underWay amount calls + amount call := by
  unfold underWay
  rw [List.map_append, List.map_singleton, List.sum_append, List.sum_singleton]

/-- One call goes on. -/
theorem underWay_set (amount : Call → Amount) {position : Nat} {call : Call}
    (found : calls[position]? = some call) (next : Call) :
    underWay amount (calls.set position next) + amount call =
      underWay amount calls + amount next := by
  obtain ⟨inside, isCall⟩ := List.getElem?_eq_some_iff.mp found
  unfold underWay
  rw [List.map_set, List.sum_set', dif_pos (by rwa [List.length_map]), List.getElem_map, isCall,
    add_assoc, add_assoc, neg_add_cancel_comm_assoc]

theorem underWay_eq_zero (none : ∀ call ∈ calls, amount call = 0) : underWay amount calls = 0 := by
  unfold underWay
  apply List.sum_eq_zero
  intro due isDue
  obtain ⟨call, member, rfl⟩ := List.mem_map.mp isDue
  exact none call member

theorem underWay_nonneg [PartialOrder Amount] [IsOrderedAddMonoid Amount]
    (nonneg : ∀ call, 0 ≤ amount call) (calls : List Call) : 0 ≤ underWay amount calls := by
  unfold underWay
  apply List.sum_nonneg
  intro due isDue
  obtain ⟨call, -, rfl⟩ := List.mem_map.mp isDue
  exact nonneg call

end UnderWay

end Soulzaa.Interleaving
