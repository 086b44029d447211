/-
Runs whose events each add their worth to some counters, or add nothing.

What the counters have gained in the end tells which of the events took effect.
-/

import Mathlib.Algebra.BigOperators.Group.List.Basic
import Mathlib.Algebra.Order.Monoid.Defs
import Soulzaa.Lib.Runs

namespace Soulzaa.Counters

open Runs

variable {State Event Index Amount : Type} [AddCommMonoid Amount] [PartialOrder Amount]
  [IsOrderedCancelAddMonoid Amount]

/-- An event counts in full where it takes effect, and otherwise not at all. -/
structure Counts (step : State → Event → State) (count : State → Index → Amount)
    (takes : State → Event → Prop) (worth : Event → Index → Amount) : Prop where
  taken : ∀ state event index, takes state event →
    count (step state event) index = count state index + worth event index
  untaken : ∀ state event index, ¬takes state event →
    count (step state event) index = count state index
  nonneg : ∀ event index, 0 ≤ worth event index
  counted : ∀ event, ∃ index, 0 < worth event index

variable {step : State → Event → State} {count : State → Index → Amount}
  {takes : State → Event → Prop} {worth : Event → Index → Amount}

namespace Counts

theorem step_le (counts : Counts step count takes worth) (state : State) (event : Event)
    (index : Index) : count (step state event) index ≤ count state index + worth event index := by
  by_cases isTaken : takes state event
  · exact le_of_eq (counts.taken state event index isTaken)
  · rw [counts.untaken state event index isTaken]
    exact le_add_of_nonneg_right (counts.nonneg event index)

theorem le_step (counts : Counts step count takes worth) (state : State) (event : Event)
    (index : Index) : count state index ≤ count (step state event) index := by
  by_cases isTaken : takes state event
  · rw [counts.taken state event index isTaken]
    exact le_add_of_nonneg_right (counts.nonneg event index)
  · exact le_of_eq (counts.untaken state event index isTaken).symm

theorem run_le (counts : Counts step count takes worth) (start : State) (events : List Event)
    (index : Index) :
    count (run step start events) index ≤
      count start index + (events.map fun event => worth event index).sum := by
  induction events generalizing start with
  | nil => exact le_of_eq (add_zero _).symm
  | cons event rest ih =>
      calc count (run step (step start event) rest) index
          ≤ count (step start event) index + (rest.map fun event => worth event index).sum :=
            ih (step start event)
        _ ≤ count start index + worth event index +
              (rest.map fun event => worth event index).sum :=
            add_le_add_left (counts.step_le start event index) _
        _ = _ := by rw [List.map_cons, List.sum_cons, add_assoc]

theorem le_run (counts : Counts step count takes worth) (start : State) (events : List Event)
    (index : Index) : count start index ≤ count (run step start events) index := by
  induction events generalizing start with
  | nil => exact le_refl _
  | cons event rest ih => exact (counts.le_step start event index).trans (ih (step start event))

/-- The counters show the worth of every event where every event took effect. -/
theorem all_iff (counts : Counts step count takes worth) (start : State) (events : List Event) :
    (∀ index, count (run step start events) index =
        count start index + (events.map fun event => worth event index).sum) ↔
      Each step takes start events := by
  induction events generalizing start with
  | nil => exact ⟨fun _ => trivial, fun _ index => (add_zero _).symm⟩
  | cons event rest ih =>
      simp only [List.map_cons, List.sum_cons]
      constructor
      · intro all
        have isTaken : takes start event := by
          by_contra untaken
          obtain ⟨index, positive⟩ := counts.counted event
          have most := counts.run_le (step start event) rest index
          rw [counts.untaken start event index untaken] at most
          have atOwn : count (run step (step start event) rest) index = _ := all index
          rw [atOwn, ← add_assoc, add_le_add_iff_right, add_le_iff_nonpos_right] at most
          exact not_lt_of_ge most positive
        refine ⟨isTaken, (ih (step start event)).mp fun index => ?_⟩
        rw [counts.taken start event index isTaken, add_assoc]
        exact all index
      · rintro ⟨isTaken, others⟩ index
        rw [← add_assoc, ← counts.taken start event index isTaken]
        exact (ih (step start event)).mpr others index

/-- No event took effect where the counters still show what they did. -/
theorem none_of_same (counts : Counts step count takes worth) {start : State}
    {events : List Event} (same : ∀ index, count (run step start events) index =
      count start index) : Each step (fun state event => ¬takes state event) start events := by
  induction events generalizing start with
  | nil => exact trivial
  | cons event rest ih =>
      have untaken : ¬takes start event := by
        intro isTaken
        obtain ⟨index, positive⟩ := counts.counted event
        have least := counts.le_run (step start event) rest index
        have atOwn : count (run step (step start event) rest) index = _ := same index
        rw [counts.taken start event index isTaken, atOwn, add_le_iff_nonpos_right] at least
        exact not_lt_of_ge least positive
      refine ⟨untaken, ih fun index => ?_⟩
      rw [counts.untaken start event index untaken]
      exact same index

end Counts

end Soulzaa.Counters
