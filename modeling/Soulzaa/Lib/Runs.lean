/-
Runs of a deterministic step function over lists of events.

`Always` speaks of every state a run passes through and `Each` of every event
together with the state it fires in.  The exact-condition rule relates the two:
a property that a permitted event preserves and every other event destroys
holds throughout a run exactly when every event of the run was permitted.
-/

import Mathlib.Data.List.Basic

namespace Soulzaa.Runs

variable {State Event : Type}

def run (step : State → Event → State) (start : State) (events : List Event) : State :=
  events.foldl step start

/-- The predicate holds at the start and after each event. -/
def Always (step : State → Event → State) (holds : State → Prop) :
    State → List Event → Prop
  | state, [] => holds state
  | state, event :: rest =>
      holds state ∧ Always step holds (step state event) rest

/-- Every event fires in a state that permits it. -/
def Each (step : State → Event → State) (permits : State → Event → Prop) :
    State → List Event → Prop
  | _, [] => True
  | state, event :: rest =>
      permits state event ∧ Each step permits (step state event) rest

instance Each.decidable (step : State → Event → State) (permits : State → Event → Prop)
    [∀ state event, Decidable (permits state event)] :
    (start : State) → (events : List Event) → Decidable (Each step permits start events)
  | _, [] => inferInstanceAs (Decidable True)
  | start, event :: rest =>
      have := Each.decidable step permits (step start event) rest
      inferInstanceAs (Decidable (permits start event ∧ _))

variable {step : State → Event → State} {holds : State → Prop}
  {permits : State → Event → Prop}

/-- `Always` is the statement about every prefix of the run. -/
theorem always_iff_front (start : State) (events : List Event) :
    Always step holds start events ↔
      ∀ front, front <+: events → holds (run step start front) := by
  induction events generalizing start with
  | nil =>
      constructor
      · intro atStart front isPrefix
        rw [List.prefix_nil.mp isPrefix]
        exact atStart
      · intro everywhere
        exact everywhere [] List.nil_prefix
  | cons event rest ih =>
      constructor
      · rintro ⟨atStart, later⟩ front isPrefix
        cases front with
        | nil => exact atStart
        | cons first others =>
            obtain ⟨rfl, inRest⟩ := List.cons_prefix_cons.mp isPrefix
            exact (ih (step start first)).mp later others inRest
      · intro everywhere
        refine ⟨everywhere [] List.nil_prefix, (ih (step start event)).mpr ?_⟩
        intro front isPrefix
        exact everywhere (event :: front)
          (List.cons_prefix_cons.mpr ⟨rfl, isPrefix⟩)

theorem Always.final {start : State} {events : List Event}
    (always : Always step holds start events) : holds (run step start events) :=
  (always_iff_front start events).mp always events (List.prefix_refl events)

theorem always_of_step (kept : ∀ state event, holds state → holds (step state event))
    (start : State) (initial : holds start) (events : List Event) :
    Always step holds start events := by
  induction events generalizing start with
  | nil => exact initial
  | cons event rest ih =>
      exact ⟨initial, ih (step start event) (kept start event initial)⟩

theorem always_of_each
    (preserved : ∀ state event, holds state → permits state event → holds (step state event))
    (start : State) (atStart : holds start) (events : List Event)
    (permitted : Each step permits start events) : Always step holds start events := by
  induction events generalizing start with
  | nil => exact atStart
  | cons event rest ih =>
      exact ⟨atStart, ih (step start event) (preserved start event atStart permitted.1)
        permitted.2⟩

theorem each_of_forall_mem {events : List Event}
    (all : ∀ event ∈ events, ∀ state, permits state event) (start : State) :
    Each step permits start events := by
  induction events generalizing start with
  | nil => exact trivial
  | cons event rest ih =>
      refine ⟨all event List.mem_cons_self start, ih ?_ (step start event)⟩
      intro other member
      exact all other (List.mem_cons_of_mem event member)

theorem run_append (start : State) (front back : List Event) :
    run step start (front ++ back) = run step (run step start front) back := List.foldl_append

theorem each_append {start : State} {front back : List Event} :
    Each step permits start (front ++ back) ↔
      Each step permits start front ∧ Each step permits (run step start front) back := by
  induction front generalizing start with
  | nil => exact (iff_of_eq (true_and _)).symm
  | cons first others ih => exact (and_congr_right fun _ => ih).trans and_assoc.symm

theorem Each.last {start : State} {front : List Event} {event : Event}
    (each : Each step permits start (front ++ [event])) :
    permits (run step start front) event :=
  (each_append.mp each).2.1

theorem Each.and {other : State → Event → Prop} {start : State} {events : List Event}
    (each : Each step permits start events) (also : Each step other start events) :
    Each step (fun state event => permits state event ∧ other state event) start events := by
  induction events generalizing start with
  | nil => exact trivial
  | cons event rest ih => exact ⟨⟨each.1, also.1⟩, ih each.2 also.2⟩

/-- What an invariant and the permission of an event together give of the event. -/
theorem each_of_each {invariant : State → Prop} {clean : State → Event → Prop}
    (preserved : ∀ state event, invariant state → permits state event →
      invariant (step state event))
    (gives : ∀ state event, invariant state → permits state event → clean state event)
    (start : State) (atStart : invariant start) (events : List Event)
    (permitted : Each step permits start events) : Each step clean start events := by
  induction events generalizing start with
  | nil => exact trivial
  | cons event rest ih =>
      exact ⟨gives start event atStart permitted.1,
        ih (step start event) (preserved start event atStart permitted.1) permitted.2⟩

theorem Always.imp {weaker : State → Prop} (implies : ∀ state, holds state → weaker state)
    {start : State} {events : List Event} (always : Always step holds start events) :
    Always step weaker start events := by
  induction events generalizing start with
  | nil => exact implies start always
  | cons event rest ih => exact ⟨implies start always.1, ih always.2⟩

/-- The exact-condition rule.  The invariant may be used to show that an event
keeps the property exactly when it is permitted; it has to survive permitted
events only. -/
theorem always_iff_each (invariant : State → Prop)
    (kept : ∀ state event, invariant state → holds state → permits state event →
      invariant (step state event))
    (exactly : ∀ state event, invariant state → holds state →
      (holds (step state event) ↔ permits state event))
    (start : State) (initial : invariant start) (atStart : holds start)
    (events : List Event) :
    Always step holds start events ↔ Each step permits start events := by
  induction events generalizing start with
  | nil => exact ⟨fun _ => trivial, fun _ => atStart⟩
  | cons event rest ih =>
      have next := exactly start event initial atStart
      constructor
      · rintro ⟨_, later⟩
        -- The next state is a state of the run, whether or not the run goes on.
        have nextHolds : holds (step start event) := by
          cases rest with
          | nil => exact later
          | cons second others => exact later.1
        have permitted := next.mp nextHolds
        have nextInvariant := kept start event initial atStart permitted
        exact ⟨permitted, (ih (step start event) nextInvariant nextHolds).mp later⟩
      · rintro ⟨permitted, later⟩
        have nextHolds := next.mpr permitted
        have nextInvariant := kept start event initial atStart permitted
        exact ⟨atStart, (ih (step start event) nextInvariant nextHolds).mpr later⟩

/-- Where an event that is not permitted spoils the state for good, the last state tells whether
every event was permitted. -/
theorem final_iff_each {spoiled : State → Prop}
    (kept : ∀ state event, holds state → permits state event → holds (step state event))
    (spoils : ∀ state event, holds state → ¬permits state event → spoiled (step state event))
    (stays : ∀ state event, spoiled state → spoiled (step state event))
    (apart : ∀ state, spoiled state → ¬holds state)
    (start : State) (atStart : holds start) (events : List Event) :
    holds (run step start events) ↔ Each step permits start events := by
  have lost : ∀ (rest : List Event) (state : State), spoiled state →
      spoiled (run step state rest) := by
    intro rest
    induction rest with
    | nil => exact fun _ isSpoiled => isSpoiled
    | cons event others ih => exact fun state isSpoiled => ih _ (stays state event isSpoiled)
  induction events generalizing start with
  | nil => exact ⟨fun _ => trivial, fun _ => atStart⟩
  | cons event rest ih =>
      by_cases permitted : permits start event
      · exact (ih (step start event) (kept start event atStart permitted)).trans
          (and_iff_right permitted).symm
      · constructor
        · intro atEnd
          exact absurd atEnd (apart _ (lost rest _ (spoils start event atStart permitted)))
        · exact fun each => absurd each.1 permitted

theorem each_congr {other : State → Event → Prop}
    (agree : ∀ state event, permits state event ↔ other state event)
    (start : State) (events : List Event) :
    Each step permits start events ↔ Each step other start events := by
  induction events generalizing start with
  | nil => exact Iff.rfl
  | cons event rest ih => exact and_congr (agree start event) (ih (step start event))

end Soulzaa.Runs
