/-
Values of a counter that runs out and starts again, handed to calls that run side by side.

Each time the counter starts again is a life of its own.  No value of a life is handed out twice,
so that a bound on the values bounds how many calls of a life go through.
-/

import Mathlib.Algebra.Order.Ring.Int
import Mathlib.Data.List.Nodup
import Mathlib.Data.List.Perm.Subperm
import Soulzaa.Lib.Interleaving

namespace Soulzaa.Tickets

structure Ticket where
  life : Nat
  value : Nat
  deriving DecidableEq, Repr

/-- The next value: of the counter that there is, or the first of a fresh life. -/
def draw (fresh : Nat) : Option Ticket → Ticket
  | none => { life := fresh, value := 1 }
  | some current => { current with value := current.value + 1 }

variable {Task : Type} {holds : Task → Option Ticket} {current : Option Ticket} {fresh : Nat}
  {tasks : List Task} {spent : List Ticket} {position : Nat} {task next : Task}

/-- Handed out before the counter's next value. -/
def Past (current : Option Ticket) (fresh : Nat) (ticket : Ticket) : Prop :=
  ticket.life < fresh ∧ 1 ≤ ticket.value ∧
    ∀ last ∈ current, ticket.life = last.life → ticket.value ≤ last.value

def held (holds : Task → Option Ticket) (ticket : Ticket) (task : Task) : Int :=
  if holds task = some ticket then 1 else 0

theorem held_nonneg (holds : Task → Option Ticket) (ticket : Ticket) (task : Task) :
    0 ≤ held holds ticket task := by
  unfold held
  split
  · exact Int.one_nonneg
  · exact le_refl 0

theorem held_none {ticket : Ticket} (none : holds task = none) : held holds ticket task = 0 :=
  if_neg (by rw [none]; exact nofun)

/-- Each value is held by one task, or was spent once. -/
structure Handed (holds : Task → Option Ticket) (current : Option Ticket) (fresh : Nat)
    (tasks : List Task) (spent : List Ticket) : Prop where
  counter : ∀ last ∈ current, Past current fresh last
  taken : ∀ task ∈ tasks, ∀ ticket, holds task = some ticket → Past current fresh ticket
  used : ∀ ticket ∈ spent, Past current fresh ticket
  once : ∀ ticket, (spent.count ticket : Int) +
    Interleaving.underWay (held holds ticket) tasks ≤ 1

theorem handed_nil (holds : Task → Option Ticket) (fresh : Nat) : Handed holds none fresh [] [] where
  counter := fun _ isLast => nomatch isLast
  taken := List.forall_mem_nil _
  used := List.forall_mem_nil _
  once := fun _ => Int.one_nonneg

namespace Handed

theorem spawn (handed : Handed holds current fresh tasks spent) (none : holds task = none) :
    Handed holds current fresh (tasks ++ [task]) spent where
  counter := handed.counter
  taken := by
    intro other member ticket isHeld
    rcases List.mem_append.mp member with older | isNew
    · exact handed.taken other older ticket isHeld
    · rw [List.mem_singleton.mp isNew, none] at isHeld
      cases isHeld
  used := handed.used
  once := by
    intro ticket
    rw [Interleaving.underWay_spawn, held_none none, add_zero]
    exact handed.once ticket

/-- A task goes on, with its ticket or without. -/
theorem goOn (handed : Handed holds current fresh tasks spent)
    (found : tasks[position]? = some task)
    (only : ∀ ticket, holds next = some ticket → holds task = some ticket) :
    Handed holds current fresh (tasks.set position next) spent where
  counter := handed.counter
  taken := by
    intro other member ticket isHeld
    rcases List.mem_or_eq_of_mem_set member with older | rfl
    · exact handed.taken other older ticket isHeld
    · exact handed.taken task (List.mem_of_getElem? found) ticket (only ticket isHeld)
  used := handed.used
  once := by
    intro ticket
    have moved := Interleaving.underWay_set (held holds ticket) found next
    have once := handed.once ticket
    have less : held holds ticket next ≤ held holds ticket task := by
      unfold held
      split
      · rename_i isHeld
        rw [if_pos (only ticket isHeld)]
      · split
        · exact Int.one_nonneg
        · exact le_refl 0
    omega

/-- A task draws the next value, where the counter may have run out. -/
theorem drawn (handed : Handed holds current fresh tasks spent) {left : Option Ticket}
    (found : tasks[position]? = some task) (isLeft : left = none ∨ left = current)
    (empty : holds task = none) (isNext : holds next = some (draw fresh left)) :
    Handed holds (some (draw fresh left)) (fresh + 1) (tasks.set position next) spent := by
  have unused : ∀ ticket, Past current fresh ticket → ticket ≠ draw fresh left ∧
      Past (some (draw fresh left)) (fresh + 1) ticket := by
    rintro ticket ⟨before, positive, below⟩
    cases left with
    | none =>
        refine ⟨?_, Nat.lt_succ_of_lt before, positive, ?_⟩
        · rintro rfl
          exact Nat.lt_irrefl fresh before
        · intro last isLast same
          obtain rfl := Option.some.inj isLast
          exact absurd before (same.symm ▸ Nat.lt_irrefl fresh)
    | some last =>
        have isCurrent : current = some last := by
          rcases isLeft with isNone | isSame
          · cases isNone
          · exact isSame.symm
        refine ⟨?_, Nat.lt_succ_of_lt before, positive, ?_⟩
        · rintro rfl
          exact Nat.not_succ_le_self last.value (below last isCurrent rfl)
        · intro other isOther same
          obtain rfl := Option.some.inj isOther
          exact Nat.le_succ_of_le (below last isCurrent same)
  have itself : Past (some (draw fresh left)) (fresh + 1) (draw fresh left) := by
    refine ⟨?_, ?_, ?_⟩
    · cases left with
      | none => exact Nat.lt_succ_self fresh
      | some last =>
          have isCurrent : current = some last := by
            rcases isLeft with isNone | isSame
            · cases isNone
            · exact isSame.symm
          exact Nat.lt_succ_of_lt (handed.counter last isCurrent).1
    · cases left with
      | none => exact le_refl 1
      | some last => exact Nat.succ_pos last.value
    · intro last isLast _
      rw [Option.some.inj isLast]
  refine ⟨?_, ?_, ?_, ?_⟩
  · intro last isLast
    rw [← Option.some.inj isLast]
    exact itself
  · intro other member ticket isHeld
    rcases List.mem_or_eq_of_mem_set member with older | rfl
    · exact (unused ticket (handed.taken other older ticket isHeld)).2
    · rw [isNext] at isHeld
      rw [← Option.some.inj isHeld]
      exact itself
  · exact fun ticket member => (unused ticket (handed.used ticket member)).2
  · intro ticket
    have moved := Interleaving.underWay_set (held holds ticket) found next
    have once := handed.once ticket
    rw [held_none empty] at moved
    by_cases own : ticket = draw fresh left
    · subst own
      have unspent : spent.count (draw fresh left) = 0 :=
        List.count_eq_zero.mpr fun member => (unused _ (handed.used _ member)).1 rfl
      have unheld : Interleaving.underWay (held holds (draw fresh left)) tasks = 0 :=
        Interleaving.underWay_eq_zero fun other member => if_neg fun isHeld =>
          (unused _ (handed.taken other member _ isHeld)).1 rfl
      have one : held holds (draw fresh left) next = 1 := if_pos isNext
      omega
    · have zero : held holds ticket next = 0 := by
        refine if_neg fun isHeld => own ?_
        rw [isNext] at isHeld
        exact (Option.some.inj isHeld).symm
      omega

/-- A task's ticket is spent. -/
theorem spend (handed : Handed holds current fresh tasks spent) {ticket : Ticket}
    (found : tasks[position]? = some task) (isHeld : holds task = some ticket)
    (empty : holds next = none) :
    Handed holds current fresh (tasks.set position next) (ticket :: spent) where
  counter := handed.counter
  taken := by
    intro other member drawn isDrawn
    rcases List.mem_or_eq_of_mem_set member with older | rfl
    · exact handed.taken other older drawn isDrawn
    · exact nomatch empty.symm.trans isDrawn
  used := List.forall_mem_cons.mpr
    ⟨handed.taken task (List.mem_of_getElem? found) ticket isHeld, handed.used⟩
  once := by
    intro other
    have moved := Interleaving.underWay_set (held holds other) found next
    have once := handed.once other
    rw [held_none empty] at moved
    rw [List.count_cons]
    by_cases own : ticket = other
    · have one : held holds other task = 1 := if_pos (by rw [isHeld, own])
      rw [if_pos (beq_iff_eq.mpr own)]
      push_cast
      omega
    · have nonneg := held_nonneg holds other task
      rw [if_neg fun same => own (beq_iff_eq.mp same)]
      push_cast
      omega

/-- The counter runs out, or stays as it is. -/
theorem lapse (handed : Handed holds current fresh tasks spent) {left : Option Ticket}
    (isLeft : left = none ∨ left = current) : Handed holds left fresh tasks spent := by
  rcases isLeft with rfl | rfl
  · have nothing : ∀ ticket, Past current fresh ticket → Past none fresh ticket :=
      fun _ past => ⟨past.1, past.2.1, fun _ isLast => nomatch isLast⟩
    exact
      { counter := fun _ isLast => nomatch isLast
        taken := fun task member ticket isHeld =>
          nothing ticket (handed.taken task member ticket isHeld)
        used := fun ticket member => nothing ticket (handed.used ticket member)
        once := handed.once }
  · exact handed

/-- What was spent of one life is no more than the greatest value that may be. -/
theorem length_le (handed : Handed holds current fresh tasks spent) {limit : Nat}
    (allowed : ∀ ticket ∈ spent, ticket.value ≤ limit) (life : Nat) :
    (spent.filter fun ticket => ticket.life = life).length ≤ limit := by
  have distinct : spent.Nodup := by
    refine List.nodup_iff_count_le_one.mpr fun ticket => ?_
    have nonneg := Interleaving.underWay_nonneg (held_nonneg holds ticket) tasks
    have once := handed.once ticket
    omega
  have values : ((spent.filter fun ticket => ticket.life = life).map Ticket.value).Nodup := by
    refine List.Nodup.map_on ?_ (distinct.filter _)
    intro one inOne two inTwo same
    have lifeOne := of_decide_eq_true (List.mem_filter.mp inOne).2
    have lifeTwo := of_decide_eq_true (List.mem_filter.mp inTwo).2
    obtain ⟨firstLife, firstValue⟩ := one
    obtain ⟨secondLife, secondValue⟩ := two
    obtain rfl : firstLife = secondLife := Eq.trans lifeOne (Eq.symm lifeTwo)
    obtain rfl : firstValue = secondValue := same
    rfl
  have within : (spent.filter fun ticket => ticket.life = life).map Ticket.value ⊆
      List.range' 1 limit := by
    intro value member
    obtain ⟨ticket, isTicket, rfl⟩ := List.mem_map.mp member
    have isSpent := (List.mem_filter.mp isTicket).1
    have positive := (handed.used ticket isSpent).2.1
    have below := allowed ticket isSpent
    rw [List.mem_range'_1]
    omega
  have bounded := (List.subperm_of_subset values within).length_le
  rwa [List.length_map, List.length_range'] at bounded

end Handed

end Soulzaa.Tickets
