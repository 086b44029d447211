/-
Turn rotation over a list of distinct seats.

The successor of a seat is the one after it, the first after the last; a holder
that is not seated is followed by the first seat.
-/

import Mathlib.Data.List.Nodup

namespace Soulzaa.Rotation

variable {Seat : Type}

/-- The seat after `position`; `none` stands before the first one. -/
def after (seats : List Seat) (position : Option Nat) : Option Seat :=
  seats[(position.elim 0 fun index => index + 1) % seats.length]?

theorem after_mem {seats : List Seat} {position : Option Nat} {next : Seat}
    (follows : after seats position = some next) : next ∈ seats :=
  List.mem_of_getElem? follows

theorem after_eq_none_iff (seats : List Seat) (position : Option Nat) :
    after seats position = none ↔ seats = [] := by
  unfold after
  rw [List.getElem?_eq_none_iff]
  constructor
  · intro outside
    by_contra seated
    have positive := List.length_pos_iff.mpr seated
    have inside := Nat.mod_lt (position.elim 0 fun index => index + 1) positive
    omega
  · intro empty
    rw [empty]
    exact Nat.zero_le _

/-- With two seats or more nobody follows themselves. -/
theorem after_ne_self {seats : List Seat} (distinct : seats.Nodup) {index : Nat} {holder : Seat}
    (seated : seats[index]? = some holder) (company : 1 < seats.length) :
    after seats (some index) ≠ some holder := by
  intro follows
  obtain ⟨inside, atIndex⟩ := List.getElem?_eq_some_iff.mp seated
  obtain ⟨nextInside, atNext⟩ := List.getElem?_eq_some_iff.mp follows
  have same := (List.Nodup.getElem_inj_iff distinct).mp (atNext.trans atIndex.symm)
  change (index + 1) % seats.length = index at same
  rcases Nat.lt_or_ge (index + 1) seats.length with within | past
  · rw [Nat.mod_eq_of_lt within] at same
    omega
  · have last : index + 1 = seats.length := by omega
    rw [last, Nat.mod_self] at same
    omega

theorem getElem?_of_idxOf? [DecidableEq Seat] {seats : List Seat} {holder : Seat} {index : Nat}
    (found : seats.idxOf? holder = some index) : seats[index]? = some holder := by
  obtain ⟨inside, isHolder, _⟩ := List.idxOf?_eq_some_iff.mp found
  rw [List.getElem?_eq_getElem inside, isHolder]

end Soulzaa.Rotation
