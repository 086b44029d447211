/-
Books kept by postings, over any accounts and any additive group of amounts.

Books balance against a journal when every account holds the net of its
postings.  A statement is the other view of a journal: each row carries the
balance before and after it, and the rows of one account form a chain.
-/

import Mathlib.Algebra.BigOperators.Group.Finset.Piecewise
import Mathlib.Algebra.BigOperators.Group.List.Basic
import Mathlib.Algebra.Group.Basic
import Mathlib.Algebra.Order.BigOperators.Group.Finset

namespace Soulzaa.Bookkeeping

variable {Account Amount Row : Type}

structure Posting (Account Amount : Type) where
  account : Account
  amount : Amount

section Net

variable [DecidableEq Account] [AddCommGroup Amount]

def net (journal : List (Posting Account Amount)) (account : Account) : Amount :=
  ((journal.filter fun posting => posting.account = account).map Posting.amount).sum

def BooksBalance (books : Account → Amount) (journal : List (Posting Account Amount)) : Prop :=
  ∀ account, books account = net journal account

@[simp] theorem net_nil (account : Account) :
    net ([] : List (Posting Account Amount)) account = 0 := rfl

theorem net_append (front back : List (Posting Account Amount)) (account : Account) :
    net (front ++ back) account = net front account + net back account := by
  unfold net
  rw [List.filter_append, List.map_append, List.sum_append]

theorem net_cons (posting : Posting Account Amount)
    (rest : List (Posting Account Amount)) (account : Account) :
    net (posting :: rest) account =
      (if posting.account = account then posting.amount else 0) + net rest account := by
  unfold net
  by_cases same : posting.account = account
  · rw [List.filter_cons_of_pos (by simpa using same), if_pos same, List.map_cons,
      List.sum_cons]
  · rw [List.filter_cons_of_neg (by simpa using same), if_neg same, zero_add]

/-- After more postings the books balance exactly when every account moved by
the net of the new postings. -/
theorem BooksBalance.append_iff {books later : Account → Amount}
    {journal : List (Posting Account Amount)} (balanced : BooksBalance books journal)
    (added : List (Posting Account Amount)) :
    BooksBalance later (journal ++ added) ↔
      ∀ account, later account = books account + net added account := by
  unfold BooksBalance
  simp only [net_append, ← balanced _]

/-- The postings to the selected accounts amount to what these accounts hold. -/
theorem sum_selected_eq_sum_net (selects : Account → Bool) {accounts : Finset Account}
    {journal : List (Posting Account Amount)}
    (covers : ∀ posting ∈ journal, posting.account ∈ accounts) :
    ((journal.filter fun posting => selects posting.account).map Posting.amount).sum =
      (accounts.filter fun account => selects account = true).sum (net journal) := by
  induction journal with
  | nil => exact (Finset.sum_const_zero).symm
  | cons first rest ih =>
      have restCovers : ∀ posting ∈ rest, posting.account ∈ accounts :=
        fun posting member => covers posting (List.mem_cons_of_mem first member)
      have inside := covers first List.mem_cons_self
      have split : ∀ account, net (first :: rest) account =
          (if first.account = account then first.amount else 0) + net rest account :=
        net_cons first rest
      rw [Finset.sum_congr rfl fun account _ => split account, Finset.sum_add_distrib,
        Finset.sum_ite_eq, ← ih restCovers]
      rw [List.filter_cons]
      by_cases selected : selects first.account = true
      · rw [if_pos selected, List.map_cons, List.sum_cons,
          if_pos (Finset.mem_filter.mpr ⟨inside, selected⟩)]
      · have outside : first.account ∉ accounts.filter fun account => selects account = true :=
          fun member => selected (Finset.mem_filter.mp member).2
        rw [if_neg selected, if_neg outside, zero_add]

/-- Where no selected account is overdrawn, the postings to them are not negative in sum. -/
theorem sum_selected_nonneg [PartialOrder Amount] [IsOrderedAddMonoid Amount]
    (selects : Account → Bool) {journal : List (Posting Account Amount)}
    (covered : ∀ account, selects account = true → 0 ≤ net journal account) :
    0 ≤ ((journal.filter fun posting => selects posting.account).map Posting.amount).sum := by
  have covers : ∀ posting ∈ journal,
      posting.account ∈ (journal.map Posting.account).toFinset := by
    intro posting member
    exact List.mem_toFinset.mpr (List.mem_map_of_mem member)
  rw [sum_selected_eq_sum_net selects covers]
  apply Finset.sum_nonneg
  intro account member
  exact covered account (Finset.mem_filter.mp member).2

end Net

section Statement

variable (before after : Row → Amount)

/-- The rows form a chain: each starts from the balance the previous one left,
the first from `start`. -/
def Linked : Amount → List Row → Prop
  | _, [] => True
  | start, row :: rest => before row = start ∧ Linked (after row) rest

def endsAt (start : Amount) (rows : List Row) : Amount :=
  rows.foldl (fun _ row => after row) start

variable {before after}

@[simp] theorem endsAt_nil (start : Amount) : endsAt after start ([] : List Row) = start := rfl

@[simp] theorem endsAt_cons (start : Amount) (row : Row) (rest : List Row) :
    endsAt after start (row :: rest) = endsAt after (after row) rest := rfl

theorem endsAt_append (start : Amount) (front back : List Row) :
    endsAt after start (front ++ back) = endsAt after (endsAt after start front) back := by
  exact List.foldl_append

theorem linked_append (start : Amount) (front back : List Row) :
    Linked before after start (front ++ back) ↔
      Linked before after start front ∧
        Linked before after (endsAt after start front) back := by
  induction front generalizing start with
  | nil =>
      simp only [List.nil_append, Linked, endsAt_nil, true_and]
  | cons row rest ih =>
      simp only [List.cons_append, Linked, endsAt_cons, ih (after row), and_assoc]

/-- Neighbouring rows of a chain agree on the balance between them. -/
theorem Linked.isChain {start : Amount} {rows : List Row}
    (linked : Linked before after start rows) :
    rows.IsChain fun earlier later => before later = after earlier := by
  induction rows generalizing start with
  | nil => exact List.IsChain.nil
  | cons row rest ih =>
      cases rest with
      | nil => exact List.IsChain.singleton row
      | cons next others =>
          exact List.IsChain.cons_cons linked.2.1 (ih linked.2)

end Statement

end Soulzaa.Bookkeeping
