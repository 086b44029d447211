/-
Reachability over a list of edges, as two loops compute it.

`explore` follows the edges down from a queue, and `climb` passes over all of them until a pass
adds nothing.  Both answer `none` when they run out of rounds, so that their termination on
any graph is a theorem about the rounds they need.
-/

import Mathlib.Logic.Relation
import Mathlib.Data.List.Basic

namespace Soulzaa.Reachability

open Relation (ReflTransGen)

/-! ### Paths that miss a node -/

/-- A path survives a change of the edges out of one node that it does not lead to. -/
theorem path_of_avoids {Node : Type} {old new : Node → Node → Prop} {changed start finish : Node}
    (kept : ∀ source target, source ≠ changed → old source target → new source target)
    (avoids : ¬ReflTransGen new start changed) (path : ReflTransGen old start finish) :
    ReflTransGen new start finish := by
  induction path with
  | refl => exact .refl
  | @tail middle next _ edge ih =>
      have isOther : middle ≠ changed := fun isChanged => avoids (isChanged ▸ ih)
      exact ih.tail (kept middle next isOther edge)

theorem path_iff_of_avoids {Node : Type} {old new : Node → Node → Prop}
    {changed start finish : Node}
    (kept : ∀ source target, source ≠ changed → (old source target ↔ new source target))
    (avoids : ¬ReflTransGen new start changed) :
    ReflTransGen old start finish ↔ ReflTransGen new start finish := by
  have forward := fun source target isOther => (kept source target isOther).mp
  have back := fun source target isOther => (kept source target isOther).mpr
  have oldAvoids : ¬ReflTransGen old start changed := fun path =>
    avoids (path_of_avoids forward avoids path)
  exact ⟨path_of_avoids forward avoids, path_of_avoids back oldAvoids⟩

theorem mem_keys_append {Node Item : Type} {key : Item → Node} {left right : List Item}
    {node : Node} :
    node ∈ (left ++ right).map key ↔ node ∈ left.map key ∨ node ∈ right.map key := by
  rw [List.map_append, List.mem_append]

variable {Node Item : Type} [DecidableEq Node] {key : Item → Node}

/-! ### Down from a queue -/

section Explore

def children (edges : List (Node × Item)) (node : Node) : List Item :=
  (edges.filter fun edge => edge.1 = node).map Prod.snd

def explore (key : Item → Node) (edges : List (Node × Item)) :
    Nat → List Item → List Item → Option (List Item)
  | _, [], seen => some seen
  | 0, _ :: _, _ => none
  | rounds + 1, item :: queue, seen =>
      if key item ∈ seen.map key then explore key edges rounds queue seen
      else
        let seen := seen ++ [item]
        explore key edges rounds
          (queue ++ (children edges (key item)).filter fun child => key child ∉ seen.map key) seen

/-- An edge, by the key of the item it leads to. -/
def Leads (key : Item → Node) (edges : List (Node × Item)) (source target : Node) : Prop :=
  ∃ item, (source, item) ∈ edges ∧ key item = target

variable {edges : List (Node × Item)}

theorem mem_children {node : Node} {item : Item} :
    item ∈ children edges node ↔ (node, item) ∈ edges := by
  unfold children
  rw [List.mem_map]
  constructor
  · rintro ⟨⟨source, target⟩, member, rfl⟩
    obtain ⟨inEdges, isSource⟩ := List.mem_filter.mp member
    rw [← of_decide_eq_true isSource]
    exact inEdges
  · intro inEdges
    exact ⟨(node, item), List.mem_filter.mpr ⟨inEdges, decide_eq_true rfl⟩, rfl⟩

/-- The edges whose source has not been expanded yet. -/
def unexpanded (key : Item → Node) (edges : List (Node × Item)) (seen : List Item) :
    List (Node × Item) :=
  edges.filter fun edge => edge.1 ∉ seen.map key

theorem length_unexpanded_concat {seen : List Item} {item : Item}
    (unseen : key item ∉ seen.map key) :
    (unexpanded key edges (seen ++ [item])).length + (children edges (key item)).length =
      (unexpanded key edges seen).length := by
  unfold unexpanded children
  induction edges with
  | nil => rfl
  | cons edge rest ih =>
      by_cases isItem : edge.1 = key item
      · have unseenEdge : edge.1 ∉ seen.map key := isItem ▸ unseen
        rw [List.length_map] at ih ⊢
        simp only [List.filter_cons, isItem, unseen, List.map_append, List.map_cons, List.map_nil,
          List.mem_append, List.mem_singleton, or_true, not_true_eq_false, decide_false,
          decide_true, not_false_eq_true, if_true, Bool.false_eq_true, if_false,
          List.length_cons] at ih ⊢
        omega
      · by_cases seenEdge : edge.1 ∈ seen.map key
        · simp only [List.filter_cons, isItem, seenEdge, List.map_append, List.map_cons,
            List.map_nil, List.mem_append, List.mem_singleton, or_false, not_true_eq_false,
            decide_false, Bool.false_eq_true, if_false] at ih ⊢
          exact ih
        · simp only [List.filter_cons, isItem, seenEdge, List.map_append, List.map_cons,
            List.map_nil, List.mem_append, List.mem_singleton, or_false, not_false_eq_true,
            decide_false, decide_true, if_true, Bool.false_eq_true, if_false,
            List.length_cons] at ih ⊢
          omega

/-- Every edge is queued once at most, and every queued item takes one round. -/
theorem explore_returns {rounds : Nat} {queue seen : List Item}
    (enough : queue.length + (unexpanded key edges seen).length ≤ rounds) :
    ∃ result, explore key edges rounds queue seen = some result := by
  fun_induction explore key edges rounds queue seen with
  | case1 rounds seen => exact ⟨seen, rfl⟩
  | case2 seen item queue =>
      rw [List.length_cons] at enough
      omega
  | case3 rounds item queue seen already ih =>
      rw [List.length_cons] at enough
      exact ih (by omega)
  | case4 rounds item queue seen unseen expanded ih =>
      apply ih
      have counted : (unexpanded key edges expanded).length + (children edges (key item)).length =
          (unexpanded key edges seen).length := length_unexpanded_concat unseen
      have queued := List.length_filter_le (fun child => decide (key child ∉ expanded.map key))
        (children edges (key item))
      rw [List.length_cons] at enough
      rw [List.length_append]
      omega

theorem explore_starts_returns (key : Item → Node) (edges : List (Node × Item))
    (starts : List Item) :
    ∃ result, explore key edges (starts.length + edges.length) starts [] = some result := by
  apply explore_returns
  have all := List.length_filter_le (fun edge => decide (edge.1 ∉ ([] : List Item).map key)) edges
  exact Nat.add_le_add_left all _

/-- What the edges pass on holds of everything that is found. -/
theorem explore_forall {holds : Item → Prop}
    (passed : ∀ item child, holds item → (key item, child) ∈ edges → holds child)
    {rounds : Nat} {queue seen result : List Item} (onQueue : ∀ item ∈ queue, holds item)
    (onSeen : ∀ item ∈ seen, holds item)
    (explored : explore key edges rounds queue seen = some result) :
    ∀ item ∈ result, holds item := by
  fun_induction explore key edges rounds queue seen with
  | case1 rounds seen =>
      cases explored
      exact onSeen
  | case2 seen item queue => cases explored
  | case3 rounds item queue seen already ih =>
      exact ih (fun other member => onQueue other (List.mem_cons_of_mem item member)) onSeen
        explored
  | case4 rounds item queue seen unseen expanded ih =>
      have onItem := onQueue item List.mem_cons_self
      refine ih ?_ ?_ explored
      · intro other member
        rcases List.mem_append.mp member with queued | new
        · exact onQueue other (List.mem_cons_of_mem item queued)
        · exact passed item other onItem (mem_children.mp (List.mem_filter.mp new).1)
      · intro other member
        rcases List.mem_append.mp member with old | new
        · exact onSeen other old
        · rw [List.mem_singleton.mp new]
          exact onItem

/-- Nothing is lost on the way: what has been expanded leads to what is seen or queued. -/
theorem explore_closed {rounds : Nat} {queue seen result : List Item}
    (explored : explore key edges rounds queue seen = some result)
    (closed : ∀ node ∈ seen.map key, ∀ target, Leads key edges node target →
      target ∈ seen.map key ∨ target ∈ queue.map key) :
    (∀ node, node ∈ seen.map key ∨ node ∈ queue.map key → node ∈ result.map key) ∧
      ∀ node ∈ result.map key, ∀ target, Leads key edges node target →
        target ∈ result.map key := by
  fun_induction explore key edges rounds queue seen with
  | case1 rounds seen =>
      cases explored
      exact ⟨fun node found => found.resolve_right List.not_mem_nil, fun node member target leads =>
        (closed node member target leads).resolve_right List.not_mem_nil⟩
  | case2 seen item queue => cases explored
  | case3 rounds item queue seen already ih =>
      have known : ∀ node, node ∈ seen.map key ∨ node ∈ (item :: queue).map key →
          node ∈ seen.map key ∨ node ∈ queue.map key := by
        rintro node (isSeen | queued)
        · exact Or.inl isSeen
        · rcases List.mem_cons.mp queued with rfl | later
          · exact Or.inl already
          · exact Or.inr later
      obtain ⟨contains, isClosed⟩ := ih explored fun node member target leads =>
        known target (closed node member target leads)
      exact ⟨fun node found => contains node (known node found), isClosed⟩
  | case4 rounds item queue seen unseen expanded ih =>
      have known : ∀ node, node ∈ seen.map key ∨ node ∈ (item :: queue).map key →
          node ∈ expanded.map key ∨ node ∈ queue.map key := by
        rintro node (isSeen | queued)
        · exact Or.inl (mem_keys_append.mpr (Or.inl isSeen))
        · rcases List.mem_cons.mp queued with rfl | later
          · exact Or.inl (mem_keys_append.mpr (Or.inr (List.mem_singleton_self _)))
          · exact Or.inr later
      obtain ⟨contains, isClosed⟩ := ih explored fun node member target leads => by
        rcases mem_keys_append.mp member with old | new
        · exact (known target (closed node old target leads)).imp_right fun queued =>
            mem_keys_append.mpr (Or.inl queued)
        · obtain ⟨child, isEdge, rfl⟩ := leads
          rw [List.mem_singleton.mp new] at isEdge
          by_cases isExpanded : key child ∈ expanded.map key
          · exact Or.inl isExpanded
          · refine Or.inr (mem_keys_append.mpr (Or.inr (List.mem_map_of_mem ?_)))
            exact List.mem_filter.mpr ⟨mem_children.mpr isEdge, decide_eq_true isExpanded⟩
      refine ⟨fun node found => contains node ?_, isClosed⟩
      exact (known node found).imp_right fun queued => mem_keys_append.mpr (Or.inl queued)

/-- What is found is what the starts lead to. -/
theorem mem_explore {rounds : Nat} {starts result : List Item}
    (explored : explore key edges rounds starts [] = some result) (node : Node) :
    node ∈ result.map key ↔
      ∃ start ∈ starts, ReflTransGen (Leads key edges) (key start) node := by
  constructor
  · intro found
    obtain ⟨item, member, rfl⟩ := List.mem_map.mp found
    have passed : ∀ item child,
        (∃ start ∈ starts, ReflTransGen (Leads key edges) (key start) (key item)) →
          (key item, child) ∈ edges →
            ∃ start ∈ starts, ReflTransGen (Leads key edges) (key start) (key child) := by
      rintro item child ⟨start, isStart, path⟩ isEdge
      exact ⟨start, isStart, path.tail ⟨child, isEdge, rfl⟩⟩
    exact explore_forall passed (fun start isStart => ⟨start, isStart, .refl⟩)
      (List.forall_mem_nil _) explored item member
  · rintro ⟨start, isStart, path⟩
    obtain ⟨contains, closed⟩ := explore_closed explored (List.forall_mem_nil _)
    induction path with
    | refl => exact contains _ (Or.inr (List.mem_map_of_mem isStart))
    | @tail middle next _ leads ih => exact closed middle ih next leads

end Explore

/-! ### Up through the edges -/

section Climb

/-- One pass, which goes on with what it has just added, and whether it added anything. -/
def pass : List (Node × Node) → List Node → List Node × Bool
  | [], above => (above, false)
  | (parent, child) :: edges, above =>
      if child ∈ above ∧ parent ∉ above then ((pass edges (above ++ [parent])).1, true)
      else pass edges above

def climb (edges : List (Node × Node)) : Nat → List Node → Option (List Node)
  | 0, _ => none
  | rounds + 1, above =>
      match pass edges above with
      | (above, true) => climb edges rounds above
      | (above, false) => some above

variable {edges : List (Node × Node)}

theorem subset_pass (edges : List (Node × Node)) (above : List Node) :
    above ⊆ (pass edges above).1 := by
  fun_induction pass edges above with
  | case1 above => exact List.Subset.refl above
  | case2 parent child edges above adds ih => exact List.Subset.trans (List.subset_append_left _ _) ih
  | case3 parent child edges above skips ih => exact ih

/-- A pass that adds nothing has found every edge's parent with its child. -/
theorem pass_quiet {above : List Node} (quiet : (pass edges above).2 = false) :
    (pass edges above).1 = above ∧ ∀ edge ∈ edges, edge.2 ∈ above → edge.1 ∈ above := by
  fun_induction pass edges above with
  | case1 above => exact ⟨rfl, List.forall_mem_nil _⟩
  | case2 parent child edges above adds ih => cases quiet
  | case3 parent child edges above skips ih =>
      obtain ⟨unchanged, closed⟩ := ih quiet
      refine ⟨unchanged, ?_⟩
      intro edge member
      rcases List.mem_cons.mp member with rfl | later
      · exact fun inside => by_contra fun outside => skips ⟨inside, outside⟩
      · exact closed edge later

theorem pass_grew {above : List Node} (grew : (pass edges above).2 = true) :
    ∃ edge ∈ edges, edge.1 ∉ above ∧ edge.1 ∈ (pass edges above).1 := by
  fun_induction pass edges above with
  | case1 above => cases grew
  | case2 parent child edges above adds ih =>
      refine ⟨(parent, child), List.mem_cons_self, adds.2, ?_⟩
      exact subset_pass edges _ (List.mem_append_right _ (List.mem_singleton_self _))
  | case3 parent child edges above skips ih =>
      obtain ⟨edge, member, added⟩ := ih grew
      exact ⟨edge, List.mem_cons_of_mem _ member, added⟩

/-- What the edges pass up holds of everything a pass adds. -/
theorem pass_forall {holds : Node → Prop} {above : List Node}
    (passed : ∀ edge ∈ edges, holds edge.2 → holds edge.1) (onAbove : ∀ node ∈ above, holds node) :
    ∀ node ∈ (pass edges above).1, holds node := by
  fun_induction pass edges above with
  | case1 above => exact onAbove
  | case2 parent child edges above adds ih =>
      have later := fun edge member => passed edge (List.mem_cons_of_mem _ member)
      apply ih later
      intro node member
      rcases List.mem_append.mp member with old | new
      · exact onAbove node old
      · rw [List.mem_singleton.mp new]
        exact passed (parent, child) List.mem_cons_self (onAbove child adds.1)
  | case3 parent child edges above skips ih =>
      exact ih (fun edge member => passed edge (List.mem_cons_of_mem _ member)) onAbove

/-- The edges whose parent has not been reached. -/
def unreached (edges : List (Node × Node)) (above : List Node) : List (Node × Node) :=
  edges.filter fun edge => edge.1 ∉ above

theorem length_unreached_lt {above next : List Node} (grows : above ⊆ next)
    (adds : ∃ edge ∈ edges, edge.1 ∉ above ∧ edge.1 ∈ next) :
    (unreached edges next).length < (unreached edges above).length := by
  obtain ⟨edge, member, isOutside, isInside⟩ := adds
  have fewer : unreached edges next =
      (unreached edges above).filter fun edge => edge.1 ∉ next := by
    unfold unreached
    rw [List.filter_filter]
    apply List.filter_congr
    intro other _
    by_cases inside : other.1 ∈ above
    · simp only [grows inside, inside, not_true_eq_false, decide_false, Bool.and_false]
    · simp only [inside, not_false_eq_true, decide_true, Bool.and_true]
  rw [fewer]
  apply List.length_filter_lt_length_iff_exists.mpr
  exact ⟨edge, List.mem_filter.mpr ⟨member, decide_eq_true isOutside⟩, by simpa using isInside⟩

/-- Every round but the last reaches a parent that was not reached. -/
theorem climb_returns {rounds : Nat} {above : List Node}
    (enough : (unreached edges above).length < rounds) :
    ∃ result, climb edges rounds above = some result := by
  induction rounds generalizing above with
  | zero => exact absurd enough (Nat.not_lt_zero _)
  | succ rounds ih =>
      rw [climb]
      cases passed : pass edges above with
      | mk next grew =>
          cases grew with
          | false => exact ⟨next, rfl⟩
          | true =>
              apply ih
              have grows := subset_pass edges above
              have adds : ∃ edge ∈ edges, edge.1 ∉ above ∧ edge.1 ∈ (pass edges above).1 :=
                pass_grew (by rw [passed])
              rw [passed] at grows adds
              have fewer : (unreached edges next).length < (unreached edges above).length :=
                length_unreached_lt grows adds
              omega

theorem climb_starts_returns (edges : List (Node × Node)) (starts : List Node) :
    ∃ result, climb edges (edges.length + 1) starts = some result :=
  climb_returns (Nat.lt_succ_of_le (List.length_filter_le _ edges))

theorem climb_forall {holds : Node → Prop}
    (passed : ∀ edge ∈ edges, holds edge.2 → holds edge.1) {rounds : Nat}
    {above result : List Node} (onAbove : ∀ node ∈ above, holds node)
    (climbed : climb edges rounds above = some result) : ∀ node ∈ result, holds node := by
  induction rounds generalizing above with
  | zero => cases climbed
  | succ rounds ih =>
      have onNext := pass_forall passed onAbove
      rw [climb] at climbed
      split at climbed
      · rename_i next found
        rw [found] at onNext
        exact ih onNext climbed
      · rename_i next found
        rw [found] at onNext
        cases climbed
        exact onNext

theorem climb_closed {rounds : Nat} {above result : List Node}
    (climbed : climb edges rounds above = some result) :
    above ⊆ result ∧ ∀ edge ∈ edges, edge.2 ∈ result → edge.1 ∈ result := by
  induction rounds generalizing above with
  | zero => cases climbed
  | succ rounds ih =>
      have grows := subset_pass edges above
      rw [climb] at climbed
      split at climbed
      · rename_i next found
        rw [found] at grows
        obtain ⟨contains, closed⟩ := ih climbed
        exact ⟨List.Subset.trans grows contains, closed⟩
      · rename_i next found
        have quiet : (pass edges above).2 = false := by rw [found]
        obtain ⟨unchanged, closed⟩ := pass_quiet quiet
        rw [found] at unchanged
        cases climbed
        rw [show result = above from unchanged]
        exact ⟨List.Subset.refl _, closed⟩

/-- What is climbed to is what leads to a start. -/
theorem mem_climb {rounds : Nat} {starts result : List Node}
    (climbed : climb edges rounds starts = some result) (node : Node) :
    node ∈ result ↔
      ∃ start ∈ starts, ReflTransGen (fun parent child => (parent, child) ∈ edges) node start := by
  constructor
  · have passed : ∀ edge ∈ edges,
        (∃ start ∈ starts,
          ReflTransGen (fun parent child => (parent, child) ∈ edges) edge.2 start) →
          ∃ start ∈ starts,
            ReflTransGen (fun parent child => (parent, child) ∈ edges) edge.1 start := by
      rintro ⟨parent, child⟩ member ⟨start, isStart, path⟩
      exact ⟨start, isStart, path.head member⟩
    have onStarts : ∀ node ∈ starts, ∃ start ∈ starts,
        ReflTransGen (fun parent child => (parent, child) ∈ edges) node start :=
      fun start isStart => ⟨start, isStart, .refl⟩
    exact @climb_forall _ _ edges (fun node => ∃ start ∈ starts,
      ReflTransGen (fun parent child => (parent, child) ∈ edges) node start) passed _ _ _ onStarts
      climbed node
  · rintro ⟨start, isStart, path⟩
    obtain ⟨contains, closed⟩ := climb_closed climbed
    induction path using ReflTransGen.head_induction_on with
    | refl => exact contains isStart
    | @head parent child isEdge _ ih => exact closed (parent, child) isEdge ih

end Climb

end Soulzaa.Reachability
