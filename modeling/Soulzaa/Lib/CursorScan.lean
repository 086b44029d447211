/-
Scanning a table in pages behind a cursor.

A page holds the keys that come after the cursor, at most `take` of them.  The
scan visits page after page until one is empty or short.  Over distinct keys it
visits each exactly once, in order, whatever the page size.
-/

import Mathlib.Data.List.Nodup

namespace Soulzaa.CursorScan

variable {Key State : Type} [DecidableEq Key]

/-- The keys that follow the cursor; all of them when there is none, and none
when the cursor is not a key. -/
def after (keys : List Key) : Option Key → List Key
  | none => keys
  | some cursor => (keys.dropWhile fun key => key ≠ cursor).drop 1

def pageAfter (keys : List Key) (cursor : Option Key) (take : Nat) : List Key :=
  (after keys cursor).take take

/-- The loop; `none` when the fuel ran out. -/
def scan (page : Option Key → List Key) (batch : Nat) (visit : State → Key → State) :
    Nat → Option Key → State → Option State
  | 0, _, _ => none
  | fuel + 1, cursor, state =>
      let keys := page cursor
      match keys.getLast? with
      | none => some state
      | some last =>
          let visited := keys.foldl visit state
          if keys.length < batch then some visited
          else scan page batch visit fuel (some last) visited

theorem after_getLast {done rest : List Key} (distinct : (done ++ rest).Nodup) :
    after (done ++ rest) done.getLast? = rest := by
  induction done with
  | nil => rfl
  | cons first others ih =>
      obtain ⟨notLater, restDistinct⟩ := List.nodup_cons.mp distinct
      cases others with
      | nil =>
          change ((first :: rest).dropWhile fun key => key ≠ first).drop 1 = rest
          rw [List.dropWhile_cons_of_neg (by simp)]
          rfl
      | cons second later =>
          have cursorLater : (first :: second :: later).getLast? = (second :: later).getLast? :=
            List.getLast?_cons_cons
          rw [cursorLater]
          obtain ⟨last, isLast⟩ : ∃ last, (second :: later).getLast? = some last :=
            ⟨_, List.getLast?_eq_some_getLast (List.cons_ne_nil _ _)⟩
          have rest := ih restDistinct
          rw [isLast] at rest ⊢
          have different : first ≠ last := by
            rintro rfl
            exact notLater (List.mem_append_left _ (List.mem_of_getLast? isLast))
          change ((first :: ((second :: later) ++ _)).dropWhile _).drop 1 = _
          rw [List.dropWhile_cons_of_pos (by simpa using different)]
          exact rest

/-- The scan from any cursor visits the keys after it, each once, in order. -/
theorem scan_from (keys : List Key) (distinct : keys.Nodup) {batch : Nat}
    (positive : 0 < batch) (visit : State → Key → State) (fuel : Nat)
    (done rest : List Key) (split : keys = done ++ rest) (enough : rest.length < fuel)
    (state : State) :
    scan (fun cursor => pageAfter keys cursor batch) batch visit fuel done.getLast? state =
      some (rest.foldl visit state) := by
  -- The cursor is the last key done, so a page is the front of what is left.
  induction fuel generalizing done rest state with
  | zero => omega
  | succ fuel ih =>
      have page : pageAfter keys done.getLast? batch = rest.take batch := by
        unfold pageAfter
        rw [split, after_getLast (split ▸ distinct)]
      unfold scan
      simp only [page]
      cases isLast : (rest.take batch).getLast? with
      | none =>
          have empty : rest = [] := by
            rcases List.take_eq_nil_iff.mp (List.getLast?_eq_none_iff.mp isLast) with zero | empty
            · omega
            · exact empty
          rw [empty]
          rfl
      | some last =>
          by_cases short : (rest.take batch).length < batch
          · have whole : rest.take batch = rest := by
              apply List.take_of_length_le
              rw [List.length_take] at short
              omega
            rw [whole] at short ⊢
            exact if_pos short
          · -- A full page leaves less to do, so the fuel still suffices.
            have continued : (done ++ rest.take batch).getLast? = some last := by
              rw [List.getLast?_append, isLast]
              rfl
            have shorter : (rest.drop batch).length < fuel := by
              rw [List.length_take] at short
              rw [List.length_drop]
              omega
            have splitLater : keys = (done ++ rest.take batch) ++ rest.drop batch := by
              rw [List.append_assoc, List.take_append_drop, split]
            have later := ih (done ++ rest.take batch) (rest.drop batch) splitLater shorter
              ((rest.take batch).foldl visit state)
            rw [continued] at later
            refine (if_neg short).trans ?_
            rw [later, ← List.foldl_append, List.take_append_drop]

theorem scan_eq_foldl {keys : List Key} (distinct : keys.Nodup) {batch : Nat}
    (positive : 0 < batch) (visit : State → Key → State) {fuel : Nat}
    (enough : keys.length < fuel) (state : State) :
    scan (fun cursor => pageAfter keys cursor batch) batch visit fuel none state =
      some (keys.foldl visit state) :=
  scan_from keys distinct positive visit fuel [] keys rfl enough state

end Soulzaa.CursorScan
