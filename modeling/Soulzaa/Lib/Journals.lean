/-
A journal is a list of entries in the order they were written.

It is lawful when every entry is proper after those before it.
-/

import Mathlib.Data.List.Infix

namespace Soulzaa.Journals

variable {Entry : Type} {proper : List Entry → Entry → Prop} {journal : List Entry}
  {entry : Entry}

def Lawful (proper : List Entry → Entry → Prop) (journal : List Entry) : Prop :=
  ∀ earlier entry, earlier ++ [entry] <+: journal → proper earlier entry

theorem lawful_nil (proper : List Entry → Entry → Prop) : Lawful proper [] := by
  intro earlier entry isPrefix
  have empty := List.prefix_nil.mp isPrefix
  exact absurd empty (List.append_ne_nil_of_right_ne_nil earlier (List.cons_ne_nil entry []))

theorem lawful_concat :
    Lawful proper (journal ++ [entry]) ↔ Lawful proper journal ∧ proper journal entry := by
  constructor
  · intro lawful
    constructor
    · intro earlier other isPrefix
      exact lawful earlier other (isPrefix.trans (List.prefix_append journal [entry]))
    · exact lawful journal entry (List.prefix_refl _)
  · rintro ⟨lawful, isProper⟩ earlier other isPrefix
    rcases List.prefix_concat_iff.mp isPrefix with whole | before
    · obtain ⟨rfl, same⟩ := List.append_inj' whole rfl
      rw [List.singleton_inj.mp same]
      exact isProper
    · exact lawful earlier other before

end Soulzaa.Journals
