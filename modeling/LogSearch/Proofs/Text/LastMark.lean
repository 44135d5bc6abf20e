import Mathlib

/-!
# What stands around the last of a character

Main statement: two parts with a character between them are given by the whole text, if the character
does not come again in the second part (`append_cons_inj_of_not_mem`).
-/

namespace LogSearch

variable {front other back rest : List Char} {mark : Char}

/-- **What stands before the last of a character, and what stands after it**, is given by the text. -/
theorem append_cons_inj_of_not_mem (hback : mark ∉ back) (hrest : mark ∉ rest)
    (h : front ++ mark :: back = other ++ mark :: rest) : front = other ∧ back = rest := by
  -- where one of the first parts ends and the other goes on, the mark of the other comes again
  induction front generalizing other with
  | nil =>
    cases other with
    | nil => exact ⟨rfl, (List.cons.inj h).2⟩
    | cons c other =>
      obtain ⟨-, rfl⟩ := List.cons.inj h
      exact absurd (List.mem_append_right _ List.mem_cons_self) hback
  | cons c front ih =>
    cases other with
    | nil =>
      obtain ⟨-, rfl⟩ := List.cons.inj h
      exact absurd (List.mem_append_right _ List.mem_cons_self) hrest
    | cons d other =>
      obtain ⟨rfl, htail⟩ := List.cons.inj h
      obtain ⟨rfl, rfl⟩ := ih htail
      exact ⟨rfl, rfl⟩

end LogSearch
