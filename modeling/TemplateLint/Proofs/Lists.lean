import Mathlib.Data.List.Basic

/-!
# Lists that grow at the end

A history, and what is noted of the stores on a file, grow at the end only: where such a list is
cut, and what is held in which place, stays the same when something is added.
Main exports: `append_singleton_eq`, `append_eq_append_cons`, `getElem?_concat_cases`,
`getElem?_concat_of_some`.
-/

namespace TemplateLint

variable {α : Type} {items before after : List α} {last item : α} {number : Nat}

/-- A list that is cut before an item is cut before the last one, or was cut there before it
grew. -/
theorem append_singleton_eq :
    items ++ [last] = before ++ item :: after ↔
      (before = items ∧ item = last ∧ after = []) ∨
        ∃ others, after = others ++ [last] ∧ items = before ++ item :: others := by
  constructor
  · intro whole
    rcases List.eq_nil_or_concat after with rfl | ⟨others, final, rfl⟩
    · obtain ⟨rfl, same⟩ := List.append_inj' whole rfl
      cases same
      exact Or.inl ⟨rfl, rfl, rfl⟩
    · rw [List.concat_eq_append, ← List.cons_append, ← List.append_assoc] at whole
      obtain ⟨rfl, same⟩ := List.append_inj' whole rfl
      cases same
      exact Or.inr ⟨others, by simp, rfl⟩
  · rintro (⟨rfl, rfl, rfl⟩ | ⟨others, rfl, rfl⟩)
    · rfl
    · simp

/-- A list in two parts is cut before an item of the first part or of the second. -/
theorem append_eq_append_cons {more : List α} (split : items ++ more = before ++ item :: after) :
    (∃ others, items = before ++ item :: others) ∨
      ∃ others, before = items ++ others ∧ more = others ++ item :: after := by
  rcases List.append_eq_append_iff.mp split with ⟨others, rfl, same⟩ | ⟨others, rfl, same⟩
  · exact Or.inr ⟨others, rfl, same⟩
  · cases others with
    | nil => exact Or.inr ⟨[], by simp, by simpa using same.symm⟩
    | cons head others =>
        obtain ⟨rfl, -⟩ := List.cons.inj same
        exact Or.inl ⟨others, rfl⟩

/-- What a longer list holds was held before, or it is the last thing. -/
theorem getElem?_concat_cases (held : (items ++ [last])[number]? = some item) :
    items[number]? = some item ∨ (number = items.length ∧ item = last) := by
  grind

theorem getElem?_concat_of_some (held : items[number]? = some item) (last : α) :
    (items ++ [last])[number]? = some item := by
  rw [List.getElem?_append_left (List.getElem?_eq_some_iff.mp held).1, held]

end TemplateLint
