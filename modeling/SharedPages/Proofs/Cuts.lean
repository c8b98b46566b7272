import Mathlib.Data.List.Basic

/-!
# Cuts of a list that grows

A history is a list that grows at its end. What is said of a place in it is said of a cut: of what
came before and of what came later. When one more element comes, the list can be cut there, or
where it could be cut before.
-/

namespace SharedPages

theorem concat_eq_append_cons_iff {α : Type} {xs before after : List α} {x y : α} :
    xs ++ [x] = before ++ y :: after ↔
      (xs = before ∧ x = y ∧ after = []) ∨
        ∃ later, xs = before ++ y :: later ∧ after = later ++ [x] := by
  constructor
  · intro hcut
    rcases List.eq_nil_or_concat after with rfl | ⟨later, last, rfl⟩
    · obtain ⟨hxs, hx⟩ := List.append_inj' hcut rfl
      exact Or.inl ⟨hxs, List.singleton_inj.mp hx, rfl⟩
    · rw [List.concat_eq_append, ← List.cons_append, ← List.append_assoc] at hcut
      obtain ⟨hxs, hx⟩ := List.append_inj' hcut rfl
      obtain rfl := List.singleton_inj.mp hx
      exact Or.inr ⟨later, hxs, List.concat_eq_append⟩
  · rintro (⟨rfl, rfl, rfl⟩ | ⟨later, rfl, rfl⟩)
    · rfl
    · simp

end SharedPages
