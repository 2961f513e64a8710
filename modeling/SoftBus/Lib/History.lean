import Mathlib.Data.List.Basic

/-!
# Histories

A log grows at its end. `Each P` says that every entry was allowed by what stood before it.
-/

namespace History

section
variable {α : Type} {P : List α → α → Prop} {l : List α} {x : α}

def Each (P : List α → α → Prop) (l : List α) : Prop := ∀ before x after, l = before ++ x :: after → P before x

theorem each_nil : Each P [] := by
  intro before x after h
  exact absurd h.symm (List.append_ne_nil_of_right_ne_nil _ (List.cons_ne_nil _ _))

theorem Each.snoc (h : Each P l) (hx : P l x) : Each P (l ++ [x]) := by
  intro before y after heq
  rcases List.eq_nil_or_concat' after with rfl | ⟨after, z, rfl⟩
  · obtain ⟨rfl, hy⟩ := List.append_inj' heq rfl
    cases hy
    exact hx
  · rw [← List.cons_append, ← List.append_assoc] at heq
    exact h before y after (List.append_inj' heq rfl).1

end

end History
