import Mathlib.Data.List.Perm.Basic
import Mathlib.Order.Lattice

/-!
# Queues by due time

Items wait in the order of their due times; an item is put behind those that are due
at the same time. `order` is the order in which the items were put in.
-/

namespace DueQueue

section
variable {α τ : Type} [LinearOrder τ] (due : α → τ) (order : α → Nat)

def insert (x : α) : List α → List α
  | [] => [x]
  | y :: l => if due x < due y then x :: y :: l else y :: insert x l

def Before (x y : α) : Prop := due x < due y ∨ due x = due y ∧ order x < order y

def Sorted (l : List α) : Prop := l.Pairwise (Before due order)

variable {due order} {x y : α} {l l' : List α}

theorem Before.le (h : Before due order x y) : due x ≤ due y :=
  h.elim le_of_lt fun h => le_of_eq h.1

theorem insert_perm (due : α → τ) (x : α) : ∀ l : List α, (insert due x l).Perm (x :: l)
  | [] => .refl _
  | y :: l => by
    rw [insert]
    by_cases h : due x < due y
    · rw [if_pos h]
    · rw [if_neg h]
      exact ((insert_perm due x l).cons y).trans (.swap x y l)

theorem Sorted.insert : ∀ {l : List α}, Sorted due order l → (∀ y ∈ l, order y < order x) →
    Sorted due order (insert due x l)
  | [], _, _ => List.pairwise_singleton _ _
  | y :: l, h, hlast => by
    obtain ⟨hy, hl⟩ := List.pairwise_cons.mp h
    rw [DueQueue.insert]
    by_cases hlt : due x < due y
    · rw [if_pos hlt]
      refine List.pairwise_cons.mpr ⟨fun z hz => .inl ?_, h⟩
      rcases List.mem_cons.mp hz with rfl | hz
      · exact hlt
      · exact lt_of_lt_of_le hlt (hy z hz).le
    · rw [if_neg hlt]
      refine List.pairwise_cons.mpr ⟨fun z hz => ?_, Sorted.insert hl fun z hz => hlast z (.tail _ hz)⟩
      rcases List.mem_cons.mp ((insert_perm due x l).mem_iff.mp hz) with rfl | hz
      · rcases lt_or_eq_of_le (not_lt.mp hlt) with hlt' | heq
        · exact .inl hlt'
        · exact .inr ⟨heq, hlast y (.head _)⟩
      · exact hy z hz

theorem Sorted.sublist (h : Sorted due order l) (hsub : l'.Sublist l) : Sorted due order l' :=
  List.Pairwise.sublist hsub h

end

end DueQueue
