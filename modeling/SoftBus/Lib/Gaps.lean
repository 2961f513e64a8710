import Mathlib.Data.Set.Lattice
import Mathlib.Order.CompletePartialOrder
import Mathlib.Order.Interval.Set.Basic

/-!
# Lists of gaps

A gap is a pair of numbers that stands for the numbers strictly between them.
A list of gaps in increasing order loses one number at a time: the gap with the
number in it goes, loses its first or its last number, or is split.
-/

namespace Gaps

def covered (l : List (Nat × Nat)) : Set Nat := {n | ∃ gap ∈ l, n ∈ Set.Ioo gap.1 gap.2}

structure Tidy (l : List (Nat × Nat)) : Prop where
  wide : ∀ gap ∈ l, gap.1 + 2 ≤ gap.2
  sorted : l.Pairwise fun a b => a.2 ≤ b.1

def remove (n : Nat) : List (Nat × Nat) → List (Nat × Nat)
  | [] => []
  | gap :: l =>
    if gap.2 < n then gap :: remove n l
    else if n ≤ gap.1 then gap :: l
    else if n = gap.2 then gap :: l
    else if gap.1 + 1 = n then if gap.1 + 2 = gap.2 then l else (n, gap.2) :: l
    else if n + 1 = gap.2 then (gap.1, n) :: l
    else (gap.1, n) :: (n, gap.2) :: l

theorem covered_nil : covered [] = ∅ := by
  ext m
  simp [covered]

theorem mem_covered_cons {gap : Nat × Nat} {l : List (Nat × Nat)} {m : Nat} :
    m ∈ covered (gap :: l) ↔ (gap.1 < m ∧ m < gap.2) ∨ m ∈ covered l := by
  simp [covered]

theorem covered_concat (l : List (Nat × Nat)) (gap : Nat × Nat) :
    covered (l ++ [gap]) = covered l ∪ Set.Ioo gap.1 gap.2 := by
  ext m
  simp [covered, or_and_right, exists_or]

theorem Tidy.nil : Tidy [] := ⟨nofun, List.Pairwise.nil⟩

theorem Tidy.of_cons {gap : Nat × Nat} {l : List (Nat × Nat)} (h : Tidy (gap :: l)) :
    gap.1 + 2 ≤ gap.2 ∧ (∀ other ∈ l, gap.2 ≤ other.1) ∧ Tidy l := by
  obtain ⟨hfirst, hrest⟩ := List.pairwise_cons.mp h.sorted
  exact ⟨h.wide gap List.mem_cons_self, hfirst, fun g hg => h.wide g (List.mem_cons_of_mem _ hg), hrest⟩

theorem Tidy.cons {gap : Nat × Nat} {l : List (Nat × Nat)} (hwide : gap.1 + 2 ≤ gap.2)
    (hfirst : ∀ other ∈ l, gap.2 ≤ other.1) (h : Tidy l) : Tidy (gap :: l) := by
  refine ⟨fun g hg => ?_, List.pairwise_cons.mpr ⟨hfirst, h.sorted⟩⟩
  rcases List.mem_cons.mp hg with rfl | hg
  · exact hwide
  · exact h.wide g hg

theorem Tidy.concat {l : List (Nat × Nat)} {gap : Nat × Nat} (h : Tidy l) (hwide : gap.1 + 2 ≤ gap.2)
    (hlast : ∀ other ∈ l, other.2 ≤ gap.1) : Tidy (l ++ [gap]) := by
  refine ⟨fun g hg => ?_, List.pairwise_append.mpr ⟨h.sorted, List.pairwise_singleton _ _, ?_⟩⟩
  · rcases List.mem_append.mp hg with hg | hg
    · exact h.wide g hg
    · rw [List.mem_singleton.mp hg]
      exact hwide
  · intro a ha b hb
    rw [List.mem_singleton.mp hb]
    exact hlast a ha

theorem Tidy.lt_of_mem_covered {l : List (Nat × Nat)} {k m : Nat} (hl : ∀ gap ∈ l, k ≤ gap.1)
    (hm : m ∈ covered l) : k < m := by
  obtain ⟨gap, hgap, hlt, -⟩ := hm
  exact Nat.lt_of_le_of_lt (hl gap hgap) hlt

theorem within_of_mem_remove {n : Nat} : ∀ {l : List (Nat × Nat)}, ∀ gap ∈ remove n l,
    ∃ old ∈ l, old.1 ≤ gap.1 ∧ gap.2 ≤ old.2
  | [], _, hg => nomatch hg
  | old :: l, gap, hg => by
    have hself : ∀ g ∈ l, ∃ o ∈ old :: l, o.1 ≤ g.1 ∧ g.2 ≤ o.2 :=
      fun g hm => ⟨g, List.mem_cons_of_mem _ hm, Nat.le_refl _, Nat.le_refl _⟩
    have hold : old.1 ≤ gap.1 ∧ gap.2 ≤ old.2 → ∃ o ∈ old :: l, o.1 ≤ gap.1 ∧ gap.2 ≤ o.2 :=
      fun h => ⟨old, List.mem_cons_self, h⟩
    unfold remove at hg
    split_ifs at hg with h₁ h₂ h₃ h₄ h₅ h₆
    · rcases List.mem_cons.mp hg with rfl | hg
      · exact hold ⟨Nat.le_refl _, Nat.le_refl _⟩
      · obtain ⟨o, ho, hle⟩ := within_of_mem_remove gap hg
        exact ⟨o, List.mem_cons_of_mem _ ho, hle⟩
    · exact ⟨gap, hg, Nat.le_refl _, Nat.le_refl _⟩
    · exact ⟨gap, hg, Nat.le_refl _, Nat.le_refl _⟩
    · exact hself gap hg
    · rcases List.mem_cons.mp hg with rfl | hg
      · exact hold (by dsimp only; omega)
      · exact hself gap hg
    · rcases List.mem_cons.mp hg with rfl | hg
      · exact hold (by dsimp only; omega)
      · exact hself gap hg
    · rcases List.mem_cons.mp hg with rfl | hg
      · exact hold (by dsimp only; omega)
      rcases List.mem_cons.mp hg with rfl | hg
      · exact hold (by dsimp only; omega)
      · exact hself gap hg

theorem Tidy.remove {n : Nat} : ∀ {l : List (Nat × Nat)}, Tidy l → Tidy (remove n l)
  | [], h => h
  | gap :: l, h => by
    obtain ⟨hwide, hfirst, hl⟩ := h.of_cons
    unfold Gaps.remove
    split_ifs with h₁ h₂ h₃ h₄ h₅ h₆
    · refine .cons hwide (fun g hg => ?_) hl.remove
      obtain ⟨old, hold, hle, -⟩ := within_of_mem_remove g hg
      exact Nat.le_trans (hfirst old hold) hle
    · exact h
    · exact h
    · exact hl
    · exact .cons (by dsimp only; omega) hfirst hl
    · refine .cons (by dsimp only; omega) (fun g hg => ?_) hl
      exact Nat.le_trans (by dsimp only; omega) (hfirst g hg)
    · refine .cons (by dsimp only; omega) (fun g hg => ?_) (.cons (by dsimp only; omega) hfirst hl)
      rcases List.mem_cons.mp hg with rfl | hg
      · exact Nat.le_refl _
      · exact Nat.le_trans (by dsimp only; omega) (hfirst g hg)

theorem covered_remove {n : Nat} : ∀ {l : List (Nat × Nat)}, Tidy l → covered (remove n l) = covered l \ {n}
  | [], _ => by
    rw [Gaps.remove, covered_nil, Set.empty_sdiff]
  | gap :: l, h => by
    obtain ⟨hwide, hfirst, hl⟩ := h.of_cons
    have ih := covered_remove (n := n) hl
    ext m
    have hbehind : m ∈ covered l → gap.2 < m := Tidy.lt_of_mem_covered hfirst
    rw [Set.mem_sdiff, Set.mem_singleton_iff]
    unfold Gaps.remove
    split_ifs with h₁ h₂ h₃ h₄ h₅ h₆
    · rw [mem_covered_cons, mem_covered_cons, ih, Set.mem_sdiff, Set.mem_singleton_iff]
      constructor
      · rintro (hm | ⟨hm, hne⟩)
        · exact ⟨.inl hm, by omega⟩
        · exact ⟨.inr hm, hne⟩
      · rintro ⟨hm | hm, hne⟩
        · exact .inl hm
        · exact .inr ⟨hm, hne⟩
    all_goals
      simp only [mem_covered_cons]
      by_cases hm : m ∈ covered l
      · have := hbehind hm
        simp only [hm, or_true, true_and, true_iff]
        omega
      · simp only [hm, or_false, false_iff]
        omega

end Gaps
