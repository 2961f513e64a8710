import Mathlib.Algebra.BigOperators.Group.List.Basic
import Mathlib.Algebra.GroupWithZero.Nat
import Mathlib.Data.List.Infix

/-!
# The longest start that fits

The elements of a list have sizes. The list is cut from its end, one element at a time, until what is left is not
larger than `cap`.
-/

namespace Truncate

section
variable {α : Type} (size : α → Nat) (cap : Nat)

def total (l : List α) : Nat := (l.map size).sum

@[simp] theorem total_nil : total size [] = 0 := rfl

@[simp] theorem total_cons (x : α) (l : List α) : total size (x :: l) = size x + total size l := by
  rw [total, List.map_cons, List.sum_cons, total]

theorem total_append (l l' : List α) : total size (l ++ l') = total size l + total size l' := by
  rw [total, List.map_append, List.sum_append, total, total]

theorem total_reverse (l : List α) : total size l.reverse = total size l := by
  rw [total, List.map_reverse, List.sum_reverse, total]

structure Longest (l p : List α) : Prop where
  start : p <+: l
  fits : total size p ≤ cap
  longest : ∀ q, q <+: l → total size q ≤ cap → q <+: p

/-- The size of what is cut off. The elements that are left come last one first, `cut` is cut off before, and `len` is
the size of the whole. -/
def cutEnd (len : Nat) : List α → Nat → Nat
  | [], cut => cut
  | x :: l, cut => if cap < len - cut then cutEnd len l (cut + size x) else cut

theorem cutEnd_longest {len : Nat} : ∀ (l : List α) (cut : Nat), total size l + cut = len →
    ∃ p, Longest size cap l.reverse p ∧ total size p + cutEnd size cap len l cut = len
  | [], cut, h => ⟨[], ⟨List.prefix_refl [], Nat.zero_le cap, fun _ hq _ => hq⟩, h⟩
  | x :: l, cut, h => by
    rw [total_cons] at h
    rw [cutEnd, List.reverse_cons]
    have hall : total size (l.reverse ++ [x]) = len - cut := by
      rw [total_append, total_reverse, total_cons, total_nil]
      omega
    split
    case isTrue hcap =>
      have hrest : total size l + (cut + size x) = len := by omega
      obtain ⟨p, hp, hlen⟩ := cutEnd_longest l (cut + size x) hrest
      refine ⟨p, ⟨hp.start.trans (List.prefix_append _ _), hp.fits, ?_⟩, hlen⟩
      intro q hq hfits
      -- the whole list is too large, so `q` lacks its last element
      rcases List.prefix_concat_iff.mp hq with rfl | hq
      · omega
      · exact hp.longest q hq hfits
    case isFalse hcap =>
      exact ⟨l.reverse ++ [x], ⟨List.prefix_refl _, by omega, fun _ hq _ => hq⟩, by omega⟩

theorem Longest.full {m : Nat} (hm : ∀ x, size x ≤ m) {l p : List α} (h : Longest size cap l p) :
    p = l ∨ cap < total size p + m := by
  obtain ⟨r, rfl⟩ := h.start
  cases r with
  | nil => exact .inl (List.append_nil p).symm
  | cons x r =>
    refine .inr (Nat.lt_of_not_le fun hle => ?_)
    have hx : total size (p ++ [x]) = total size p + size x := by rw [total_append, total_cons, total_nil, Nat.add_zero]
    have hnext : p ++ [x] <+: p :=
      h.longest _ ⟨r, List.append_assoc p [x] r⟩ (hx.trans_le (by have := hm x; omega))
    have hlength := hnext.length_le
    rw [List.length_append, List.length_singleton] at hlength
    omega

theorem Longest.of_min {l p : List α} (h : Longest size (min cap (total size l)) l p) : Longest size cap l p where
  start := h.start
  fits := h.fits.trans (Nat.min_le_left ..)
  longest q hq hfits := by
    refine h.longest q hq (Nat.le_min.mpr ⟨hfits, ?_⟩)
    obtain ⟨r, rfl⟩ := hq
    rw [total_append]
    exact Nat.le_add_right ..

end

end Truncate
