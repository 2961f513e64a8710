import Mathlib.Data.List.GetD
import Mathlib.Data.List.Perm.Basic

/-!
# Tables of buckets

Every element of a table is in the bucket that its index says. What is done to one
bucket is done to the whole table, up to the order of its elements.
-/

namespace Buckets

section
variable {α : Type} {idx : α → Nat} {t : List (List α)} {x : α} {i : Nat} {f : List α → List α}

def Placed (idx : α → Nat) (t : List (List α)) : Prop := ∀ i, ∀ x ∈ t.getD i [], idx x = i

theorem flatten_modify : ∀ {t : List (List α)} {i : Nat}, i < t.length →
    ∃ rest, t.flatten.Perm (t.getD i [] ++ rest) ∧ ∀ f, (t.modify i f).flatten.Perm (f (t.getD i []) ++ rest)
  | b :: t, 0, _ => ⟨t.flatten, by simp, fun f => by simp⟩
  | b :: t, i + 1, h => by
    obtain ⟨rest, hold, hnew⟩ := flatten_modify (Nat.lt_of_succ_lt_succ h)
    have hmove : ∀ c : List α, (b ++ (c ++ rest)).Perm (c ++ (b ++ rest)) := fun c => by
      rw [← List.append_assoc, ← List.append_assoc]
      exact List.perm_append_comm.append_right rest
    refine ⟨b ++ rest, ?_, fun f => ?_⟩
    · simpa using (hold.append_left b).trans (hmove _)
    · simpa using ((hnew f).append_left b).trans (hmove _)

theorem mem_flatten_iff : x ∈ t.flatten ↔ ∃ i, x ∈ t.getD i [] := by
  rw [List.mem_flatten]
  constructor
  · rintro ⟨b, hb, hx⟩
    obtain ⟨i, hi, rfl⟩ := List.mem_iff_getElem.mp hb
    exact ⟨i, by rwa [List.getD_eq_getElem _ _ hi]⟩
  · rintro ⟨i, hx⟩
    by_cases hi : i < t.length
    · exact ⟨t[i], List.getElem_mem hi, by rwa [List.getD_eq_getElem _ _ hi] at hx⟩
    · rw [List.getD_eq_default _ _ (Nat.le_of_not_lt hi)] at hx
      exact absurd hx List.not_mem_nil

theorem Placed.mem_bucket (h : Placed idx t) (hx : x ∈ t.flatten) : x ∈ t.getD (idx x) [] := by
  obtain ⟨i, hi⟩ := mem_flatten_iff.mp hx
  rwa [h i x hi]

theorem Placed.modify (h : Placed idx t) (hf : ∀ x ∈ f (t.getD i []), idx x = i) : Placed idx (t.modify i f) := by
  intro j x hx
  by_cases hij : i = j
  · subst hij
    by_cases hi : i < t.length
    · exact hf x (by simpa [hi] using hx)
    · simp [hi] at hx
  · exact h j x (by simpa [List.getElem?_modify, hij] using hx)

theorem Placed.replicate (idx : α → Nat) (n : Nat) : Placed idx (List.replicate n []) := by
  intro i x hx
  have hnil : (List.replicate n ([] : List α)).getD i [] = [] := by
    rw [List.getD_eq_getElem?_getD, List.getElem?_replicate]
    split <;> rfl
  rw [hnil] at hx
  exact absurd hx List.not_mem_nil

/-- All elements of a list are put in. -/
def insertAll (idx : α → Nat) (l : List α) (t : List (List α)) : List (List α) :=
  l.foldl (fun t x => t.modify (idx x) (x :: ·)) t

theorem length_insertAll : ∀ (l : List α) (t : List (List α)), (insertAll idx l t).length = t.length
  | [], _ => rfl
  | _ :: l, _ => (length_insertAll l _).trans (List.length_modify ..)

theorem Placed.insertAll : ∀ {l : List α} {t : List (List α)}, Placed idx t → (∀ x ∈ l, idx x < t.length) →
    Placed idx (Buckets.insertAll idx l t) ∧ (Buckets.insertAll idx l t).flatten.Perm (l ++ t.flatten)
  | [], t, h, _ => ⟨h, .rfl⟩
  | x :: l, t, h, hidx => by
    obtain ⟨rest, hold, hnew⟩ := flatten_modify (hidx x List.mem_cons_self)
    have hplaced : Placed idx (t.modify (idx x) (x :: ·)) := h.modify fun y hy =>
      (List.mem_cons.mp hy).elim (fun heq => heq ▸ rfl) (h (idx x) y)
    obtain ⟨hplaced, hperm⟩ := hplaced.insertAll fun y hy => by
      rw [List.length_modify]
      exact hidx y (List.mem_cons_of_mem _ hy)
    have hx : (t.modify (idx x) (x :: ·)).flatten.Perm (x :: t.flatten) := (hnew _).trans (hold.symm.cons x)
    exact ⟨hplaced, (hperm.trans (hx.append_left l)).trans List.perm_middle⟩

end

end Buckets
