import Mathlib.Algebra.GroupWithZero.Nat
import Mathlib.Data.List.Induction
import Mathlib.Data.List.Pairwise
import Mathlib.Data.List.Sort

/-!
# Reassembling segments

Segments have an offset and a size. They are held in the order of their
offsets, an offset once. `Tiles` says that they follow one another without gap
or overlap.
-/

namespace Segments

section
variable {α : Type} {off size : α → Nat}

def insert (off : α → Nat) (x : α) : List α → Option (List α)
  | [] => some [x]
  | y :: l =>
    if off x < off y then some (x :: y :: l)
    else if off x = off y then none
    else (insert off x l).map (y :: ·)

def Rising (off : α → Nat) (l : List α) : Prop := l.Pairwise fun x y => off x < off y

def held (size : α → Nat) (l : List α) : Nat := (l.map size).sum

def Tiles (off size : α → Nat) : Nat → List α → Prop
  | _, [] => True
  | a, x :: l => off x = a ∧ Tiles off size (a + size x) l

variable {x : α} {l l' m : List α}

theorem perm_insert : ∀ {l l' : List α}, insert off x l = some l' → l'.Perm (x :: l)
  | [], l', h => by
    cases h
    exact List.Perm.refl _
  | y :: l, l', h => by
    unfold insert at h
    split at h
    · cases h
      exact List.Perm.refl _
    split at h
    · cases h
    obtain ⟨l₁, hl₁, rfl⟩ := Option.map_eq_some_iff.mp h
    exact ((perm_insert hl₁).cons y).trans (List.Perm.swap x y l)

theorem Rising.insert : ∀ {l l' : List α}, Rising off l → insert off x l = some l' → Rising off l'
  | [], l', _, h => by
    cases h
    exact List.pairwise_singleton _ _
  | y :: l, l', hl, h => by
    obtain ⟨hy, hl⟩ := List.pairwise_cons.mp hl
    unfold Segments.insert at h
    split at h
    · rename_i hlt
      cases h
      refine List.pairwise_cons.mpr ⟨?_, List.pairwise_cons.mpr ⟨hy, hl⟩⟩
      exact List.forall_mem_cons.mpr ⟨hlt, fun z hz => Nat.lt_trans hlt (hy z hz)⟩
    split at h
    · cases h
    rename_i hge hne
    obtain ⟨l₁, hl₁, rfl⟩ := Option.map_eq_some_iff.mp h
    refine List.pairwise_cons.mpr ⟨fun z hz => ?_, Rising.insert hl hl₁⟩
    rcases List.mem_cons.mp ((perm_insert hl₁).mem_iff.mp hz) with rfl | hz
    · omega
    · exact hy z hz

theorem insert_eq_none : ∀ {l : List α}, Rising off l → (insert off x l = none ↔ ∃ y ∈ l, off y = off x)
  | [], _ => by simp [insert]
  | y :: l, hl => by
    obtain ⟨hy, hl⟩ := List.pairwise_cons.mp hl
    unfold insert
    split
    · rename_i hlt
      refine iff_of_false (fun h => nomatch h) ?_
      rintro ⟨z, hz, heq⟩
      rcases List.mem_cons.mp hz with rfl | hz
      · omega
      · have := hy z hz
        omega
    split
    · rename_i heq
      exact iff_of_true rfl ⟨y, List.mem_cons_self, heq.symm⟩
    · rename_i hne
      rw [Option.map_eq_none_iff, insert_eq_none hl, List.exists_mem_cons_iff]
      exact ⟨.inr, fun h => h.resolve_left fun heq => hne heq.symm⟩

theorem held_cons : held size (x :: l) = size x + held size l := by
  rw [held, List.map_cons, List.sum_cons, held]

theorem held_perm (h : l.Perm l') : held size l = held size l' := (h.map size).sum_nat

theorem Rising.nodup (h : Rising off l) : l.Nodup := h.imp fun hlt heq => absurd (heq ▸ hlt) (Nat.lt_irrefl _)

theorem Rising.eq_of_off (h : Rising off l) {y : α} (hx : x ∈ l) (hy : y ∈ l) (heq : off x = off y) : x = y := by
  have : Std.Symm fun a b => off a ≠ off b := ⟨fun _ _ hab => hab.symm⟩
  by_contra hne
  exact (h.imp Nat.ne_of_lt).forall hx hy hne heq

theorem Rising.sublist (hl : Rising off l) (hm : Rising off m) (h : l ⊆ m) : l.Sublist m := by
  have : Std.Antisymm fun x y => off x < off y := ⟨fun x y hxy hyx => absurd hxy (Nat.lt_asymm hyx)⟩
  exact List.sublist_of_subperm_of_pairwise (List.subperm_of_subset hl.nodup h) hl hm

theorem held_lt (hpos : ∀ x ∈ m, 0 < size x) (h : l.Sublist m) (hne : l ≠ m) : held size l < held size m := by
  induction h with
  | slnil => exact absurd rfl hne
  | @cons l m x h ih =>
    rw [held_cons]
    have hx := hpos x List.mem_cons_self
    by_cases heq : l = m
    · rw [heq]
      omega
    · have := ih (fun y hy => hpos y (List.mem_cons_of_mem x hy)) heq
      omega
  | @cons_cons l m x h ih =>
    rw [held_cons, held_cons]
    have := ih (fun y hy => hpos y (List.mem_cons_of_mem x hy)) fun heq => hne (heq ▸ rfl)
    omega

theorem Tiles.le_off : ∀ {l : List α} {a : Nat}, Tiles off size a l → ∀ x ∈ l, a ≤ off x
  | [], _, _, x, hx => absurd hx List.not_mem_nil
  | y :: l, a, ⟨hy, hl⟩, x, hx => by
    rcases List.mem_cons.mp hx with rfl | hx
    · exact Nat.le_of_eq hy.symm
    · exact Nat.le_trans (Nat.le_add_right a (size y)) (hl.le_off x hx)

theorem Tiles.rising (hpos : ∀ x ∈ l, 0 < size x) : ∀ {a : Nat}, Tiles off size a l → Rising off l := by
  induction l with
  | nil => exact fun _ => List.Pairwise.nil
  | cons y l ih =>
    rintro a ⟨hy, hl⟩
    obtain ⟨hpos, hpos'⟩ := List.forall_mem_cons.mp hpos
    refine List.pairwise_cons.mpr ⟨fun z hz => ?_, ih hpos' hl⟩
    have := hl.le_off z hz
    omega

theorem exists_first_cover (hne : m ≠ []) (h : m ⊆ l) :
    ∃ l₁ a l₂, l = l₁ ++ a :: l₂ ∧ ¬ m ⊆ l₁ ∧ m ⊆ l₁ ++ [a] := by
  induction l using List.reverseRecOn with
  | nil => exact absurd (List.subset_nil.mp h) hne
  | append_singleton l a ih =>
    by_cases hl : m ⊆ l
    · obtain ⟨l₁, a', l₂, rfl, hnot, hall⟩ := ih hl
      exact ⟨l₁, a', l₂ ++ [a], by rw [List.append_assoc, List.cons_append], hnot, hall⟩
    · exact ⟨l, a, [], rfl, hl, h⟩

end

end Segments
