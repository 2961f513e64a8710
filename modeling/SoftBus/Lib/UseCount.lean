import Mathlib.Data.List.Count
import Mathlib.Data.List.Perm.Basic
import SoftBus.Lib.FirstMatch

/-!
# Tables of use counts

A table has an entry for every key that is in use, and the entry counts its users.
A new user raises the count or makes the entry; a user that goes lowers it, and the
entry goes with the last one.
-/

namespace UseCount

section
variable {α κ : Type} [DecidableEq κ]

structure Counts (key : α → κ) (ref : α → Nat) (l : List α) (users : List κ) : Prop where
  nodup : (l.map key).Nodup
  ref_eq : ∀ x ∈ l, ref x = users.count (key x)
  mem : ∀ k, k ∈ l.map key ↔ k ∈ users

variable {key : α → κ} {ref : α → Nat} {l : List α} {users users' : List κ} {k : κ} {f : α → α}

/-! ## The entry of a key -/

theorem map_eraseP_key (l : List α) (k : κ) : (l.eraseP (key · = k)).map key = (l.map key).erase k := by
  rw [List.erase_eq_eraseP', List.eraseP_map]
  rfl

theorem find?_mem {x : α} (h : l.find? (key · = k) = some x) : x ∈ l ∧ key x = k :=
  ⟨List.mem_of_find?_eq_some h, by simpa using List.find?_some h⟩

theorem perm_filter_ne : ∀ {l : List α}, (l.map key).Nodup → ∀ {x : α}, x ∈ l → l.Perm (x :: l.filter (key · ≠ key x))
  | y :: l, hnodup, x, hx => by
    obtain ⟨hy, hnodup⟩ := List.nodup_cons.mp hnodup
    rcases List.mem_cons.mp hx with rfl | hx
    · have hall : l.filter (key · ≠ key x) = l := by
        refine List.filter_eq_self.mpr fun z hz => ?_
        have hne : key z ≠ key x := fun heq => hy (heq ▸ List.mem_map_of_mem hz)
        simpa using hne
      rw [List.filter_cons_of_neg (by simp), hall]
    · have hne : key y ≠ key x := fun heq => hy (heq ▸ List.mem_map_of_mem hx)
      rw [List.filter_cons_of_pos (by simpa using hne)]
      exact ((perm_filter_ne hnodup hx).cons y).trans (.swap x y _)

namespace Counts

theorem nil : Counts key ref [] [] := ⟨List.nodup_nil, fun _ hx => absurd hx List.not_mem_nil, fun _ => Iff.rfl⟩

theorem perm (h : Counts key ref l users) (hperm : users'.Perm users) : Counts key ref l users' :=
  ⟨h.nodup, fun x hx => (h.ref_eq x hx).trans (hperm.count_eq _).symm, fun k => (h.mem k).trans hperm.mem_iff.symm⟩

theorem map_key (hf : ∀ x, key (f x) = key x) (l : List α) (k : κ) :
    (FirstMatch.modify (key · = k) f l).map key = l.map key :=
  FirstMatch.map_modify key fun x _ _ => hf x

theorem insert (h : Counts key ref l users) {x : α} (hnew : l.find? (key · = key x) = none) (hx : ref x = 1) :
    Counts key ref (x :: l) (key x :: users) := by
  have hkey : key x ∉ l.map key := by
    intro hmem
    obtain ⟨y, hy, heq⟩ := List.mem_map.mp hmem
    exact absurd heq (by simpa using List.find?_eq_none.mp hnew y hy)
  refine ⟨List.nodup_cons.mpr ⟨hkey, h.nodup⟩, fun y hy => ?_, fun k => ?_⟩
  · rcases List.mem_cons.mp hy with rfl | hy
    · rw [hx, List.count_cons_self, List.count_eq_zero.mpr fun hmem => hkey ((h.mem _).mpr hmem)]
    · have hne : key x ≠ key y := fun heq => hkey (heq ▸ List.mem_map_of_mem hy)
      rw [h.ref_eq y hy, List.count_cons_of_ne hne]
  · rw [List.map_cons, List.mem_cons, List.mem_cons, h.mem k]

theorem raise (h : Counts key ref l users) {x : α} (hx : l.find? (key · = k) = some x) (hf : ∀ x, key (f x) = key x)
    (href : ∀ x, ref (f x) = ref x + 1) : Counts key ref (FirstMatch.modify (key · = k) f l) (k :: users) := by
  obtain ⟨hmem, hkey⟩ := find?_mem hx
  refine ⟨by rw [map_key hf]; exact h.nodup, fun y hy => ?_, fun k' => ?_⟩
  · rcases FirstMatch.mem_modify_key h.nodup hy with ⟨hy, hne⟩ | ⟨z, hz, hk, rfl⟩
    · rw [h.ref_eq y hy, List.count_cons_of_ne (Ne.symm hne)]
    · rw [href, hf, hk, List.count_cons_self, h.ref_eq z hz, hk]
  · rw [map_key hf, h.mem k', List.mem_cons]
    refine ⟨.inr, fun hk' => hk'.elim (fun heq => ?_) id⟩
    rw [heq, ← h.mem, ← hkey]
    exact List.mem_map_of_mem hmem

theorem remove (h : Counts key ref l (k :: users)) {x : α} (hx : l.find? (key · = k) = some x) (hlast : ref x - 1 = 0) :
    Counts key ref (l.eraseP (key · = k)) users := by
  obtain ⟨hmem, hkey⟩ := find?_mem hx
  have hcount := h.ref_eq x hmem
  rw [hkey, List.count_cons_self] at hcount
  have hgone : k ∉ users := List.count_eq_zero.mp (by omega)
  have hkeys : ∀ k', k' ∈ (l.eraseP (key · = k)).map key ↔ k' ≠ k ∧ k' ∈ l.map key := by
    intro k'
    rw [map_eraseP_key]
    exact h.nodup.mem_erase_iff
  refine ⟨(List.eraseP_sublist.map key).nodup h.nodup, fun y hy => ?_, fun k' => ?_⟩
  · have hne := ((hkeys (key y)).mp (List.mem_map_of_mem hy)).1
    rw [h.ref_eq y (List.mem_of_mem_eraseP hy), List.count_cons_of_ne (Ne.symm hne)]
  · rw [hkeys k', h.mem k', List.mem_cons]
    constructor
    · rintro ⟨hne, heq | hk'⟩
      · exact absurd heq hne
      · exact hk'
    · intro hk'
      exact ⟨fun heq => hgone (heq ▸ hk'), .inr hk'⟩

theorem lower (h : Counts key ref l (k :: users)) {x : α} (hx : l.find? (key · = k) = some x) (hmore : ¬ ref x - 1 = 0)
    (hf : ∀ x, key (f x) = key x) (href : ∀ x, ref (f x) = ref x - 1) :
    Counts key ref (FirstMatch.modify (key · = k) f l) users := by
  obtain ⟨hmem, hkey⟩ := find?_mem hx
  have hcount := h.ref_eq x hmem
  rw [hkey, List.count_cons_self] at hcount
  have hleft : k ∈ users := List.count_pos_iff.mp (by omega)
  refine ⟨by rw [map_key hf]; exact h.nodup, fun y hy => ?_, fun k' => ?_⟩
  · rcases FirstMatch.mem_modify_key h.nodup hy with ⟨hy, hne⟩ | ⟨z, hz, hk, rfl⟩
    · rw [h.ref_eq y hy, List.count_cons_of_ne (Ne.symm hne)]
    · rw [href, hf, hk, h.ref_eq z hz, hk, List.count_cons_self]
      omega
  · rw [map_key hf, h.mem k', List.mem_cons]
    exact ⟨fun hk' => hk'.elim (fun heq => heq ▸ hleft) id, .inr⟩

end Counts

end

end UseCount
