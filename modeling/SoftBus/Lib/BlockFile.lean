import Mathlib.Data.List.Nodup
import Mathlib.Data.List.Perm.Subperm
import Mathlib.Data.List.Range

/-!
# Files written in blocks

A file is the list of its elements. `pwrite` may overwrite, extend, and leave
a hole, which reads as `z`.

Where it matters which places were written at all, and blocks come in any order,
a file is a function to options: `ofBlocks` is the file that has some blocks of a
range of the source.
-/

namespace BlockFile

section
variable {α : Type}

def pread (f : List α) (len off : Nat) : List α := (f.drop off).take len

def pwrite (z : α) (f d : List α) (off : Nat) : List α :=
  match d with
  | [] => f
  | _ :: _ => f.take off ++ (List.replicate (off - f.length) z ++ (d ++ f.drop (off + d.length)))

@[simp] theorem length_pread (f : List α) (len off : Nat) : (pread f len off).length = min len (f.length - off) := by
  simp [pread]

end

/-! ## Blocks in any order -/

theorem nodup_iff_of_lt {l : List Nat} {n : Nat} (hlen : l.length = n) (hlt : ∀ x ∈ l, x < n) :
    l.Nodup ↔ ∀ x < n, x ∈ l := by
  constructor
  · intro hnodup x hx
    have hsub : l.Subperm (List.range n) := hnodup.subperm fun x hx => List.mem_range.mpr (hlt x hx)
    have hperm := hsub.perm_of_length_le (by rw [List.length_range, hlen])
    exact hperm.mem_iff.mpr (List.mem_range.mpr hx)
  · intro hall
    have hsub : (List.range n).Subperm l := List.nodup_range.subperm fun x hx => hall x (List.mem_range.mp hx)
    have hperm := hsub.perm_of_length_le (by rw [List.length_range, hlen])
    exact hperm.nodup_iff.mp List.nodup_range

section
variable {α : Type}

def writeAt (f : Nat → Option α) (d : List α) (off : Nat) : Nat → Option α :=
  fun i => if off ≤ i ∧ i < off + d.length then d[i - off]? else f i

def ofBlocks (src : List α) (start size B : Nat) (blocks : List Nat) : Nat → Option α :=
  fun i => if start ≤ i ∧ i < start + size ∧ (i - start) / B ∈ blocks then src[i]? else none

variable {src : List α} {start size B : Nat} {blocks : List Nat}

theorem ofBlocks_nil : ofBlocks src start size B [] = fun _ => none := by
  funext i
  simp [ofBlocks]

theorem writeAt_ofBlocks (hB : 0 < B) {b len : Nat} (hlen : len = min B (size - b * B))
    (hsrc : start + b * B + len ≤ src.length) :
    writeAt (ofBlocks src start size B blocks) (pread src len (start + b * B)) (start + b * B) =
      ofBlocks src start size B (b :: blocks) := by
  funext i
  unfold writeAt ofBlocks
  have hread : (pread src len (start + b * B)).length = len := by rw [length_pread]; omega
  rw [hread]
  by_cases hin : start + b * B ≤ i ∧ i < start + b * B + len
  · have hdiv : (i - start) / B = b := Nat.div_eq_of_lt_le (by omega) (by rw [Nat.succ_mul]; omega)
    rw [if_pos hin, if_pos ⟨by omega, by omega, by simp [hdiv]⟩, pread, List.getElem?_take, if_pos (by omega),
        List.getElem?_drop,
      Nat.add_sub_cancel' hin.1]
  · rw [if_neg hin]
    refine if_congr ?_ rfl rfl
    refine and_congr_right fun hle => and_congr_right fun hlt => ?_
    rw [List.mem_cons, iff_or_self]
    rintro rfl
    have := Nat.div_mul_le_self (i - start) B
    have := Nat.lt_div_mul_add (a := i - start) hB
    omega

theorem ofBlocks_eq_iff (hB : 0 < B) (hsrc : ∀ b ∈ blocks, start + b * B + min B (size - b * B) ≤ src.length) :
    (∀ i, start ≤ i → i < start + size → ∃ a, src[i]? = some a ∧ ofBlocks src start size B blocks i = some a) ↔
      ∀ b, b * B < size → b ∈ blocks := by
  constructor
  · intro h b hb
    obtain ⟨a, _, ha⟩ := h (start + b * B) (by omega) (by omega)
    unfold ofBlocks at ha
    split at ha
    · rename_i hin
      rw [Nat.add_sub_cancel_left, Nat.mul_div_cancel b hB] at hin
      exact hin.2.2
    · cases ha
  · intro h i hle hlt
    have hlow := Nat.div_mul_le_self (i - start) B
    have hhigh := Nat.lt_div_mul_add (a := i - start) hB
    have hmem := h ((i - start) / B) (by omega)
    have := hsrc _ hmem
    have hi : i < src.length := by omega
    exact ⟨src[i], List.getElem?_eq_getElem hi, by rw [ofBlocks, if_pos ⟨hle, hlt, hmem⟩, List.getElem?_eq_getElem hi]⟩

end

end BlockFile
