import Mathlib.Data.List.Basic

/-!
# Frames on a stream

Frames go out on a stream that takes any number of bytes at a time. A `Wire` has the
bytes that were written and the frames in the order of their first bytes. `Whole` says
that these are the bytes of the frames, up to what is left of the last one.
-/

namespace Framing

structure Wire (φ α : Type) where
  written : List α := []
  begun : List φ := []
deriving DecidableEq, Repr

section
variable {φ α : Type} {bytes : φ → List α} {w : Wire φ α}

/-- `k` more bytes of a frame of which `sent` are out. -/
def Wire.write (bytes : φ → List α) (w : Wire φ α) (f : φ) (sent k : Nat) : Wire φ α where
  written := w.written ++ ((bytes f).drop sent).take k
  begun := if sent = 0 then w.begun ++ [f] else w.begun

def Whole (bytes : φ → List α) (w : Wire φ α) (rest : List α) : Prop := w.written ++ rest = w.begun.flatMap bytes

def rest (bytes : φ → List α) (f : φ) (sent : Nat) : List α := if sent = 0 then [] else (bytes f).drop sent

theorem Whole.isPrefix {r : List α} (h : Whole bytes w r) : w.written <+: w.begun.flatMap bytes :=
  ⟨r, h⟩

theorem Whole.write {w : Wire φ α} {f : φ} {sent : Nat} (h : Whole bytes w (rest bytes f sent)) (k : Nat) :
    Whole bytes (w.write bytes f sent k) ((bytes f).drop (sent + k)) := by
  unfold Whole Wire.write
  have hsplit : ((bytes f).drop sent).take k ++ (bytes f).drop (sent + k) = (bytes f).drop sent := by
    rw [← List.drop_drop, List.take_append_drop]
  rw [List.append_assoc, hsplit]
  by_cases hsent : sent = 0
  · rw [Whole, rest, if_pos hsent, List.append_nil] at h
    rw [if_pos hsent, List.flatMap_append, ← h, hsent]
    simp
  · rw [Whole, rest, if_neg hsent] at h
    rw [if_neg hsent, h]

theorem Whole.write_all {f : φ} {sent : Nat} (h : Whole bytes w (rest bytes f sent)) {k : Nat}
    (hk : (bytes f).length ≤ sent + k) : Whole bytes (w.write bytes f sent k) [] := by
  have := h.write k
  rwa [List.drop_eq_nil_of_le hk] at this

theorem Whole.write_part {f : φ} {sent : Nat} (h : Whole bytes w (rest bytes f sent)) {k : Nat} (hk : 0 < k) :
    Whole bytes (w.write bytes f sent k) (rest bytes f (sent + k)) := by
  rw [rest, if_neg (by omega)]
  exact h.write k

end

end Framing
