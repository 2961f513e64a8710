import SoftBus.Lib.Word

/-!
# FILLP sequence numbers

Sequence and packet numbers are 32-bit words that wrap. They are compared by
the sign of their difference, so two positions of a stream less than 2^31 bytes
apart compare as the positions do.
-/

namespace SoftBus

def fillpNumIsbigger (value1 value2 : BitVec 32) : Bool := 0 < (value1 - value2).toInt

def seqAt (base : BitVec 32) (n : Nat) : BitVec 32 := base + BitVec.ofNat 32 n

theorem seqAt_sub_toInt (base : BitVec 32) {m n : Nat} (h₁ : m < n + 2147483648) (h₂ : n < m + 2147483648) :
    (seqAt base m - seqAt base n).toInt = (m : Int) - n := by
  have hsub : seqAt base m - seqAt base n = BitVec.ofNat 32 m - BitVec.ofNat 32 n := by
    unfold seqAt
    exact add_sub_add_left_eq_sub _ _ _
  rw [hsub, BitVec.toInt_sub, BitVec.toInt_ofNat', BitVec.toInt_ofNat', Int.bmod_sub_bmod, Int.sub_bmod_bmod,
    Int.bmod_def]
  split <;> omega

theorem fillpNumIsbigger_seqAt (base : BitVec 32) {m n : Nat} (h₁ : m < n + 2147483648)
    (h₂ : n < m + 2147483648) : fillpNumIsbigger (seqAt base m) (seqAt base n) = true ↔ n < m := by
  unfold fillpNumIsbigger
  rw [seqAt_sub_toInt base h₁ h₂, decide_eq_true_iff]
  omega

/-! ## Numbers of a window -/

def seqPos (base x : BitVec 32) : Nat := (x - base).toNat

def InWindow (base x : BitVec 32) : Prop := seqPos base x < 2147483648

instance (base x : BitVec 32) : Decidable (InWindow base x) := inferInstanceAs (Decidable (_ < _))

theorem seqAt_seqPos (base x : BitVec 32) : seqAt base (seqPos base x) = x := by
  unfold seqAt seqPos
  rw [BitVec.ofNat_toNat, BitVec.setWidth_eq, BitVec.add_comm, BitVec.sub_add_cancel]

theorem seqPos_seqAt (base : BitVec 32) {n : Nat} (h : n < 4294967296) : seqPos base (seqAt base n) = n := by
  unfold seqAt seqPos
  rw [add_sub_cancel_left, BitVec.toNat_ofNat, Nat.mod_eq_of_lt h]

theorem seqPos_inj {base x y : BitVec 32} (h : seqPos base x = seqPos base y) : x = y := by
  rw [← seqAt_seqPos base x, h, seqAt_seqPos]

theorem seqPos_lt (base x : BitVec 32) : seqPos base x < 4294967296 := (x - base).isLt

theorem InWindow.isbigger_iff {base x y : BitVec 32} (hx : InWindow base x) (hy : InWindow base y) :
    fillpNumIsbigger x y = true ↔ seqPos base y < seqPos base x := by
  unfold InWindow at hx hy
  have h := fillpNumIsbigger_seqAt base (m := seqPos base x) (n := seqPos base y) (by omega) (by omega)
  rwa [seqAt_seqPos, seqAt_seqPos] at h

theorem InWindow.isbigger_eq_false_iff {base x y : BitVec 32} (hx : InWindow base x) (hy : InWindow base y) :
    fillpNumIsbigger x y = false ↔ seqPos base x ≤ seqPos base y := by
  rw [← Bool.not_eq_true, hx.isbigger_iff hy, Nat.not_lt]

theorem toNat_sub_eq_seqPos {base x y : BitVec 32} (h : seqPos base y ≤ seqPos base x) :
    (x - y).toNat = seqPos base x - seqPos base y := by
  have hsub : x - y = (x - base) - (y - base) := (sub_sub_sub_cancel_right x y base).symm
  rw [hsub]
  exact BitVec.toNat_sub_of_le (BitVec.le_def.mpr h)

end SoftBus
