import Mathlib.Data.BitVec

/-!
# 32-bit words as wrapping integers

Subtraction and increment of 32-bit words, read signed and unsigned, in a
form linear arithmetic can use.
-/

namespace Word

/-- An integer cast to 32 bits, signed. The literal stands first: `n + 2147483648`
is unfolded one successor at a time where two casts are compared. -/
def int32 (x : Int) : Int := (2147483648 + x) % 4294967296 - 2147483648

theorem int32_of_bounds {x : Int} (h₁ : -2147483648 ≤ x) (h₂ : x < 2147483648) : int32 x = x := by
  unfold int32
  omega

theorem toInt_bounds (x : BitVec 32) : -2147483648 ≤ x.toInt ∧ x.toInt < 2147483648 := by
  have hle := BitVec.le_two_mul_toInt (x := x)
  have hlt := BitVec.two_mul_toInt_lt (x := x)
  omega

theorem toInt_sub (x y : BitVec 32) :
    (x - y).toInt = (x.toInt - y.toInt + 2147483648) % 4294967296 - 2147483648 := by
  rw [BitVec.toInt_sub, Int.bmod_def]
  split <;> omega

theorem toNat_sub (x y : BitVec 32) : ((x - y).toNat : Int) = (x.toInt - y.toInt) % 4294967296 := by
  have hx := BitVec.toInt_eq_toNat_cond x
  have hy := BitVec.toInt_eq_toNat_cond y
  have hxl := x.isLt
  have hyl := y.isLt
  rw [BitVec.toNat_sub]
  split at hx <;> split at hy <;> omega

theorem toInt_add_one (x : BitVec 32) :
    (x + 1).toInt = (x.toInt + 1 + 2147483648) % 4294967296 - 2147483648 := by
  rw [BitVec.toInt_add, Int.bmod_def]
  have : (1 : BitVec 32).toInt = 1 := by decide
  rw [this]
  split <;> omega

theorem eq_iff (x y : BitVec 32) : x = y ↔ x.toInt = y.toInt := BitVec.toInt_inj.symm

/-! ## Single bits -/

theorem and_bit_ne_zero {w : Nat} (b : BitVec w) (k : Nat) :
    b &&& (1#w <<< k) ≠ 0 ↔ b.getLsbD k = true := by
  rw [← BitVec.twoPow_eq, BitVec.and_twoPow]
  cases hk : b.getLsbD k with
  | false => simp
  | true =>
    have hlt : k < w := BitVec.lt_of_getLsbD hk
    simp only [if_true, iff_true]
    intro h
    have : (BitVec.twoPow w k).getLsbD k = false := by rw [h]; simp
    simp [hlt] at this

theorem getLsbD_or_bit {w : Nat} (b : BitVec w) (k j : Nat) (hk : k < w) :
    (b ||| (1#w <<< k)).getLsbD j = (b.getLsbD j || decide (k = j)) := by
  rw [← BitVec.twoPow_eq, BitVec.getLsbD_or, BitVec.getLsbD_twoPow]
  simp [hk]

end Word
