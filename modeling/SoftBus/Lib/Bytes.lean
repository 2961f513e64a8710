import SoftBus.Lib.Word

/-!
# Numbers in byte strings

Lowest byte first, unless a name says `Big`.
-/

namespace Bytes

def put : Nat → Nat → List UInt8
  | 0, _ => []
  | k + 1, n => UInt8.ofNat n :: put k (n / 256)

def get : List UInt8 → Nat
  | [] => 0
  | b :: l => b.toNat + 256 * get l

def read (k : Nat) (l : List UInt8) : Nat := get (l.take k)

def putInt32 (x : Int) : List UInt8 := put 4 (x % 4294967296).toNat

def readInt32 (l : List UInt8) : Int := Word.int32 (read 4 l)

@[simp] theorem length_put : ∀ k n : Nat, (put k n).length = k
  | 0, _ => rfl
  | k + 1, n => by rw [put, List.length_cons, length_put k]

theorem get_put : ∀ k n : Nat, get (put k n) = n % 256 ^ k
  | 0, n => by simp [put, get, Nat.mod_one]
  | k + 1, n => by
    rw [put, get, get_put k, pow_succ', Nat.mod_mul, UInt8.toNat_ofNat']

theorem get_lt : ∀ l : List UInt8, get l < 256 ^ l.length
  | [] => by simp [get]
  | b :: l => by
    have := get_lt l
    have := b.toNat_lt
    rw [get, List.length_cons, pow_succ]; omega

theorem read_put_append {k n : Nat} (h : n < 256 ^ k) (l : List UInt8) : read k (put k n ++ l) = n := by
  rw [read, List.take_left' (length_put k n), get_put, Nat.mod_eq_of_lt h]

theorem drop_put_append (k n : Nat) (l : List UInt8) : (put k n ++ l).drop k = l :=
  List.drop_left' (length_put k n)

@[simp] theorem length_putInt32 (x : Int) : (putInt32 x).length = 4 := length_put 4 _

theorem drop_putInt32_append (x : Int) (l : List UInt8) : (putInt32 x ++ l).drop 4 = l :=
  drop_put_append 4 _ l

theorem readInt32_putInt32_append {x : Int} (h₁ : -2147483648 ≤ x) (h₂ : x < 2147483648) (l : List UInt8) :
    readInt32 (putInt32 x ++ l) = x := by
  have hlt : (x % 4294967296).toNat < 256 ^ 4 := by omega
  rw [readInt32, putInt32, read_put_append hlt, Word.int32]
  omega

/-! ## Highest byte first -/

def putBig (k n : Nat) : List UInt8 := (put k n).reverse

def readBig (k : Nat) (l : List UInt8) : Nat := get (l.take k).reverse

@[simp] theorem length_putBig (k n : Nat) : (putBig k n).length = k := by
  rw [putBig, List.length_reverse, length_put]

theorem readBig_putBig_append {k n : Nat} (h : n < 256 ^ k) (l : List UInt8) : readBig k (putBig k n ++ l) = n := by
  rw [readBig, List.take_left' (length_putBig k n), putBig, List.reverse_reverse, get_put, Nat.mod_eq_of_lt h]

theorem drop_putBig_append (k n : Nat) (l : List UInt8) : (putBig k n ++ l).drop k = l :=
  List.drop_left' (length_putBig k n)

theorem drop_putBig_append_add (k n m : Nat) (l : List UInt8) : (putBig k n ++ l).drop (k + m) = l.drop m := by
  rw [← List.drop_drop, drop_putBig_append]

end Bytes
