import SoftBus.Common
import SoftBus.Lib.Run

/-!
# Info containers of Wi-Fi Direct

A container has one entry for each key of its table. An entry holds bytes, a
nested container or an array of nested containers, and `Remove` puts an empty
value in the way that the flag of the key says. For a nested container this
empties the container but leaves it in the entry.

The type of the nested containers is a parameter, with the methods that the
code calls through pointers. A call that takes something else for a container
has no next state.
-/

namespace SoftBus

def containerFlag : BitVec 32 := 1 <<< 0

def containerArrayFlag : BitVec 32 := 1 <<< 1

/-- The methods of a nested container: `destructor`, and what `deepCopy` makes of a container whose entries
were set to `NULL`. -/
structure InfoMethods (C : Type) where
  destructor : C → C
  deepCopy : C → C

inductive InfoData (C : Type) where
  | raw (bytes : List UInt8)
  | container (c : C)
  -- Containers of one size, one behind the other.
  | containerArray (containerSize : Nat) (cs : List C)
deriving DecidableEq, Repr

structure InfoEntry (C : Type) where
  data : Option (InfoData C) := none
  count : Nat := 0
  size : Nat := 0
  remove : Bool := false
deriving DecidableEq, Repr

section
variable {C : Type} (methods : InfoMethods C)

def InfoData.containerAt : InfoData C → Nat → Bool
  | .raw _, _ => false
  | .container _, offset => offset == 0
  | .containerArray containerSize cs, offset => (List.range cs.length).any (offset == · * containerSize)

/-- A call of `destructor` on the start of the memory. -/
def InfoData.destructFirst : InfoData C → Option (InfoData C)
  | .container c => some (.container (methods.destructor c))
  | .containerArray containerSize (c :: cs) => some (.containerArray containerSize (methods.destructor c :: cs))
  | _ => none

namespace InfoEntry

section
variable (entry : InfoEntry C)

/-- `PutRawData`; `alloc` tells whether there is memory, and `memcpy_s` copies no more than its limit. -/
def putRawData (value : Option (InfoData C)) (size : Nat) (alloc : Bool) : InfoEntry C :=
  match value with
  | none => { entry with data := none }
  | some value =>
    if size = 0 then { entry with data := none }
    else if alloc ∧ size ≤ 0x7fffffff then { entry with data := some value, size := size, remove := false }
    else { entry with data := none }

def putBytes (bytes : List UInt8) (alloc : Bool) : InfoEntry C :=
  entry.putRawData (some (.raw bytes)) bytes.length alloc

def putInt (value : BitVec 32) (alloc : Bool) : InfoEntry C :=
  entry.putBytes (Bytes.put 4 value.toNat) alloc

def putBoolean (value : Bool) (alloc : Bool) : InfoEntry C :=
  entry.putBytes [if value then 1 else 0] alloc

def putPointer (ptr : BitVec 64) (alloc : Bool) : InfoEntry C :=
  entry.putBytes (Bytes.put 8 ptr.toNat) alloc

def putString (value : List UInt8) (alloc : Bool) : InfoEntry C :=
  entry.putBytes (value ++ [0]) alloc

def putIntArray (array : List (BitVec 32)) (alloc : Bool) : InfoEntry C :=
  entry.putBytes (array.flatMap fun value => Bytes.put 4 value.toNat) alloc

/-- `PutContainer` after the call of `destructor`. -/
def setContainer (value : Option C) (size : Nat) (alloc : Bool) : InfoEntry C :=
  match value with
  | none => entry
  | some value => entry.putRawData (some (.container (methods.deepCopy value))) size alloc

def putContainer (value : Option C) (size : Nat) (alloc : Bool) : Option (InfoEntry C) :=
  match entry.data with
  | none => some (entry.setContainer methods value size alloc)
  | some data => (data.destructFirst methods).map fun data =>
      { entry with data := some data }.setContainer methods value size alloc

/-- The loop over the old array finds a container at each step. -/
def destructible (containerSize : Nat) : Bool :=
  (List.range entry.count).all fun i => entry.data.any (·.containerAt (i * containerSize))

/-- `PutContainerArray` after the loop over the old array. -/
def setContainerArray (containerArray : Option (List C)) (containerSize : Nat) (alloc : Bool) : InfoEntry C :=
  match containerArray with
  | none => { entry.putRawData none 0 alloc with count := 0, size := 0 }
  | some cs =>
    { entry.putRawData (some (.containerArray containerSize (cs.map methods.deepCopy))) (containerSize * cs.length) alloc
      with count := cs.length }

def putContainerArray (containerArray : Option (List C)) (containerSize : Nat) (alloc : Bool) : Option (InfoEntry C) :=
  if entry.destructible containerSize then some (entry.setContainerArray methods containerArray containerSize alloc)
  else none

/-- `Remove`, for a key with the given flag. -/
def removeData (flag : BitVec 32) : Option (InfoEntry C) :=
  if flag = containerFlag then entry.putContainer methods none 0 true
  else if flag = containerArrayFlag then entry.putContainerArray methods none 0 true
  else some (entry.putRawData none 0 true)

end

end InfoEntry

/-! ## Containers -/

/-- The entries of a container with `n` keys. -/
structure InfoContainer (C : Type) (n : Nat) where
  entries : Fin n → InfoEntry C := fun _ => {}

namespace InfoContainer

variable {n : Nat} (flags : Fin n → BitVec 32) (self : InfoContainer C n)

def get (key : Fin n) : Option (InfoData C) := (self.entries key).data

def setEntry (key : Fin n) (entry : InfoEntry C) : InfoContainer C n :=
  ⟨Function.update self.entries key entry⟩

def remove (self : InfoContainer C n) (key : Fin n) : Option (InfoContainer C n) :=
  ((self.entries key).removeData methods (flags key)).map fun entry => self.setEntry key { entry with remove := true }

def emptyFrom (self : InfoContainer C n) : List (Fin n) → Bool
  | [] => true
  | key :: keys => if (self.get key).isSome then false else emptyFrom self keys

def isEmpty : Bool := self.emptyFrom (List.finRange n)

end InfoContainer

inductive InfoOp (C : Type) (n : Nat) where
  | putInt (key : Fin n) (value : BitVec 32) (alloc : Bool)
  | putBoolean (key : Fin n) (value alloc : Bool)
  | putPointer (key : Fin n) (ptr : BitVec 64) (alloc : Bool)
  | putString (key : Fin n) (value : List UInt8) (alloc : Bool)
  | putIntArray (key : Fin n) (array : List (BitVec 32)) (alloc : Bool)
  | putRawData (key : Fin n) (value : Option (List UInt8)) (alloc : Bool)
  | putContainer (key : Fin n) (value : Option C) (size : Nat) (alloc : Bool)
  | putContainerArray (key : Fin n) (containerArray : Option (List C)) (containerSize : Nat) (alloc : Bool)
  | remove (key : Fin n)

variable {n : Nat} (flags : Fin n → BitVec 32)

def InfoContainer.call (self : InfoContainer C n) : InfoOp C n → Option (InfoContainer C n)
  | .putInt key value alloc => some (self.setEntry key ((self.entries key).putInt value alloc))
  | .putBoolean key value alloc => some (self.setEntry key ((self.entries key).putBoolean value alloc))
  | .putPointer key ptr alloc => some (self.setEntry key ((self.entries key).putPointer ptr alloc))
  | .putString key value alloc => some (self.setEntry key ((self.entries key).putString value alloc))
  | .putIntArray key array alloc => some (self.setEntry key ((self.entries key).putIntArray array alloc))
  | .putRawData key value alloc =>
    some (self.setEntry key ((self.entries key).putRawData (value.map .raw) (value.elim 0 List.length) alloc))
  | .putContainer key value size alloc =>
    ((self.entries key).putContainer methods value size alloc).map (self.setEntry key)
  | .putContainerArray key containerArray containerSize alloc =>
    ((self.entries key).putContainerArray methods containerArray containerSize alloc).map (self.setEntry key)
  | .remove key => self.remove methods flags key

/-- A sequence of calls, as long as each of them returns. -/
def InfoContainer.step (s : Option (InfoContainer C n)) (op : InfoOp C n) : Option (InfoContainer C n) :=
  s.bind (·.call methods flags op)

/-! ## Removal -/

namespace InfoContainer

/-- The key is gone, all others are as they were, and the container is empty just when no key is there. -/
structure Removed (c : InfoContainer C n) (key : Fin n) (c' : InfoContainer C n) : Prop where
  gone : c'.get key = none
  others : ∀ k, k ≠ key → c'.entries k = c.entries k
  empty : c'.isEmpty = true ↔ ∀ k, c'.get k = none

theorem get_setEntry (c : InfoContainer C n) (key : Fin n) (entry : InfoEntry C) :
    (c.setEntry key entry).get key = entry.data := by
  unfold get setEntry
  dsimp only
  rw [Function.update_self]

theorem emptyFrom_iff (self : InfoContainer C n) : ∀ keys : List (Fin n),
    self.emptyFrom keys = true ↔ ∀ k ∈ keys, self.get k = none
  | [] => by simp [emptyFrom]
  | key :: keys => by
    rw [emptyFrom, List.forall_mem_cons, ← emptyFrom_iff self keys]
    cases h : self.get key <;> simp

theorem isEmpty_iff (self : InfoContainer C n) : self.isEmpty = true ↔ ∀ k, self.get k = none := by
  rw [isEmpty, emptyFrom_iff]
  exact ⟨fun h k => h k (List.mem_finRange k), fun h k _ => h k⟩

end InfoContainer

theorem putRawData_none (entry : InfoEntry C) (size : Nat) (alloc : Bool) :
    (entry.putRawData none size alloc).data = none := rfl

theorem removeData_data (entry : InfoEntry C) (flag : BitVec 32) :
    (∃ entry', entry.removeData methods flag = some entry' ∧ entry'.data = none) ↔
      (flag = containerFlag → entry.data = none) ∧
        (flag = containerArrayFlag → entry.destructible 0 = true) := by
  have hflags : containerArrayFlag ≠ containerFlag := by decide
  unfold InfoEntry.removeData
  by_cases hcontainer : flag = containerFlag
  · rw [if_pos hcontainer, InfoEntry.putContainer]
    cases hdata : entry.data with
    | none =>
      refine iff_of_true ⟨entry, rfl, hdata⟩ ⟨fun _ => rfl, fun h => absurd (h.symm.trans hcontainer) hflags⟩
    | some data =>
      refine iff_of_false ?_ fun h => nomatch h.1 hcontainer
      rintro ⟨entry', hsome, hnone⟩
      obtain ⟨data', -, rfl⟩ := Option.map_eq_some_iff.mp hsome
      cases hnone
  · rw [if_neg hcontainer]
    by_cases harray : flag = containerArrayFlag
    · rw [if_pos harray, InfoEntry.putContainerArray]
      split
      · rename_i hok
        exact iff_of_true ⟨_, rfl, putRawData_none entry 0 true⟩ ⟨fun h => absurd h hcontainer, fun _ => hok⟩
      · rename_i hbad
        exact iff_of_false nofun fun h => hbad (h.2 harray)
    · rw [if_neg harray]
      exact iff_of_true ⟨_, rfl, putRawData_none entry 0 true⟩
        ⟨fun h => absurd h hcontainer, fun h => absurd h harray⟩

end

/-- A removal does what it should if and only if the key does not hold a nested container under the flag for
one, and, under the flag for an array, the count of the entry goes with a container at its start. -/
theorem info_container_remove_iff {C : Type} (methods : InfoMethods C) {n : Nat} (flags : Fin n → BitVec 32)
    (self : InfoContainer C n) (key : Fin n) :
    (∃ self', self.remove methods flags key = some self' ∧ self.Removed key self') ↔
      (flags key = containerFlag → self.get key = none) ∧
        (flags key = containerArrayFlag → (self.entries key).destructible 0 = true) := by
  rw [InfoContainer.get, ← removeData_data methods]
  unfold InfoContainer.remove
  constructor
  · rintro ⟨self', hsome, hremoved⟩
    obtain ⟨entry, hentry, rfl⟩ := Option.map_eq_some_iff.mp hsome
    have hgone := hremoved.gone
    rw [InfoContainer.get_setEntry] at hgone
    exact ⟨entry, hentry, hgone⟩
  · rintro ⟨entry, hentry, hdata⟩
    refine ⟨_, by rw [hentry, Option.map_some], ?_, ?_, InfoContainer.isEmpty_iff _⟩
    · rw [InfoContainer.get_setEntry]
      exact hdata
    · intro k hk
      exact Function.update_of_ne hk _ _

/-- A nested container, here a list of its entries, that was put and removed is still there, without its
entries. After an array could not be stored its count stays, and the removal calls `destructor` through `NULL`. -/
theorem info_container_remove_fails :
    let methods : InfoMethods (List (List UInt8)) := ⟨fun _ => [], id⟩
    let flags : Fin 2 → BitVec 32 := fun key => if key = 0 then containerFlag else containerArrayFlag
    (∃ self, Run.final (InfoContainer.step methods flags) (some {})
        [.putContainer 0 (some [[1, 2]]) 64 true, .remove 0] = some self ∧
      self.get 0 = some (.container []) ∧ self.isEmpty = false) ∧
    (Run.final (InfoContainer.step methods flags) (some {})
        [.putContainerArray 1 (some [[], []]) 64 false, .remove 1]).isNone = true :=
  ⟨⟨_, rfl, rfl, rfl⟩, rfl⟩

end SoftBus
