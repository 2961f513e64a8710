import SoftBus.Common
import SoftBus.Lib.Buckets
import SoftBus.Lib.FirstMatch
import SoftBus.Lib.Run

/-!
# The hash map

`lnn_map.c`: a table of chains that grows with the number of its nodes. It is a finite map, and a pass of an iterator
meets every entry once.

A key is the bytes of a C string without the NUL. A value is anything that has a size; `valueSize` of a node is the size
of its value. Whether there is memory for a larger table and for a node comes with a call. The table is empty where the
source has a null pointer, and `bucketSize` is its length.
-/

namespace SoftBus

structure MapNode (β : Type) where
  key : List UInt8
  hash : UInt32
  value : β
deriving DecidableEq

structure Map (β : Type) where
  nodes : List (List (MapNode β)) := []
  nodeSize : Nat := 0
deriving DecidableEq

structure MapMem where
  resize : Bool := true
  node : Bool := true

/-- BKDR hash. A `char` has no sign. -/
def mapHash (key : List UInt8) : UInt32 := (key.foldl (fun hash c => hash * 131 + c.toUInt32) 0) &&& 0x7FFFFFFF

namespace Map

variable {β : Type} (m : Map β)

def bucketSize : Nat := m.nodes.length

def mapHashIdx (hash : UInt32) : Nat := hash.toNat &&& (m.bucketSize - 1)

def mapAddNode (node : MapNode β) : Map β :=
  { m with nodes := m.nodes.modify (m.mapHashIdx node.hash) (node :: ·) }

/-- A pointer has eight bytes. -/
def mapResize (size : Nat) (mem : Bool) : Map β :=
  if !mem || maxMallocSize < size * 8 then m
  else m.nodes.flatten.foldl mapAddNode { m with nodes := List.replicate size [] }

def isKey (key : List UInt8) (node : MapNode β) : Bool := node.hash = mapHash key && node.key = key

/-- The search that `LnnMapSet`, `LnnMapGet` and `LnnMapErase` share. -/
def findNode (key : List UInt8) : Option (MapNode β) :=
  if m.nodeSize = 0 ∨ m.nodes = [] then none
  else (m.nodes.getD (m.mapHashIdx (mapHash key)) []).find? (isKey key)

/-- The value of a node is overwritten, in `LnnMapSet` or through the pointer that `LnnMapGet` returned. -/
def writeValue (key : List UInt8) (value : β) : Map β :=
  { m with nodes := m.nodes.modify (m.mapHashIdx (mapHash key)) (FirstMatch.modify (isKey key) ({ · with value })) }

/-- The table that a new node is put in. -/
def enlarged (mem : Bool) : Map β :=
  if m.bucketSize ≤ m.nodeSize then m.mapResize (if m.bucketSize < 8 then 8 else m.bucketSize * 4) mem else m

def lnnMapSet (valueSize : β → Nat) (key : List UInt8) (value : β) (mem : MapMem) : SoftbusRet × Map β :=
  if valueSize value = 0 ∨ 3000 < valueSize value ∨ 1000 < key.length then (.invalidParam, m)
  else
    match m.findNode key with
    | some node =>
      if valueSize node.value ≠ valueSize value then (.invalidParam, m)
      else (.ok, m.writeValue key value)
    | none =>
      let m := m.enlarged mem.resize
      if m.nodes = [] then (.err, m)
      else if !mem.node then (.invalidParam, m)
      else (.ok, { m.mapAddNode ⟨key, mapHash key, value⟩ with nodeSize := m.nodeSize + 1 })

def lnnMapGet (key : List UInt8) : Option β := (m.findNode key).map (·.value)

def lnnMapErase (key : List UInt8) : SoftbusRet × Map β :=
  if m.nodeSize = 0 ∨ m.nodes = [] then (.invalidParam, m)
  else
    match m.findNode key with
    | none => (.err, m)
    | some _ =>
      (.ok, { m with
        nodes := m.nodes.modify (m.mapHashIdx (mapHash key)) (·.eraseP (isKey key))
        nodeSize := m.nodeSize - 1 })

end Map

/-! ## The iterator -/

/-- `node` is the chain from the node on. -/
structure MapIterator (β : Type) where
  node : List (MapNode β) := []
  bucketNum : Nat := 0
  nodeNum : Nat := 0

namespace MapIterator

variable {β : Type} (m : Map β)

/-- The loop over the buckets from `bucketNum` on. -/
def nextBucket (it : MapIterator β) : List (List (MapNode β)) → MapIterator β
  | [] => it
  | [] :: buckets => nextBucket { it with bucketNum := it.bucketNum + 1 } buckets
  | (node :: chain) :: _ => ⟨node :: chain, it.bucketNum + 1, it.nodeNum + 1⟩

def lnnMapHasNext (it : MapIterator β) : Bool := it.nodeNum < m.nodeSize

def lnnMapNext (it : MapIterator β) : MapIterator β :=
  if it.lnnMapHasNext m then
    match it.node with
    | _ :: node :: chain => { it with nodeNum := it.nodeNum + 1, node := node :: chain }
    | _ => it.nextBucket (m.nodes.drop it.bucketNum)
  else it

/-- The nodes that at most `n` rounds of `while (LnnMapHasNext(it))` come to. -/
def visited : Nat → MapIterator β → List (MapNode β)
  | 0, _ => []
  | n + 1, it => if it.lnnMapHasNext m then (it.lnnMapNext m).node.head?.toList ++ visited n (it.lnnMapNext m) else []

end MapIterator

/-! ## The table stays sound -/

namespace Map

variable {β : Type} {m : Map β} {node : MapNode β} {key : List UInt8}

structure Sound (m : Map β) : Prop where
  placed : Buckets.Placed (fun node => m.mapHashIdx node.hash) m.nodes
  hashed : ∀ node ∈ m.nodes.flatten, node.hash = mapHash node.key
  keys : (m.nodes.flatten.map (·.key)).Nodup
  size : m.nodeSize = m.nodes.flatten.length

theorem Sound.init : Sound ({} : Map β) := ⟨nofun, nofun, List.nodup_nil, rfl⟩

theorem mapHashIdx_lt (h : m.nodes ≠ []) (hash : UInt32) : m.mapHashIdx hash < m.nodes.length := by
  have hpos := List.length_pos_iff.mpr h
  have hle : m.mapHashIdx hash ≤ m.nodes.length - 1 := Nat.and_le_right
  omega

theorem isKey_iff (hnode : node.hash = mapHash node.key) : isKey key node = true ↔ node.key = key := by
  simp only [isKey, hnode, Bool.and_eq_true, decide_eq_true_eq, and_iff_right_iff_imp]
  exact fun h => h ▸ rfl

theorem Sound.of_flatten_nil (h : Sound m) (hempty : m.nodeSize = 0 ∨ m.nodes = []) : m.nodes.flatten = [] := by
  rcases hempty with hempty | hempty
  · exact List.length_eq_zero_iff.mp (h.size ▸ hempty)
  · rw [hempty, List.flatten_nil]

theorem Sound.findNode_eq_some (h : Sound m) : m.findNode key = some node ↔ node ∈ m.nodes.flatten ∧ node.key = key := by
  rw [findNode]
  split
  case isTrue hempty => simp [h.of_flatten_nil hempty]
  case isFalse hne =>
    have hmem : ∀ x ∈ m.nodes.getD (m.mapHashIdx (mapHash key)) [], x ∈ m.nodes.flatten :=
      fun x hx => Buckets.mem_flatten_iff.mpr ⟨_, hx⟩
    have hfound : ∀ x, (m.nodes.getD (m.mapHashIdx (mapHash key)) []).find? (isKey key) = some x →
        x ∈ m.nodes.flatten ∧ x.key = key := fun x hx =>
      have hx' := hmem x (List.mem_of_find?_eq_some hx)
      ⟨hx', (isKey_iff (h.hashed x hx')).mp (List.find?_some hx)⟩
    constructor
    · exact hfound node
    · rintro ⟨hnode, rfl⟩
      have hbucket := h.placed.mem_bucket hnode
      rw [h.hashed node hnode] at hbucket
      cases hfind : (m.nodes.getD (m.mapHashIdx (mapHash node.key)) []).find? (isKey node.key) with
      | none =>
        exact absurd ((isKey_iff (h.hashed node hnode)).mpr rfl) (List.find?_eq_none.mp hfind node hbucket)
      | some x =>
        obtain ⟨hx, hkey⟩ := hfound x hfind
        rw [List.inj_on_of_nodup_map h.keys hx hnode hkey]

/-- A sound map with the nodes `l`, in some order. -/
structure Holds (m : Map β) (l : List (MapNode β)) : Prop where
  sound : Sound m
  perm : m.nodes.flatten.Perm l

theorem Holds.of_perm {l : List (MapNode β)} (hplaced : Buckets.Placed (fun node => m.mapHashIdx node.hash) m.nodes)
    (hperm : m.nodes.flatten.Perm l) (hhashed : ∀ node ∈ l, node.hash = mapHash node.key)
    (hkeys : (l.map (·.key)).Nodup) (hsize : m.nodeSize = l.length) : Holds m l :=
  ⟨⟨hplaced, fun node hnode => hhashed node (hperm.mem_iff.mp hnode), (hperm.map _).nodup_iff.mpr hkeys,
    hsize.trans hperm.length_eq.symm⟩, hperm⟩

theorem foldl_mapAddNode : ∀ (l : List (MapNode β)) (m : Map β), l.foldl mapAddNode m =
    { m with nodes := Buckets.insertAll (fun node => m.mapHashIdx node.hash) l m.nodes }
  | [], _ => rfl
  | x :: l, m => by
    have hidx : ∀ hash, (m.mapAddNode x).mapHashIdx hash = m.mapHashIdx hash := fun hash => by
      simp [mapAddNode, mapHashIdx, bucketSize]
    rw [List.foldl_cons, foldl_mapAddNode l]
    simp only [hidx]
    rfl

theorem Sound.mapResize (h : Sound m) {size : Nat} (hsize : 0 < size) (mem : Bool) :
    Holds (m.mapResize size mem) m.nodes.flatten := by
  unfold Map.mapResize
  split
  · exact ⟨h, .rfl⟩
  · generalize hempty : ({ m with nodes := List.replicate size [] } : Map β) = empty
    have hnodes : empty.nodes = List.replicate size [] := hempty ▸ rfl
    have hplaced : Buckets.Placed (fun node => empty.mapHashIdx node.hash) empty.nodes := by
      rw [hnodes]
      exact .replicate _ size
    obtain ⟨hplaced, hperm⟩ := hplaced.insertAll fun x (_ : x ∈ m.nodes.flatten) =>
      mapHashIdx_lt (by simp [hnodes, Nat.ne_of_gt hsize]) x.hash
    rw [foldl_mapAddNode]
    refine .of_perm ?_ (by simpa [hnodes] using hperm) h.hashed h.keys (by rw [← hempty]; exact h.size)
    -- the index depends on the length of the table only
    simpa only [mapHashIdx, bucketSize, Buckets.length_insertAll] using hplaced

theorem Sound.enlarged (h : Sound m) (mem : Bool) : Holds (m.enlarged mem) m.nodes.flatten := by
  unfold Map.enlarged
  split
  · refine h.mapResize ?_ mem
    split <;> omega
  · exact ⟨h, .rfl⟩

/-! ## A finite map -/

/-- The entries of the nodes are those of `f`. -/
def Entries (f : List UInt8 → Option β) (l : List (MapNode β)) : Prop :=
  ∀ key v, f key = some v ↔ ∃ node ∈ l, node.key = key ∧ node.value = v

section
variable {f : List UInt8 → Option β} {l l' : List (MapNode β)} {mem : Bool}

theorem Entries.perm (h : Entries f l) (hperm : l.Perm l') : Entries f l' := fun key v => by
  rw [h key v]
  simp only [hperm.mem_iff]

theorem Entries.eq_none (h : Entries f l) : f key = none ↔ ∀ node ∈ l, node.key ≠ key := by
  rw [Option.eq_none_iff_forall_ne_some]
  constructor
  · exact fun hnone node hnode hkey => hnone node.value ((h key _).mpr ⟨node, hnode, hkey, rfl⟩)
  · intro hall v hv
    obtain ⟨node, hnode, hkey, -⟩ := (h key v).mp hv
    exact hall node hnode hkey

theorem key_ne_of_nodup (hkeys : ((node :: l).map (·.key)).Nodup) : ∀ x ∈ l, x.key ≠ node.key := by
  intro x hx heq
  exact (List.nodup_cons.mp hkeys).1 (List.mem_map.mpr ⟨x, hx, heq⟩)

theorem Entries.tail (h : Entries f (node :: l)) (hkeys : ((node :: l).map (·.key)).Nodup) :
    Entries (Function.update f node.key none) l := by
  intro key v
  by_cases hkey : key = node.key
  · subst hkey
    simp only [Function.update_self, reduceCtorEq, false_iff]
    rintro ⟨x, hx, hxkey, -⟩
    exact key_ne_of_nodup hkeys x hx hxkey
  · rw [Function.update_of_ne hkey, h key v]
    simp only [List.mem_cons, exists_eq_or_imp]
    exact or_iff_right fun hcontra => hkey hcontra.1.symm

theorem Entries.cons (h : Entries f l) (hnew : ∀ x ∈ l, x.key ≠ node.key) :
    Entries (Function.update f node.key (some node.value)) (node :: l) := by
  intro key v
  simp only [List.mem_cons, exists_eq_or_imp]
  by_cases hkey : key = node.key
  · subst hkey
    simp only [Function.update_self, Option.some.injEq, true_and]
    exact (or_iff_left fun ⟨x, hx, hxkey, _⟩ => hnew x hx hxkey).symm
  · rw [Function.update_of_ne hkey, h key v]
    exact (or_iff_right fun hcontra => hkey hcontra.1.symm).symm

/-- The map is sound and holds what `f` says. -/
structure Refines (m : Map β) (f : List UInt8 → Option β) : Prop where
  sound : Sound m
  entries : Entries f m.nodes.flatten

theorem Refines.init : Refines ({} : Map β) fun _ => none := ⟨.init, fun _ _ => by simp⟩

theorem Refines.findNode (h : Refines m f) (key : List UInt8) : (m.findNode key).map (·.value) = f key := by
  cases hfind : m.findNode key with
  | none =>
    symm
    refine h.entries.eq_none.mpr fun node hnode hkey => ?_
    rw [h.sound.findNode_eq_some.mpr ⟨hnode, hkey⟩] at hfind
    nomatch hfind
  | some node =>
    obtain ⟨hnode, hkey⟩ := h.sound.findNode_eq_some.mp hfind
    exact ((h.entries key node.value).mpr ⟨node, hnode, hkey, rfl⟩).symm

theorem Holds.refines (h : Holds m l) (hentries : Entries f l) : Refines m f := ⟨h.sound, hentries.perm h.perm.symm⟩

theorem Refines.enlarged (h : Refines m f) (mem : Bool) : Refines (m.enlarged mem) f :=
  (h.sound.enlarged mem).refines h.entries

/-- What a found key is replaced by or erased with. -/
theorem Sound.split_of_findNode (h : Sound m) (hfind : m.findNode key = some node) : ∃ rest,
    node.key = key ∧ node.hash = mapHash key ∧ m.nodes ≠ [] ∧ m.nodes.flatten.Perm (node :: rest) ∧
      (∀ g : MapNode β → MapNode β,
        (m.nodes.modify (m.mapHashIdx (mapHash key)) (FirstMatch.modify (isKey key) g)).flatten.Perm (g node :: rest)) ∧
      (m.nodes.modify (m.mapHashIdx (mapHash key)) (·.eraseP (isKey key))).flatten.Perm rest := by
  obtain ⟨hnode, hkey⟩ := h.findNode_eq_some.mp hfind
  rw [findNode] at hfind
  split at hfind
  · nomatch hfind
  case isFalse hne =>
    have hnodes : m.nodes ≠ [] := fun hnil => hne (.inr hnil)
    obtain ⟨rest, hold, hnew⟩ := Buckets.flatten_modify (mapHashIdx_lt hnodes (mapHash key))
    refine ⟨_, hkey, hkey ▸ h.hashed node hnode, hnodes,
      hold.trans ((FirstMatch.eraseP_perm hfind).append_right rest), fun g => ?_, hnew _⟩
    exact (hnew _).trans ((FirstMatch.modify_perm hfind).append_right rest)

theorem Refines.writeValue (h : Refines m f) (hfind : m.findNode key = some node) (value : β) :
    Refines (m.writeValue key value) (Function.update f key (some value)) := by
  obtain ⟨rest, rfl, hhash, -, hperm, hmodify, -⟩ := h.sound.split_of_findNode hfind
  have hkeys : ((node :: rest).map (·.key)).Nodup := (hperm.map _).nodup_iff.mp h.sound.keys
  have htail := (h.entries.perm hperm).tail hkeys
  have hentries : Entries (Function.update f node.key (some value)) ({ node with value } :: rest) := by
    have hcons := @Entries.cons β { node with value } _ _ htail (key_ne_of_nodup hkeys)
    rwa [Function.update_idem] at hcons
  refine Holds.refines (.of_perm ?_ (hmodify _) ?_ hkeys ?_) hentries
  · have hplaced := h.sound.placed.modify (i := m.mapHashIdx (mapHash node.key))
      (f := FirstMatch.modify (isKey node.key) ({ · with value })) fun x hx => ?_
    · simpa [Map.writeValue, mapHashIdx, bucketSize] using hplaced
    · rcases FirstMatch.mem_modify hx with hx | ⟨y, hy, -, rfl⟩
      · exact h.sound.placed _ x hx
      · exact h.sound.placed _ y hy
  · intro x hx
    rcases List.mem_cons.mp hx with rfl | hx
    · exact hhash
    · exact h.sound.hashed x (hperm.mem_iff.mpr (List.mem_cons_of_mem _ hx))
  · exact h.sound.size.trans hperm.length_eq

theorem Refines.erase (h : Refines m f) (hfind : m.findNode key = some node) :
    Refines { m with
      nodes := m.nodes.modify (m.mapHashIdx (mapHash key)) (·.eraseP (isKey key))
      nodeSize := m.nodeSize - 1 } (Function.update f key none) := by
  obtain ⟨rest, hkey, -, -, hperm, -, herase⟩ := h.sound.split_of_findNode hfind
  have hkeys : ((node :: rest).map (·.key)).Nodup := (hperm.map _).nodup_iff.mp h.sound.keys
  refine Holds.refines (.of_perm ?_ herase ?_ (List.nodup_cons.mp hkeys).2 ?_)
    (hkey ▸ (h.entries.perm hperm).tail hkeys)
  · have hplaced := h.sound.placed.modify (i := m.mapHashIdx (mapHash key)) (f := (·.eraseP (isKey key)))
      fun x hx => h.sound.placed _ x (List.mem_of_mem_eraseP hx)
    simpa [mapHashIdx, bucketSize] using hplaced
  · exact fun x hx => h.sound.hashed x (hperm.mem_iff.mpr (List.mem_cons_of_mem _ hx))
  · change m.nodeSize - 1 = _
    rw [h.sound.size, hperm.length_eq]
    rfl

theorem Refines.insert (h : Refines m f) (hnodes : m.nodes ≠ []) (hnew : f key = none) (value : β) :
    Refines { m.mapAddNode ⟨key, mapHash key, value⟩ with nodeSize := m.nodeSize + 1 }
      (Function.update f key (some value)) := by
  obtain ⟨rest, hold, hmodify⟩ := Buckets.flatten_modify (mapHashIdx_lt hnodes (mapHash key))
  have hfresh := h.entries.eq_none.mp hnew
  refine Holds.refines (.of_perm ?_ ?_ ?_ ?_ ?_) (@Entries.cons β ⟨key, mapHash key, value⟩ _ _ h.entries hfresh)
  · have hplaced := h.sound.placed.modify (i := m.mapHashIdx (mapHash key)) (f := (⟨key, mapHash key, value⟩ :: ·))
      fun x hx => (List.mem_cons.mp hx).elim (fun heq => heq ▸ rfl) (h.sound.placed _ x)
    simpa [mapAddNode, mapHashIdx, bucketSize] using hplaced
  · exact (hmodify _).trans (hold.symm.cons _)
  · exact fun x hx => (List.mem_cons.mp hx).elim (fun heq => heq ▸ rfl) (h.sound.hashed x)
  · refine List.nodup_cons.mpr ⟨fun hmem => ?_, h.sound.keys⟩
    obtain ⟨x, hx, hkey⟩ := List.mem_map.mp hmem
    exact hfresh x hx hkey
  · exact congrArg (· + 1) h.sound.size

/-! ## Calls -/

theorem enlarged_ne_nil (h : m.nodes ≠ [] ∨ mem = true) : (m.enlarged mem).nodes ≠ [] := by
  have hresize : ∀ size, 0 < size → (m.nodes ≠ [] ∨ mem = true ∧ size * 8 ≤ maxMallocSize) →
      (m.mapResize size mem).nodes ≠ [] := by
    intro size hsize hcase
    unfold mapResize
    split
    case isTrue hfail => exact hcase.resolve_right fun ⟨hmem, hle⟩ => by simp [hmem, Nat.not_lt.mpr hle] at hfail
    case isFalse =>
      rw [foldl_mapAddNode, ← List.length_pos_iff, Buckets.length_insertAll]
      simpa using hsize
  unfold enlarged
  split
  case isTrue =>
    refine hresize _ (by split <;> omega) ?_
    by_cases hnil : m.nodes = []
    · exact .inr ⟨h.resolve_left (absurd hnil), by simp [bucketSize, hnil, maxMallocSize]⟩
    · exact .inl hnil
  case isFalse hlt =>
    intro hnil
    simp [bucketSize, hnil] at hlt

end

end Map

inductive MapOp (β : Type) where
  | set (key : List UInt8) (value : β) (mem : MapMem)
  | get (key : List UInt8)
  | erase (key : List UInt8)

namespace MapOp

open Map

variable {β : Type} (valueSize : β → Nat)

def run (m : Map β) : MapOp β → SoftbusRet × Map β
  | set key value mem => m.lnnMapSet valueSize key value mem
  | get _ => (.ok, m)
  | erase key => m.lnnMapErase key

/-- What a call that returned `ret` makes of a finite map. -/
def spec (f : List UInt8 → Option β) (ret : SoftbusRet) : MapOp β → List UInt8 → Option β
  | set key value _ => if ret = .ok then Function.update f key (some value) else f
  | get _ => f
  | erase key => if ret = .ok then Function.update f key none else f

/-- A hash map with the finite map that it should be. -/
def step (s : Map β × (List UInt8 → Option β)) (op : MapOp β) : Map β × (List UInt8 → Option β) :=
  ((op.run valueSize s.1).2, op.spec s.2 (op.run valueSize s.1).1)

/-- A set of another size fails and changes nothing. A set within the limits succeeds, and so does the erasure of
a key that is there. -/
def Answers (m : Map β) (f : List UInt8 → Option β) : MapOp β → Prop
  | set key value mem =>
    (∀ old, f key = some old → valueSize old ≠ valueSize value →
        m.lnnMapSet valueSize key value mem = (.invalidParam, m)) ∧
      (valueSize value ≠ 0 → valueSize value ≤ 3000 → key.length ≤ 1000 →
        (∀ old, f key = some old → valueSize old = valueSize value) → mem.resize = true → mem.node = true →
        (m.lnnMapSet valueSize key value mem).1 = .ok)
  | get _ => True
  | erase key => (m.lnnMapErase key).1 = .ok ↔ f key ≠ none

section
variable {valueSize} {m : Map β} {f : List UInt8 → Option β}

/-- A set either changes nothing, makes a larger table, replaces the value of a node or adds a node. -/
theorem lnnMapSet_cases (h : Refines m f) (key : List UInt8) (value : β) (mem : MapMem) :
    (m.lnnMapSet valueSize key value mem = (.invalidParam, m) ∧
        ((valueSize value = 0 ∨ 3000 < valueSize value ∨ 1000 < key.length) ∨
          ∃ old, f key = some old ∧ valueSize old ≠ valueSize value)) ∨
      (∃ m', m.lnnMapSet valueSize key value mem = (.ok, m') ∧ Refines m' (Function.update f key (some value)) ∧
        ∀ old, f key = some old → valueSize old = valueSize value) ∨
      (∃ ret m', m.lnnMapSet valueSize key value mem = (ret, m') ∧ ret ≠ .ok ∧ Refines m' f ∧ f key = none ∧
        ¬ (mem.resize = true ∧ mem.node = true)) := by
  have hvalue := h.findNode key
  rw [lnnMapSet]
  split
  case isTrue hbad => exact .inl ⟨rfl, .inl hbad⟩
  case isFalse =>
    split
    case h_1 node hfind =>
      rw [hfind, Option.map_some] at hvalue
      split
      case isTrue hsize => exact .inl ⟨rfl, .inr ⟨_, hvalue.symm, hsize⟩⟩
      case isFalse hsize =>
        refine .inr (.inl ⟨_, rfl, h.writeValue hfind value, fun old hold => ?_⟩)
        rw [← hvalue, Option.some.injEq] at hold
        exact hold ▸ not_not.mp hsize
    case h_2 hfind =>
      rw [hfind, Option.map_none] at hvalue
      dsimp only
      split
      case isTrue hnil =>
        refine .inr (.inr ⟨_, _, rfl, nofun, h.enlarged mem.resize, hvalue.symm, fun hmem => ?_⟩)
        exact Map.enlarged_ne_nil (.inr hmem.1) hnil
      case isFalse hnodes =>
        split
        case isTrue hnode =>
          refine .inr (.inr ⟨_, _, rfl, nofun, h.enlarged mem.resize, hvalue.symm, fun hmem => ?_⟩)
          simp [hmem.2] at hnode
        case isFalse =>
          refine .inr (.inl ⟨_, rfl, (h.enlarged mem.resize).insert hnodes hvalue.symm value, fun old hold => ?_⟩)
          rw [← hvalue] at hold
          nomatch hold

theorem lnnMapErase_cases (h : Refines m f) (key : List UInt8) :
    (∃ m', m.lnnMapErase key = (.ok, m') ∧ Refines m' (Function.update f key none) ∧ f key ≠ none) ∨
      (∃ ret, m.lnnMapErase key = (ret, m) ∧ ret ≠ .ok ∧ f key = none) := by
  have hvalue := h.findNode key
  rw [lnnMapErase]
  split
  case isTrue hempty =>
    rw [findNode, if_pos hempty] at hvalue
    exact .inr ⟨_, rfl, nofun, hvalue.symm⟩
  case isFalse =>
    split
    case h_1 hfind => exact .inr ⟨_, rfl, nofun, by rw [← hvalue, hfind, Option.map_none]⟩
    case h_2 node hfind => exact .inl ⟨_, rfl, h.erase hfind, by simp [← hvalue, hfind]⟩

theorem refines_step (h : Refines m f) (op : MapOp β) :
    Refines (step valueSize (m, f) op).1 (step valueSize (m, f) op).2 := by
  cases op with
  | get key => exact h
  | set key value mem =>
    rcases @lnnMapSet_cases _ valueSize _ _ h key value mem with
      ⟨hrun, -⟩ | ⟨m', hrun, hrefines, -⟩ | ⟨ret, m', hrun, hret, hrefines, -⟩
    · simpa [step, run, spec, hrun] using h
    · simpa [step, run, spec, hrun] using hrefines
    · simpa [step, run, spec, hrun, hret] using hrefines
  | erase key =>
    rcases lnnMapErase_cases h key with ⟨m', hrun, hrefines, -⟩ | ⟨ret, hrun, hret, -⟩
    · simpa [step, run, spec, hrun] using hrefines
    · simpa [step, run, spec, hrun, hret] using h

theorem answers (h : Refines m f) (op : MapOp β) : op.Answers valueSize m f := by
  cases op with
  | get key => trivial
  | set key value mem =>
    rcases @lnnMapSet_cases _ valueSize _ _ h key value mem with
      ⟨hrun, hwhy⟩ | ⟨m', hrun, -, hsame⟩ | ⟨ret, m', hrun, -, -, hnone, hmem⟩
    · refine ⟨fun _ _ _ => hrun, fun hpos hsize hkey hsame => ?_⟩
      rcases hwhy with hbad | ⟨old, hold, hne⟩
      · omega
      · exact absurd (hsame old hold) hne
    · exact ⟨fun old hold hne => absurd (hsame old hold) hne, fun _ _ _ _ _ _ => by rw [hrun]⟩
    · exact ⟨fun old hold => absurd (hnone.symm.trans hold) nofun, fun _ _ _ _ hr hn => absurd ⟨hr, hn⟩ hmem⟩
  | erase key =>
    rcases lnnMapErase_cases h key with ⟨m', hrun, -, hsome⟩ | ⟨ret, hrun, hret, hnone⟩
    · exact iff_of_true (by rw [hrun]) hsome
    · exact iff_of_false (by rwa [hrun]) (by simp [hnone])

end

end MapOp

/-! ## A pass of the iterator -/

namespace MapIterator

variable {β : Type} {m : Map β} {it : MapIterator β} {node : MapNode β} {rest : List (MapNode β)}

/-- The nodes that are still to come. -/
def pending (m : Map β) (it : MapIterator β) : List (MapNode β) := it.node.tail ++ (m.nodes.drop it.bucketNum).flatten

theorem nextBucket_pending : ∀ {buckets : List (List (MapNode β))} {it : MapIterator β},
    m.nodes.drop it.bucketNum = buckets → buckets.flatten = node :: rest →
    (it.nextBucket buckets).node.head? = some node ∧ (it.nextBucket buckets).pending m = rest ∧
      (it.nextBucket buckets).nodeNum = it.nodeNum + 1
  | [] :: buckets, it, hdrop, hflat => by
    have hnext : m.nodes.drop (it.bucketNum + 1) = buckets := by rw [← List.drop_drop, hdrop]; rfl
    exact @nextBucket_pending buckets { it with bucketNum := it.bucketNum + 1 } hnext hflat
  | (first :: chain) :: buckets, it, hdrop, hflat => by
    have hnext : m.nodes.drop (it.bucketNum + 1) = buckets := by rw [← List.drop_drop, hdrop]; rfl
    obtain ⟨rfl, rfl⟩ := List.cons.inj hflat
    exact ⟨rfl, by simp [nextBucket, pending, hnext], rfl⟩

theorem lnnMapNext_pending (hnum : it.nodeNum < m.nodeSize) (h : it.pending m = node :: rest) :
    (it.lnnMapNext m).node.head? = some node ∧ (it.lnnMapNext m).pending m = rest ∧
      (it.lnnMapNext m).nodeNum = it.nodeNum + 1 := by
  rw [lnnMapNext, if_pos (by simpa [lnnMapHasNext] using hnum)]
  split
  case h_1 current next chain hnode =>
    rw [pending, hnode, List.tail_cons, List.cons_append] at h
    obtain ⟨rfl, rfl⟩ := List.cons.inj h
    exact ⟨rfl, rfl, rfl⟩
  case h_2 hnode =>
    refine nextBucket_pending rfl ?_
    rw [pending] at h
    rcases hchain : it.node with _ | ⟨current, _ | ⟨next, chain⟩⟩
    · simpa [hchain] using h
    · simpa [hchain] using h
    · exact absurd hchain (hnode current next chain)

theorem visited_eq_pending : ∀ (n : Nat) {it : MapIterator β}, it.nodeNum + (it.pending m).length = m.nodeSize →
    (it.pending m).length ≤ n → visited m n it = it.pending m
  | 0, it, _, hn => by rw [visited, List.length_eq_zero_iff.mp (Nat.le_zero.mp hn)]
  | n + 1, it, hnum, hn => by
    rw [visited]
    cases hpending : it.pending m with
    | nil =>
      rw [hpending] at hnum
      exact if_neg (by simp only [lnnMapHasNext, decide_eq_true_eq]; simp at hnum; omega)
    | cons node rest =>
      rw [hpending, List.length_cons] at hnum hn
      obtain ⟨hhead, hrest, hnext⟩ := lnnMapNext_pending (by omega) hpending
      rw [if_pos (by simp only [lnnMapHasNext, decide_eq_true_eq]; omega), hhead,
        visited_eq_pending n (by rw [hrest, hnext]; omega) (by rw [hrest]; omega), hrest]
      rfl

end MapIterator

/-! ## The finite map -/

namespace Map

variable {β : Type} {m : Map β} {f : List UInt8 → Option β}

/-- Lookups, the size and every pass over the map are those of `f`. -/
structure Agrees (m : Map β) (f : List UInt8 → Option β) : Prop where
  get : ∀ key, m.lnnMapGet key = f key
  size : ∃ keys : List (List UInt8), keys.Nodup ∧ (∀ key, key ∈ keys ↔ f key ≠ none) ∧ m.nodeSize = keys.length
  pass : ∀ n, m.nodeSize ≤ n → ((MapIterator.visited m n {}).map (·.key)).Nodup ∧ Entries f (MapIterator.visited m n {})

theorem Refines.agrees (h : Refines m f) : Agrees m f where
  get := h.findNode
  size := by
    refine ⟨m.nodes.flatten.map (·.key), h.sound.keys, fun key => ?_, h.sound.size.trans (List.length_map _).symm⟩
    rw [ne_eq, h.entries.eq_none]
    simp only [List.mem_map, not_forall, not_not, exists_prop, ne_eq]
  pass := by
    intro n hn
    have hpending : (MapIterator.pending m {}) = m.nodes.flatten := rfl
    have hall : MapIterator.visited m n {} = m.nodes.flatten := by
      refine (MapIterator.visited_eq_pending n ?_ ?_).trans hpending
      · rw [hpending, ← h.sound.size, Nat.zero_add]
      · rw [hpending, ← h.sound.size]
        exact hn
    rw [hall]
    exact ⟨h.sound.keys, h.entries⟩

/-- After any calls the hash map is the finite map of the sets and erasures that succeeded. -/
theorem lnnMap_refines_finite_map (valueSize : β → Nat) (ops : List (MapOp β)) :
    Run.Always (MapOp.step valueSize)
      (fun s op => op.Answers valueSize s.1 s.2 ∧ Agrees (MapOp.step valueSize s op).1 (MapOp.step valueSize s op).2)
      ({}, fun _ => none) ops :=
  Run.always_of_inv (P := fun _ _ => True) (I := fun s => Refines s.1 s.2)
    (fun _ op h _ => ⟨MapOp.refines_step h op, MapOp.answers h op, (MapOp.refines_step h op).agrees⟩) ops .init
    (Run.always_of_forall fun _ _ _ => trivial)

end Map

end SoftBus
