import SoftBus.FileFrame
import SoftBus.Lib.BlockFile

/-!
# The list of files

The last frame of a transfer on a proxy channel has the names of all files: `FileListToBuffer` and `BufferToFileList` of
`client_trans_proxy_file_common.c`. An item is an index, the length of a name, both in network order, and the name.
-/

namespace SoftBus

open Bytes BlockFile

/-- `sizeof(struct FileListItem)` -/
def fileListItemSize : Nat := 8

/-! ## Writing a list -/

def packFileItem (bufferSize index offset : Nat) (buffer name : List UInt8) : Except SoftbusRet (List UInt8) :=
  let head := putBig 4 index ++ putBig 4 name.length
  (memcpyS (buffer.take offset ++ head ++ buffer.drop (offset + fileListItemSize)) (offset + fileListItemSize)
    (wrapSub 64 bufferSize ((offset + fileListItemSize) % 2 ^ 32)) name).elim (.error .err) .ok

def packFileItems (bufferSize : Nat) :
    (index offset : Nat) → (buffer : List UInt8) → List (List UInt8) → Except SoftbusRet (List UInt8 × Nat)
  | _, offset, buffer, [] => .ok (buffer, offset)
  | index, offset, buffer, name :: destFile =>
    (packFileItem bufferSize index offset buffer name).bind fun buffer =>
      packFileItems bufferSize (index + 1) ((offset + fileListItemSize + name.length) % 2 ^ 32) buffer destFile

/-- The buffer and its size. The sum of the lengths and the argument of `SoftBusCalloc` are 32 bits wide. -/
def fileListToBuffer (destFile : List (List UInt8)) : Except SoftbusRet (List UInt8 × Nat) :=
  if destFile = [] then .error .err
  else if ∃ name ∈ destFile, name.length = 0 ∨ maxFilePathNameLen < name.length then .error .invalidParam
  else
    let bufferSize := (destFile.map List.length).sum % 2 ^ 32 + fileListItemSize * destFile.length
    if maxMallocSize < bufferSize % 2 ^ 32 then .error .mallocErr
    else packFileItems bufferSize 0 0 [] destFile

/-! ## Reading a list -/

/-- What must not happen: a read outside of the buffer, or a loop that does not end. -/
inductive FileListFault where
  | outOfBounds
  | unfinished
deriving DecidableEq, Repr

def readAt (buffer : List UInt8) (len offset : Nat) : Except FileListFault (List UInt8) :=
  if offset + len ≤ buffer.length then .ok (pread buffer len offset) else .error .outOfBounds

def copyFirstFile (buffer : List UInt8) (offset fileNameLength count : Nat) (firstFile : List UInt8) :
    Except FileListFault (Option (List UInt8)) :=
  if count = 0 then (readAt buffer fileNameLength offset).map (memcpyS firstFile 0 maxFilePathNameLen)
  else .ok (some firstFile)

def parseFileItems (buffer : List UInt8) :
    (fuel offset count : Nat) → List UInt8 → Except FileListFault (Option (List UInt8 × Nat))
  | 0, _, _, _ => .error .unfinished
  | fuel + 1, offset, count, firstFile =>
    if buffer.length - fileListItemSize ≤ offset then .ok (some (firstFile, count))
    else
      match readAt buffer 4 (offset + 4) with
      | .error fault => .error fault
      | .ok bytes =>
        let fileNameLength := readBig 4 bytes
        let offset := (offset + fileListItemSize) % 2 ^ 32
        if wrapSub 32 buffer.length offset < fileNameLength ∨ maxFilePathNameLen < fileNameLength then .ok none
        else
          match copyFirstFile buffer offset fileNameLength count firstFile with
          | .error fault => .error fault
          | .ok none => .ok none
          | .ok (some firstFile) =>
            parseFileItems buffer fuel ((offset + fileNameLength) % 2 ^ 32) (count + 1) firstFile

def bufferToFileList (buffer : List UInt8) : Except FileListFault (Option (List UInt8 × Nat)) :=
  if buffer.length < fileListItemSize then .ok none
  else parseFileItems buffer buffer.length 0 0 (List.replicate (maxFilePathNameLen + 1) 0)

/-! ## Items -/

def fileItems (bytes : List UInt8) : List (List UInt8) :=
  if 8 ≤ bytes.length ∧ readBig 4 (bytes.drop 4) ≤ bytes.length - 8 then
    pread bytes (readBig 4 (bytes.drop 4)) 8 :: fileItems (bytes.drop (8 + readBig 4 (bytes.drop 4)))
  else []
termination_by bytes.length
decreasing_by
  rw [List.length_drop]
  omega

/-- All complete items, but for a last one without a name at the end of the buffer. -/
def countedItems (bytes : List UInt8) : Nat :=
  if (fileItems bytes).getLast? = some [] ∧ ((fileItems bytes).map (·.length + 8)).sum = bytes.length then
    (fileItems bytes).length - 1
  else (fileItems bytes).length

theorem fileItems_of_lt {bytes : List UInt8} (h : bytes.length < 8) : fileItems bytes = [] := by
  rw [fileItems, if_neg (by omega)]

theorem countedItems_of_le {bytes : List UInt8} (h : bytes.length ≤ 8) : countedItems bytes = 0 := by
  have hrest : fileItems (bytes.drop (8 + readBig 4 (bytes.drop 4))) = [] := by
    apply fileItems_of_lt
    rw [List.length_drop]
    omega
  by_cases hitem : 8 ≤ bytes.length ∧ readBig 4 (bytes.drop 4) ≤ bytes.length - 8
  · have heq : fileItems bytes = [[]] := by
      rw [fileItems, if_pos hitem, hrest, show readBig 4 (bytes.drop 4) = 0 by omega]
      rfl
    rw [countedItems, heq, if_pos ⟨rfl, by simp; omega⟩]
    rfl
  · have heq : fileItems bytes = [] := by rw [fileItems, if_neg hitem]
    rw [countedItems, heq]
    rfl

theorem countedItems_cons {bytes : List UInt8} (h : 8 < bytes.length)
    (hlen : readBig 4 (bytes.drop 4) ≤ bytes.length - 8) :
    countedItems bytes = countedItems (bytes.drop (8 + readBig 4 (bytes.drop 4))) + 1 := by
  have heq : fileItems bytes = pread bytes (readBig 4 (bytes.drop 4)) 8 ::
      fileItems (bytes.drop (8 + readBig 4 (bytes.drop 4))) := by
    rw [fileItems, if_pos ⟨by omega, hlen⟩]
  have hname : (pread bytes (readBig 4 (bytes.drop 4)) 8).length = readBig 4 (bytes.drop 4) := by
    rw [length_pread]
    omega
  generalize readBig 4 (bytes.drop 4) = len at *
  have hdrop : (bytes.drop (8 + len)).length = bytes.length - (8 + len) := List.length_drop
  rw [countedItems, countedItems, heq]
  cases hrest : fileItems (bytes.drop (8 + len)) with
  | nil =>
    rw [if_neg]
    · rfl
    · rintro ⟨hlast, hsum⟩
      have hnil : pread bytes len 8 = [] := Option.some.inj hlast
      rw [List.map_singleton, List.sum_singleton, hnil] at hsum
      rw [List.length_nil] at hsum
      omega
  | cons item items =>
    have hsum : ((pread bytes len 8 :: item :: items).map (·.length + 8)).sum = bytes.length ↔
        ((item :: items).map (·.length + 8)).sum = (bytes.drop (8 + len)).length := by
      rw [List.map_cons, List.sum_cons, hname, hdrop]
      omega
    simp only [List.getLast?_cons_cons, hsum]
    split
    · rfl
    · rfl

/-! ## Reading any buffer -/

theorem readBig_pread (buffer : List UInt8) (offset : Nat) :
    readBig 4 (pread buffer 4 (offset + 4)) = readBig 4 ((buffer.drop offset).drop 4) := by
  rw [readBig, readBig, pread, List.drop_drop, List.take_take, Nat.min_self]

section
variable {buffer : List UInt8} (hlt : buffer.length < 4294967296)
include hlt

theorem parseFileItems_step {fuel offset count : Nat} {firstFile : List UInt8} (hmore : offset + 8 < buffer.length) :
    parseFileItems buffer (fuel + 1) offset count firstFile =
      if buffer.length - (offset + 8) < readBig 4 ((buffer.drop offset).drop 4) ∨
          512 < readBig 4 ((buffer.drop offset).drop 4) then .ok none
      else parseFileItems buffer fuel (offset + 8 + readBig 4 ((buffer.drop offset).drop 4)) (count + 1)
        (if count = 0 then pread buffer (readBig 4 ((buffer.drop offset).drop 4)) (offset + 8) ++
          firstFile.drop (readBig 4 ((buffer.drop offset).drop 4)) else firstFile) := by
  have hsize : fileListItemSize = 8 := rfl
  have hname : maxFilePathNameLen = 512 := rfl
  have hoffset : (offset + 8) % 2 ^ 32 = offset + 8 := Nat.mod_eq_of_lt (by omega)
  rw [parseFileItems]
  simp only [readAt, hsize, hname, if_neg (show ¬ buffer.length - 8 ≤ offset by omega),
    if_pos (show offset + 4 + 4 ≤ buffer.length by omega), readBig_pread, hoffset,
    show wrapSub 32 buffer.length (offset + 8) = buffer.length - (offset + 8) by unfold wrapSub; omega]
  generalize readBig 4 ((buffer.drop offset).drop 4) = len
  split
  · rfl
  · next hfit =>
    rw [not_or, Nat.not_lt, Nat.not_lt] at hfit
    have hcopy : copyFirstFile buffer (offset + 8) len count firstFile =
        .ok (some (if count = 0 then pread buffer len (offset + 8) ++ firstFile.drop len else firstFile)) := by
      have hlen : (pread buffer len (offset + 8)).length = len := by
        rw [length_pread]
        omega
      unfold copyFirstFile readAt
      split
      · rw [if_pos (by omega), Except.map, memcpyS, hlen, hname, if_neg (by omega), List.take_zero, List.nil_append,
          Nat.zero_add]
      · rfl
    rw [hcopy]
    dsimp only
    rw [Nat.mod_eq_of_lt (by omega)]

theorem parseFileItems_ok : ∀ (fuel offset count : Nat) (firstFile : List UInt8), offset ≤ buffer.length →
    buffer.length - offset ≤ 8 * fuel → 1 ≤ fuel →
    ∃ result, parseFileItems buffer fuel offset count firstFile = .ok result ∧
      ∀ first fileCount, result = some (first, fileCount) → fileCount = count + countedItems (buffer.drop offset)
  | 0, _, _, _, _, _, hfuel => absurd hfuel (by decide)
  | fuel + 1, offset, count, firstFile, hle, hfuel, _ => by
    have hdrop : (buffer.drop offset).length = buffer.length - offset := List.length_drop
    by_cases hmore : offset + 8 < buffer.length
    · rw [parseFileItems_step hlt hmore]
      split
      · exact ⟨none, rfl, fun _ _ h => nomatch h⟩
      · next hfit =>
        rw [not_or, Nat.not_lt, Nat.not_lt] at hfit
        have hcount : countedItems (buffer.drop offset) = _ := countedItems_cons (by omega) (by omega)
        rw [List.drop_drop] at hcount
        generalize readBig 4 ((buffer.drop offset).drop 4) = len at *
        obtain ⟨result, hresult, hall⟩ := parseFileItems_ok fuel (offset + 8 + len) (count + 1) (if count = 0 then
          pread buffer len (offset + 8) ++ firstFile.drop len else firstFile) (by omega) (by omega) (by omega)
        refine ⟨result, hresult, fun first fileCount heq => ?_⟩
        rw [hall first fileCount heq, hcount, Nat.add_assoc offset]
        omega
    · have hsize : fileListItemSize = 8 := rfl
      rw [parseFileItems, if_pos (by omega)]
      refine ⟨_, rfl, fun first fileCount heq => ?_⟩
      rw [countedItems_of_le (by omega), Nat.add_zero]
      exact (Prod.mk.inj (Option.some.inj heq)).2.symm

theorem bufferToFileList_ok : ∃ result, bufferToFileList buffer = .ok result ∧
    ∀ first fileCount, result = some (first, fileCount) → fileCount = countedItems buffer := by
  have hsize : fileListItemSize = 8 := rfl
  unfold bufferToFileList
  split
  · exact ⟨none, rfl, fun _ _ h => nomatch h⟩
  · obtain ⟨result, hresult, hall⟩ := parseFileItems_ok hlt buffer.length 0 0
      (List.replicate (maxFilePathNameLen + 1) 0) (by omega) (by omega) (by omega)
    refine ⟨result, hresult, fun first fileCount heq => ?_⟩
    rw [hall first fileCount heq, List.drop_zero, Nat.zero_add]

end

/-! ## Reading what was written -/

def packItem (index : Nat) (name : List UInt8) : List UInt8 := putBig 4 index ++ (putBig 4 name.length ++ name)

def packItems : Nat → List (List UInt8) → List UInt8
  | _, [] => []
  | index, name :: names => packItem index name ++ packItems (index + 1) names

@[simp] theorem length_packItem (index : Nat) (name : List UInt8) : (packItem index name).length = 8 + name.length := by
  simp only [packItem, List.length_append, length_putBig]
  omega

theorem packFileItem_eq {bufferSize index : Nat} {buffer name : List UInt8}
    (hsize : bufferSize < 18446744073709551616) (hlen : buffer.length + 8 + name.length < 4294967296) :
    packFileItem bufferSize index buffer.length buffer name =
      if buffer.length + 8 < bufferSize ∧ bufferSize ≤ buffer.length + 8 + 0x7fffffff ∧
          buffer.length + 8 + name.length ≤ bufferSize then
        .ok (buffer ++ packItem index name)
      else .error .err := by
  have hitem : fileListItemSize = 8 := rfl
  have hoffset : (buffer.length + 8) % 2 ^ 32 = buffer.length + 8 := Nat.mod_eq_of_lt (by omega)
  have hhead : buffer.take buffer.length ++ (putBig 4 index ++ putBig 4 name.length) ++ buffer.drop (buffer.length + 8) =
      buffer ++ (putBig 4 index ++ putBig 4 name.length) := by
    rw [List.take_length, List.drop_eq_nil_of_le (by omega), List.append_nil]
  have hend : (buffer ++ (putBig 4 index ++ putBig 4 name.length)).length = buffer.length + 8 := by
    simp only [List.length_append, length_putBig]
  unfold packFileItem
  dsimp only
  rw [hitem, hhead, hoffset]
  by_cases hfit : buffer.length + 8 < bufferSize ∧ bufferSize ≤ buffer.length + 8 + 0x7fffffff ∧
      buffer.length + 8 + name.length ≤ bufferSize
  · have hcopy : memcpyS (buffer ++ (putBig 4 index ++ putBig 4 name.length)) (buffer.length + 8)
        (wrapSub 64 bufferSize (buffer.length + 8)) name = some (buffer ++ packItem index name) := by
      rw [← hend, memcpyS_length_eq_some, hend]
      exact ⟨by unfold wrapSub; omega, by rw [packItem, List.append_assoc, List.append_assoc]⟩
    rw [if_pos hfit, hcopy]
    rfl
  · have hcopy : memcpyS (buffer ++ (putBig 4 index ++ putBig 4 name.length)) (buffer.length + 8)
        (wrapSub 64 bufferSize (buffer.length + 8)) name = none := by
      rw [memcpyS, if_pos (by unfold wrapSub; omega)]
    rw [if_neg hfit, hcopy]
    rfl

theorem packFileItems_step {bufferSize index : Nat} {buffer name : List UInt8} {names : List (List UInt8)}
    (hsize : bufferSize < 18446744073709551616) (hlen : buffer.length + 8 + name.length < 4294967296) :
    packFileItems bufferSize index buffer.length buffer (name :: names) =
      if buffer.length + 8 < bufferSize ∧ bufferSize ≤ buffer.length + 8 + 0x7fffffff ∧
          buffer.length + 8 + name.length ≤ bufferSize then
        packFileItems bufferSize (index + 1) (buffer ++ packItem index name).length (buffer ++ packItem index name) names
      else .error .err := by
  have hitem : fileListItemSize = 8 := rfl
  rw [packFileItems, packFileItem_eq hsize hlen, hitem, Nat.mod_eq_of_lt (by omega), List.length_append, length_packItem,
    ← Nat.add_assoc]
  split
  · rfl
  · rfl

theorem packFileItems_ok {bufferSize : Nat} (hsize : bufferSize < 4294966000) : ∀ (names : List (List UInt8)) (index : Nat)
    {buffer : List UInt8} {out : List UInt8 × Nat}, buffer.length ≤ bufferSize → (∀ name ∈ names, name.length ≤ 512) →
    packFileItems bufferSize index buffer.length buffer names = .ok out →
    out = (buffer ++ packItems index names, (buffer ++ packItems index names).length) ∧ out.2 ≤ bufferSize
  | [], index, buffer, out, hlen, _, h => by
    rw [packItems, List.append_nil, ← Except.ok.inj h]
    exact ⟨rfl, hlen⟩
  | name :: names, index, buffer, out, hlen, hnames, h => by
    have hname := hnames name List.mem_cons_self
    rw [packFileItems_step (by omega) (by omega)] at h
    split at h
    · next hfit =>
      have hrest := packFileItems_ok hsize names (index + 1) (by rw [List.length_append, length_packItem]; omega)
        (fun name' hmem => hnames name' (List.mem_cons_of_mem _ hmem)) h
      rwa [List.append_assoc] at hrest
    · exact nomatch h

theorem packFileItems_of_fits {bufferSize : Nat} (hsize : bufferSize ≤ 0x7fffffff) : ∀ (names : List (List UInt8))
    (index : Nat) {buffer : List UInt8}, buffer.length + (packItems index names).length ≤ bufferSize →
    (∀ name ∈ names, 1 ≤ name.length) →
    (packFileItems bufferSize index buffer.length buffer names).isOk = true
  | [], _, _, _, _ => rfl
  | name :: names, index, buffer, hlen, hnames => by
    have hname := hnames name List.mem_cons_self
    rw [packItems, List.length_append, length_packItem] at hlen
    rw [packFileItems_step (by omega) (by omega), if_pos (by omega)]
    exact packFileItems_of_fits hsize names (index + 1) (by rw [List.length_append, length_packItem]; omega)
      fun name' hmem => hnames name' (List.mem_cons_of_mem _ hmem)

theorem length_packItems : ∀ (index : Nat) (names : List (List UInt8)),
    (packItems index names).length = (names.map List.length).sum + 8 * names.length
  | _, [] => rfl
  | index, name :: names => by
    rw [packItems, List.length_append, length_packItem, length_packItems, List.map_cons, List.sum_cons, List.length_cons]
    omega

theorem fileListToBuffer_ok {destFile : List (List UInt8)} (hcount : destFile.length < 4294967296)
    {out : List UInt8 × Nat} (h : fileListToBuffer destFile = .ok out) :
    out = (packItems 0 destFile, (packItems 0 destFile).length) ∧ out.2 < 4294967296 := by
  have hitem : fileListItemSize = 8 := rfl
  have hmax : maxFilePathNameLen = 512 := rfl
  unfold fileListToBuffer at h
  split at h
  · exact nomatch h
  next hne =>
  split at h
  · exact nomatch h
  next hnames =>
  dsimp only at h
  rw [hitem] at h
  split at h
  · exact nomatch h
  have hle : ∀ name ∈ destFile, name.length ≤ 512 := fun name hmem => by
    by_contra hlt
    exact hnames ⟨name, hmem, .inr (by omega)⟩
  -- the first copy fails for a buffer that is too large for the checks of `memcpy_s`
  have hsize : (destFile.map List.length).sum % 2 ^ 32 + 8 * destFile.length < 4294966000 := by
    cases destFile with
    | nil => exact absurd rfl hne
    | cons name names =>
      have hname := hle name List.mem_cons_self
      have hlt : ((name :: names).map List.length).sum % 2 ^ 32 + 8 * (name :: names).length < 18446744073709551616 := by
        omega
      have hfirst : ([] : List UInt8).length + 8 + name.length < 4294967296 := by
        rw [List.length_nil]
        omega
      have hstep := (packFileItems_step hlt hfirst).symm.trans h
      split at hstep
      · next hfit =>
        rw [List.length_nil] at hfit
        omega
      · exact nomatch hstep
  have hnil : ([] : List UInt8).length ≤ (destFile.map List.length).sum % 2 ^ 32 + 8 * destFile.length := Nat.zero_le _
  obtain ⟨hout, hlen⟩ := packFileItems_ok hsize destFile 0 hnil hle h
  exact ⟨hout, by omega⟩

theorem parseFileItems_packItems {buffer : List UInt8} (hlt : buffer.length < 4294967296) : ∀ (names : List (List UInt8))
    (fuel index count : Nat) (done firstFile : List UInt8), buffer = done ++ packItems index names → names.length < fuel →
    (∀ name ∈ names, 1 ≤ name.length ∧ name.length ≤ 512) →
    parseFileItems buffer fuel done.length count firstFile = .ok (some
      (if count = 0 then (names.head?.map fun name => name ++ firstFile.drop name.length).getD firstFile else firstFile,
        count + names.length))
  | [], fuel, index, count, done, firstFile, hbuffer, hfuel, _ => by
    obtain ⟨fuel, rfl⟩ := Nat.exists_eq_succ_of_ne_zero (Nat.ne_zero_of_lt hfuel)
    rw [packItems, List.append_nil] at hbuffer
    rw [parseFileItems, if_pos (by rw [hbuffer]; omega)]
    simp
  | name :: names, fuel, index, count, done, firstFile, hbuffer, hfuel, hnames => by
    obtain ⟨fuel, rfl⟩ := Nat.exists_eq_succ_of_ne_zero (Nat.ne_zero_of_lt hfuel)
    obtain ⟨hpos, hle⟩ := hnames name List.mem_cons_self
    have hdrop : buffer.drop done.length = packItem index name ++ packItems (index + 1) names := by
      rw [hbuffer, List.drop_left, packItems]
    have hlen : readBig 4 ((buffer.drop done.length).drop 4) = name.length := by
      rw [hdrop, packItem, List.append_assoc, drop_putBig_append, List.append_assoc, readBig_putBig_append (by omega)]
    have hread : pread buffer name.length (done.length + 8) = name := by
      rw [pread, ← List.drop_drop, hdrop, packItem, List.append_assoc, List.append_assoc,
        show (8 : Nat) = 4 + 4 from rfl, drop_putBig_append_add, drop_putBig_append, List.take_left]
    have hsum : buffer.length = done.length + (8 + name.length) + (packItems (index + 1) names).length := by
      rw [hbuffer, packItems, List.length_append, List.length_append, length_packItem]
      omega
    rw [parseFileItems_step hlt (by omega), hlen, if_neg (by omega), hread]
    have hnext := parseFileItems_packItems hlt names fuel (index + 1) (count + 1) (done ++ packItem index name)
      (if count = 0 then name ++ firstFile.drop name.length else firstFile)
      (by rw [hbuffer, packItems, List.append_assoc]) (by rw [List.length_cons] at hfuel; omega)
      fun name' hmem => hnames name' (List.mem_cons_of_mem _ hmem)
    rw [List.length_append, length_packItem, ← Nat.add_assoc] at hnext
    rw [hnext, if_neg (Nat.succ_ne_zero count), List.length_cons, List.head?_cons, Nat.add_right_comm, Nat.add_assoc]
    rfl

theorem bufferToFileList_packItems {name : List UInt8} {names : List (List UInt8)}
    (hlt : (packItems 0 (name :: names)).length < 4294967296)
    (hnames : ∀ n ∈ name :: names, 1 ≤ n.length ∧ n.length ≤ 512) :
    bufferToFileList (packItems 0 (name :: names)) =
      .ok (some (name ++ List.replicate (513 - name.length) 0, names.length + 1)) := by
  have hitem : fileListItemSize = 8 := rfl
  have hlen := length_packItems 0 (name :: names)
  rw [List.length_cons] at hlen
  have hparse := parseFileItems_packItems hlt (name :: names) (packItems 0 (name :: names)).length 0 0 []
    (List.replicate (maxFilePathNameLen + 1) 0) rfl (by rw [List.length_cons]; omega) hnames
  rw [bufferToFileList, if_neg (by omega)]
  refine hparse.trans ?_
  rw [if_pos rfl, List.head?_cons, Option.map_some, Option.getD_some, List.drop_replicate, List.length_cons, Nat.zero_add]
  rfl

theorem fileListToBuffer_of_fits {destFile : List (List UInt8)} (hne : destFile ≠ [])
    (hnames : ∀ name ∈ destFile, 1 ≤ name.length ∧ name.length ≤ 512)
    (hfits : (packItems 0 destFile).length ≤ maxMallocSize) : (fileListToBuffer destFile).isOk = true := by
  have hitem : fileListItemSize = 8 := rfl
  have hmax : maxFilePathNameLen = 512 := rfl
  have hmalloc : maxMallocSize = 536870912 := rfl
  have hlen := length_packItems 0 destFile
  have hbad : ¬ ∃ name ∈ destFile, name.length = 0 ∨ maxFilePathNameLen < name.length := by
    rintro ⟨name, hmem, hname⟩
    have := hnames name hmem
    omega
  have hsize : (destFile.map List.length).sum % 2 ^ 32 + 8 * destFile.length = (packItems 0 destFile).length := by omega
  have hlimit : (packItems 0 destFile).length ≤ 0x7fffffff := by omega
  have hroom : ([] : List UInt8).length + (packItems 0 destFile).length ≤ (packItems 0 destFile).length := by
    rw [List.length_nil, Nat.zero_add]
  rw [fileListToBuffer, if_neg hne, if_neg hbad]
  dsimp only
  rw [hitem, hsize, if_neg (by omega)]
  exact packFileItems_of_fits hlimit destFile 0 hroom fun name hmem => (hnames name hmem).1

/-- A list that fits into a buffer is read back as its first name and its length. Any other buffer is read inside of its
bounds, and the items that are counted are all complete ones but for a last one without a name. -/
theorem file_list_codec :
    (∀ destFile : List (List UInt8), destFile ≠ [] → destFile.length < 4294967296 →
      (∀ name ∈ destFile, (1 ≤ name.length ∧ name.length ≤ maxFilePathNameLen) ∧ 0 ∉ name) →
      (∀ buffer bufferSize, fileListToBuffer destFile = .ok (buffer, bufferSize) →
        ∃ first, bufferToFileList (buffer.take bufferSize) = .ok (some (first, destFile.length)) ∧
          destFile.head? = some (cString first)) ∧
      ((destFile.map List.length).sum + fileListItemSize * destFile.length ≤ maxMallocSize →
        (fileListToBuffer destFile).isOk = true)) ∧
    ∀ buffer : List UInt8, buffer.length < 4294967296 →
      ∃ result, bufferToFileList buffer = .ok result ∧
        ∀ first fileCount, result = some (first, fileCount) → fileCount = countedItems buffer := by
  refine ⟨fun destFile hne hcount hnames => ⟨fun buffer bufferSize hok => ?_, fun hfits => ?_⟩,
    fun buffer hlt => bufferToFileList_ok hlt⟩
  · obtain ⟨hout, hlt⟩ := fileListToBuffer_ok hcount hok
    obtain ⟨rfl, rfl⟩ := Prod.mk.inj hout
    cases destFile with
    | nil => exact absurd rfl hne
    | cons name names =>
      have hle : name.length ≤ 512 := (hnames name List.mem_cons_self).1.2
      rw [List.take_length]
      refine ⟨_, bufferToFileList_packItems hlt fun n hn => (hnames n hn).1, ?_⟩
      rw [show 513 - name.length = 512 - name.length + 1 by omega, List.replicate_succ,
        cString_append (hnames name List.mem_cons_self).2]
      rfl
  · refine fileListToBuffer_of_fits hne (fun name hname => (hnames name hname).1) ?_
    rwa [length_packItems]

/-- Two names are written and read back. -/
theorem file_list_codec_two :
    let buffer : List UInt8 := [0, 0, 0, 0, 0, 0, 0, 1, 97, 0, 0, 0, 1, 0, 0, 0, 2, 98, 99]
    fileListToBuffer [[97], [98, 99]] = .ok (buffer, 19) ∧
    ∃ first, bufferToFileList (buffer.take 19) = .ok (some (first, 2)) ∧ some [97] = some (cString first) :=
  ⟨by decide +kernel, (file_list_codec.1 [[97], [98, 99]] (by decide) (by decide) (by decide)).1 _ 19 (by decide +kernel)⟩

/-- An item without a name that ends the buffer is complete, but not counted. -/
theorem file_list_count_last :
    fileItems [0, 0, 0, 0, 0, 0, 0, 1, 97, 0, 0, 0, 1, 0, 0, 0, 0] = [[97], []] ∧
    (bufferToFileList [0, 0, 0, 0, 0, 0, 0, 1, 97, 0, 0, 0, 1, 0, 0, 0, 0]).map (·.map Prod.snd) = .ok (some 1) := by
  constructor
  · rw [fileItems, if_pos (by decide)]
    rw [fileItems, if_pos (by decide)]
    rw [fileItems, if_neg (by decide)]
    decide
  · decide

end SoftBus
