import SoftBus.StreamRoundTrip

/-!
# What the stream receiver reads

The receiver takes the lengths in a packet from the network. Here it reads
memory, of which the first `size` bytes are the buffer, and each read is noted
with its offset and length. It looks for the check sum behind the extension
without a look at the size, and takes the word plus four as the offset of the
frame modulo 2^32.
-/

namespace SoftBus

def readMem (mem : Nat → UInt8) (off n : Nat) : List UInt8 := (List.range n).map fun i => mem (off + i)

def readNum (mem : Nat → UInt8) (k off : Nat) : Nat := Bytes.readBig k (readMem mem off k)

namespace TwoLevelsTlv

/-- `TwoLevelsTlv::Depacketize`, with its reads. -/
def depacketizeMem (tlv : TwoLevelsTlv) (mem : Nat → UInt8) (size : Nat) : TwoLevelsTlv × List (Nat × Nat) :=
  if size < 4 then (tlv, [])
  else if BitVec.ofNat 16 (readNum mem 2 0) &&& extBufMask = 0 then
    (readCheckSumMem { tlv with type := BitVec.ofNat 16 (readNum mem 2 0), nums := readNum mem 2 2 } mem 4,
      [(0, 4), (4 + alignTo4Bytes tlv.extLen, 4)])
  else readEntryMem { tlv with type := BitVec.ofNat 16 (readNum mem 2 0), nums := readNum mem 2 2 } mem size
    (readNum mem 2 6)
where
  readCheckSumMem (tlv : TwoLevelsTlv) (mem : Nat → UInt8) (off : Nat) : TwoLevelsTlv :=
    { tlv with checkSum := readNum mem 4 (off + alignTo4Bytes tlv.extLen) }
  readEntryMem (tlv : TwoLevelsTlv) (mem : Nat → UInt8) (size length : Nat) : TwoLevelsTlv × List (Nat × Nat) :=
    if size < 8 then (tlv, [(0, 4)])
    else if length = 0 ∨ size < 8 + length then (tlv, [(0, 4), (4, 4)])
    else
      match memcpyS (List.replicate length 0) 0 length (readMem mem 8 length) with
      | none => (readCheckSumMem { tlv with ext := some (List.replicate length 0) } mem 8,
          [(0, 4), (4, 4), (8, length), (8 + alignTo4Bytes tlv.extLen, 4)])
      | some ext => (readCheckSumMem { tlv with ext := some ext, extLen := length } mem 8,
          [(0, 4), (4, 4), (8, length), (8 + alignTo4Bytes length, 4)])

end TwoLevelsTlv

namespace StreamDepacketizer

/-- The end of `DepacketizeBuffer`: the frame, behind `tlvTotalLen` bytes. -/
def takeDataMem (d : StreamDepacketizer) (mem : Nat → UInt8) (size tlvTotalLen : Nat) (reads : List (Nat × Nat)) :
    StreamDepacketizer × List (Nat × Nat) :=
  if dataLength ≤ 0 ∨ maxStreamLen < dataLength then ({ d with dataLength := dataLength }, reads)
  else if Word.int32 (size - tlvTotalLen) < dataLength then ({ d with dataLength := dataLength }, reads)
  else
    match memcpyS (List.replicate dataLength.toNat 0) 0 dataLength.toNat (readMem mem tlvTotalLen dataLength.toNat) with
    | none => ({ d with data := some (List.replicate dataLength.toNat 0), dataLength := -1 },
        reads ++ [(tlvTotalLen, dataLength.toNat)])
    | some data => ({ d with data := some data, dataLength := dataLength }, reads ++ [(tlvTotalLen, dataLength.toNat)])
where
  dataLength : Int := takeData.dataLength d tlvTotalLen

def depacketizeBufferMem (d : StreamDepacketizer) (mem : Nat → UInt8) (size : Nat) :
    StreamDepacketizer × List (Nat × Nat) :=
  if d.header.extFlag ≠ 0 then
    takeDataMem { d with tlvs := (d.tlvs.depacketizeMem mem size).1 } mem size
      (((d.tlvs.depacketizeMem mem size).1.checkSum + 4) % 4294967296) (d.tlvs.depacketizeMem mem size).2
  else d.takeDataMem mem size 0 []

end StreamDepacketizer

/-! ## A buffer whose reads stay inside -/

def ReadsInside (size : Nat) (reads : List (Nat × Nat)) : Prop := ∀ r ∈ reads, r.1 + r.2 ≤ size

section
variable {mem : Nat → UInt8} {size : Nat} (tlv : TwoLevelsTlv)

@[simp] theorem length_readMem (mem : Nat → UInt8) (off n : Nat) : (readMem mem off n).length = n := by
  simp [readMem]

theorem drop_take_readMem {off n : Nat} (h : off + n ≤ size) :
    ((readMem mem 0 size).drop off).take n = readMem mem off n := by
  refine List.ext_getElem (by simp; omega) fun i h₁ h₂ => ?_
  simp [readMem]

theorem readBig_buffer {k off : Nat} (h : off + k ≤ size) :
    Bytes.readBig k ((readMem mem 0 size).drop off) = readNum mem k off := by
  unfold readNum Bytes.readBig
  rw [drop_take_readMem h, List.take_of_length_le (Nat.le_of_eq (length_readMem mem off k))]

theorem readsInside_cons {r : Nat × Nat} {reads : List (Nat × Nat)} :
    ReadsInside size (r :: reads) ↔ r.1 + r.2 ≤ size ∧ ReadsInside size reads := List.forall_mem_cons

theorem readsInside_append {l₁ l₂ : List (Nat × Nat)} :
    ReadsInside size (l₁ ++ l₂) ↔ ReadsInside size l₁ ∧ ReadsInside size l₂ := List.forall_mem_append

theorem readCheckSumMem_inside {off : Nat} (h : off + alignTo4Bytes tlv.extLen + 4 ≤ size) :
    TwoLevelsTlv.depacketizeMem.readCheckSumMem tlv mem off = tlv.readCheckSum ((readMem mem 0 size).drop off) := by
  unfold TwoLevelsTlv.depacketizeMem.readCheckSumMem TwoLevelsTlv.readCheckSum
  rw [List.drop_drop, readBig_buffer h]

theorem readEntryMem_inside (length : Nat)
    (h : ReadsInside size (TwoLevelsTlv.depacketizeMem.readEntryMem tlv mem size length).2) :
    (TwoLevelsTlv.depacketizeMem.readEntryMem tlv mem size length).1 =
      TwoLevelsTlv.depacketize.readEntry tlv (readMem mem 0 size) length := by
  unfold TwoLevelsTlv.depacketizeMem.readEntryMem at h ⊢
  unfold TwoLevelsTlv.depacketize.readEntry
  rw [length_readMem]
  by_cases h₈ : size < 8
  · rw [if_pos h₈, if_pos h₈]
  · rw [if_neg h₈] at h
    rw [if_neg h₈, if_neg h₈]
    by_cases hlength : length = 0 ∨ size < 8 + length
    · rw [if_pos hlength, if_pos hlength]
    · rw [if_neg hlength] at h
      rw [if_neg hlength, if_neg hlength, drop_take_readMem (by omega)]
      cases hcopy : memcpyS (List.replicate length 0) 0 length (readMem mem 8 length) with
      | none =>
        rw [hcopy] at h
        simp only [readsInside_cons] at h
        exact readCheckSumMem_inside _ h.2.2.2.1
      | some ext =>
        rw [hcopy] at h
        simp only [readsInside_cons] at h
        exact readCheckSumMem_inside _ h.2.2.2.1

theorem depacketizeMem_inside (h : ReadsInside size (tlv.depacketizeMem mem size).2) :
    (tlv.depacketizeMem mem size).1 = tlv.depacketize (readMem mem 0 size) := by
  unfold TwoLevelsTlv.depacketizeMem at h ⊢
  unfold TwoLevelsTlv.depacketize
  rw [length_readMem]
  by_cases h₄ : size < 4
  · rw [if_pos h₄, if_pos h₄]
  · have htype : Bytes.readBig 2 (readMem mem 0 size) = readNum mem 2 0 :=
      readBig_buffer (show 0 + 2 ≤ size by omega)
    rw [if_neg h₄] at h
    rw [if_neg h₄, if_neg h₄, htype, readBig_buffer (by omega)]
    by_cases hmask : BitVec.ofNat 16 (readNum mem 2 0) &&& extBufMask = 0
    · rw [if_pos hmask] at h
      rw [if_pos hmask, if_pos hmask]
      simp only [readsInside_cons] at h
      exact readCheckSumMem_inside _ h.2.1
    · rw [if_neg hmask] at h
      rw [if_neg hmask, if_neg hmask]
      by_cases h₈ : size < 8
      · simp [TwoLevelsTlv.depacketizeMem.readEntryMem, TwoLevelsTlv.depacketize.readEntry, h₈]
      · rw [readBig_buffer (by omega)]
        exact readEntryMem_inside _ _ h

theorem takeDataMem_inside (d : StreamDepacketizer) {tlvTotalLen : Nat} {reads : List (Nat × Nat)}
    (h : ReadsInside size (d.takeDataMem mem size tlvTotalLen reads).2) :
    (d.takeDataMem mem size tlvTotalLen reads).1 = d.takeData (readMem mem 0 size) tlvTotalLen ∧
      ReadsInside size reads := by
  unfold StreamDepacketizer.takeDataMem StreamDepacketizer.takeDataMem.dataLength at h ⊢
  unfold StreamDepacketizer.takeData
  rw [length_readMem]
  split
  · rename_i hbad
    rw [if_pos hbad] at h
    exact ⟨rfl, h⟩
  · rename_i hbad
    rw [if_neg hbad] at h
    split
    · rename_i hshort
      rw [if_pos hshort] at h
      exact ⟨rfl, h⟩
    · rename_i hshort
      rw [if_neg hshort] at h
      have hread : tlvTotalLen + (StreamDepacketizer.takeData.dataLength d tlvTotalLen).toNat ≤ size ∧
          ReadsInside size reads := by
        revert h
        split <;> exact fun h => ⟨h _ (List.mem_append_right _ List.mem_cons_self), (readsInside_append.mp h).1⟩
      rw [drop_take_readMem hread.1]
      refine ⟨?_, hread.2⟩
      generalize memcpyS _ _ _ _ = copy
      cases copy <;> rfl

theorem depacketizeBufferMem_inside (d : StreamDepacketizer)
    (h : ReadsInside size (d.depacketizeBufferMem mem size).2) :
    (d.depacketizeBufferMem mem size).1 = d.depacketizeBuffer (readMem mem 0 size) := by
  unfold StreamDepacketizer.depacketizeBufferMem at h ⊢
  unfold StreamDepacketizer.depacketizeBuffer
  split
  · rename_i hflag
    rw [if_pos hflag] at h
    obtain ⟨hdata, hreads⟩ := takeDataMem_inside _ h
    rw [hdata, depacketizeMem_inside d.tlvs hreads]
  · rename_i hflag
    rw [if_neg hflag] at h
    exact (takeDataMem_inside d h).1

end

/-! ## Which packets are read inside the buffer -/

/-- The payload is a slice of the buffer that ends where the header says, and all reads were inside. -/
def PayloadSound (header : CommonHeader) (mem : Nat → UInt8) (size : Nat) (r : StreamDepacketizer × List (Nat × Nat)) :
    Prop :=
  ∀ payload, r.1.data = some payload → ∃ o n, 1 ≤ n ∧ o + n ≤ size ∧ o + n = header.dataLen.toNat ∧
    payload = readMem mem o n ∧ ReadsInside size r.2

def checkSumOffset (mem : Nat → UInt8) (size : Nat) : Option Nat :=
  if size < 4 then none
  else if BitVec.ofNat 16 (readNum mem 2 0) &&& extBufMask = 0 then some 4
  else if size < 8 ∨ readNum mem 2 6 = 0 ∨ size < 8 + readNum mem 2 6 then none
  else some (8 + alignTo4Bytes (readNum mem 2 6))

def frameOffset (header : CommonHeader) (mem : Nat → UInt8) (size : Nat) : Nat :=
  if header.extFlag ≠ 0 then (((checkSumOffset mem size).elim 0 (readNum mem 4)) + 4) % 4294967296 else 0

/-- The lengths pass the tests of `DepacketizeBuffer`. -/
def Accepted (header : CommonHeader) (size offset : Nat) : Prop :=
  0 < Word.int32 (header.dataLen.toNat - offset) ∧ Word.int32 (header.dataLen.toNat - offset) ≤ maxStreamLen ∧
    Word.int32 (header.dataLen.toNat - offset) ≤ Word.int32 (size - offset)

section
variable {mem : Nat → UInt8} {size : Nat}

theorem readNum_lt (mem : Nat → UInt8) (k off : Nat) : readNum mem k off < 256 ^ k := by
  have hlt := Bytes.get_lt ((readMem mem off k).take k).reverse
  rw [List.length_reverse, List.length_take, length_readMem, Nat.min_self] at hlt
  exact hlt

theorem memcpyS_readMem {off n : Nat} (hpos : 0 < n) (hmax : n ≤ 0x7fffffff) :
    memcpyS (List.replicate n 0) 0 n (readMem mem off n) = some (readMem mem off n) := by
  have hne : readMem mem off n ≠ [] := List.ne_nil_of_length_pos (by rw [length_readMem]; exact hpos)
  have hcopy := memcpyS_fresh hne (by rw [length_readMem]; exact hmax)
  rw [length_readMem] at hcopy
  exact hcopy

theorem depacketizeMem_fresh (mem : Nat → UInt8) (size : Nat) :
    (TwoLevelsTlv.depacketizeMem {} mem size).1.checkSum = (checkSumOffset mem size).elim 0 (readNum mem 4) ∧
      (ReadsInside size (TwoLevelsTlv.depacketizeMem {} mem size).2 ↔ ∀ off ∈ checkSumOffset mem size, off + 4 ≤ size) := by
  have halign : alignTo4Bytes 0 = 0 := by decide
  unfold TwoLevelsTlv.depacketizeMem checkSumOffset
  by_cases h₄ : size < 4
  · simp [h₄, ReadsInside]
  · rw [if_neg h₄, if_neg h₄]
    by_cases hmask : BitVec.ofNat 16 (readNum mem 2 0) &&& extBufMask = 0
    · rw [if_pos hmask, if_pos hmask]
      refine ⟨by simp [TwoLevelsTlv.depacketizeMem.readCheckSumMem, halign], ?_⟩
      simp [ReadsInside, halign]
      omega
    · rw [if_neg hmask, if_neg hmask]
      unfold TwoLevelsTlv.depacketizeMem.readEntryMem
      by_cases h₈ : size < 8
      · simp [h₈, ReadsInside]
        omega
      · rw [if_neg h₈]
        by_cases hlength : readNum mem 2 6 = 0 ∨ size < 8 + readNum mem 2 6
        · rw [if_pos hlength, if_pos (.inr hlength)]
          refine ⟨rfl, ?_⟩
          simp [ReadsInside]
          omega
        · have hlt := readNum_lt mem 2 6
          rw [if_neg hlength, if_neg (by omega), memcpyS_readMem (by omega) (by omega)]
          refine ⟨rfl, ?_⟩
          simp [ReadsInside]
          omega

theorem takeDataMem_accepted {d : StreamDepacketizer} {offset : Nat} (mem : Nat → UInt8) (reads : List (Nat × Nat))
    (h : Accepted d.header size offset) : ∃ n : Nat, (n : Int) = Word.int32 (d.header.dataLen.toNat - offset) ∧
      d.takeDataMem mem size offset reads =
        ({ d with data := some (readMem mem offset n), dataLength := n }, reads ++ [(offset, n)]) := by
  obtain ⟨hpos, hmax, hroom⟩ := h
  obtain ⟨n, hn⟩ := Int.eq_ofNat_of_zero_le (Int.le_of_lt hpos)
  have hmax' : (maxStreamLen : Int) = 2097152 := rfl
  refine ⟨n, hn.symm, ?_⟩
  unfold StreamDepacketizer.takeDataMem StreamDepacketizer.takeDataMem.dataLength StreamDepacketizer.takeData.dataLength
  rw [hn] at hpos hmax hroom ⊢
  rw [if_neg (by omega), if_neg (by omega), Int.toNat_natCast, memcpyS_readMem (by omega) (by omega)]

theorem takeDataMem_not_accepted {d : StreamDepacketizer} {offset : Nat} {reads : List (Nat × Nat)}
    (h : ¬Accepted d.header size offset) : (d.takeDataMem mem size offset reads).1.data = d.data := by
  unfold StreamDepacketizer.takeDataMem StreamDepacketizer.takeDataMem.dataLength StreamDepacketizer.takeData.dataLength
  unfold Accepted at h
  split
  · rfl
  · rename_i hbad
    rw [if_pos (by omega)]

theorem accepted_offset {header : CommonHeader} {offset n : Nat} (hsize : size < 4294967296)
    (hoffset : offset < 4294967296) (h : Accepted header size offset)
    (hn : (n : Int) = Word.int32 (header.dataLen.toNat - offset)) :
    1 ≤ n ∧ (offset ≤ size ↔ offset + n ≤ size) ∧ (offset ≤ size → offset + n = header.dataLen.toNat) := by
  have hlt := header.dataLen.isLt
  have hmax' : (maxStreamLen : Int) = 2097152 := rfl
  unfold Accepted Word.int32 at h
  unfold Word.int32 at hn
  omega

end

/-- For every header, every memory and every size of the buffer: what the receiver takes from a packet is a
slice of the buffer and was found by reads inside it if and only if, for lengths that pass its tests, the
check sum is inside the buffer and the frame does not start behind it. -/
theorem stream_payload_sound_iff (streamType : StreamType) (header : CommonHeader) (mem : Nat → UInt8)
    (size : BitVec 32) :
    PayloadSound header mem size.toNat
        (StreamDepacketizer.depacketizeBufferMem { streamType := streamType, header := header } mem size.toNat) ↔
      (Accepted header size.toNat (frameOffset header mem size.toNat) →
        frameOffset header mem size.toNat ≤ size.toNat ∧
          (header.extFlag ≠ 0 → ∀ off ∈ checkSumOffset mem size.toNat, off + 4 ≤ size.toNat)) := by
  obtain ⟨hsum, hreads⟩ := depacketizeMem_fresh mem size.toNat
  have hoffset : frameOffset header mem size.toNat < 4294967296 := by
    unfold frameOffset
    split
    · exact Nat.mod_lt _ (by decide)
    · decide
  -- the receiver with its extension, and the reads for it
  obtain ⟨d, reads, hd, hdata, hcall, hinside⟩ : ∃ (d : StreamDepacketizer) (reads : List (Nat × Nat)),
      d.header = header ∧ d.data = none ∧
      StreamDepacketizer.depacketizeBufferMem { streamType := streamType, header := header } mem size.toNat =
        d.takeDataMem mem size.toNat (frameOffset header mem size.toNat) reads ∧
      (ReadsInside size.toNat reads ↔
        (header.extFlag ≠ 0 → ∀ off ∈ checkSumOffset mem size.toNat, off + 4 ≤ size.toNat)) := by
    unfold StreamDepacketizer.depacketizeBufferMem frameOffset
    by_cases hflag : header.extFlag = 0
    · exact ⟨{ streamType := streamType, header := header }, [], rfl, rfl, by simp [hflag], by simp [hflag, ReadsInside]⟩
    · refine ⟨{ streamType := streamType, header := header, tlvs := (TwoLevelsTlv.depacketizeMem {} mem size.toNat).1 },
        (TwoLevelsTlv.depacketizeMem {} mem size.toNat).2, rfl, rfl, ?_, ?_⟩
      · rw [if_pos hflag, if_pos hflag, hsum]
      · rw [hreads]
        exact ⟨fun h _ => h, fun h => h hflag⟩
  rw [hcall]
  subst hd
  by_cases haccepted : Accepted d.header size.toNat (frameOffset d.header mem size.toNat)
  · obtain ⟨n, hn, htake⟩ := takeDataMem_accepted mem reads haccepted
    obtain ⟨hpos, hroom, hend⟩ := accepted_offset size.isLt hoffset haccepted hn
    rw [htake, ← hinside]
    constructor
    · intro h _
      obtain ⟨-, -, -, -, -, -, hall⟩ := h _ rfl
      obtain ⟨hfront, hlast⟩ := readsInside_append.mp hall
      exact ⟨hroom.mpr (hlast _ List.mem_cons_self), hfront⟩
    · intro h payload hpayload
      obtain ⟨hle, hfront⟩ := h haccepted
      refine ⟨frameOffset d.header mem size.toNat, n, hpos, hroom.mp hle, hend hle, (Option.some.inj hpayload).symm, ?_⟩
      refine readsInside_append.mpr ⟨hfront, fun r hr => ?_⟩
      rw [List.mem_singleton.mp hr]
      exact hroom.mp hle
  · refine iff_of_true (fun payload hpayload => ?_) fun h => absurd h haccepted
    rw [takeDataMem_not_accepted haccepted, hdata] at hpayload
    cases hpayload

def emptyRecord (checkSum : Nat) (i : Nat) : UInt8 := (Bytes.putBig 4 0 ++ Bytes.putBig 4 checkSum).getD i 0

def recordReader : StreamDepacketizer := { streamType := .commonVideoStream, header := { extFlag := 1, dataLen := 8 } }

theorem depacketizeBufferMem_inside_record : (recordReader.depacketizeBufferMem (emptyRecord 0) 8).1 =
    recordReader.depacketizeBuffer (readMem (emptyRecord 0) 0 8) :=
  depacketizeBufferMem_inside _ (by unfold ReadsInside; decide +kernel)

/-- Five bytes that end within the check sum, and eight bytes with a check sum that wraps: the frame is
read 4 GiB behind the buffer. -/
theorem stream_payload_read_outside :
    ¬PayloadSound { extFlag := 1, dataLen := 5 } (emptyRecord 0) 5
        (StreamDepacketizer.depacketizeBufferMem
          { streamType := .commonVideoStream, header := { extFlag := 1, dataLen := 5 } } (emptyRecord 0) 5) ∧
      ¬PayloadSound { extFlag := 1, dataLen := 0xfffffff5 } (emptyRecord 0xfffffff0) 8
        (StreamDepacketizer.depacketizeBufferMem
          { streamType := .commonVideoStream, header := { extFlag := 1, dataLen := 0xfffffff5 } }
          (emptyRecord 0xfffffff0) 8) := by
  refine ⟨fun h => ?_, fun h => ?_⟩
  · obtain ⟨-, -, -, -, -, -, hall⟩ := h [0] (by decide +kernel)
    have hreads : (StreamDepacketizer.depacketizeBufferMem
        { streamType := .commonVideoStream, header := { extFlag := 1, dataLen := 5 } } (emptyRecord 0) 5).2 =
          [(0, 4), (4, 4), (4, 1)] := by decide +kernel
    rw [hreads] at hall
    exact absurd (hall (4, 4) (by decide)) (by decide)
  · obtain ⟨-, -, -, -, -, -, hall⟩ := h [0] (by decide +kernel)
    have hreads : (StreamDepacketizer.depacketizeBufferMem
        { streamType := .commonVideoStream, header := { extFlag := 1, dataLen := 0xfffffff5 } }
        (emptyRecord 0xfffffff0) 8).2 = [(0, 4), (4, 4), (0xfffffff4, 1)] := by decide +kernel
    rw [hreads] at hall
    exact absurd (hall (0xfffffff4, 1) (by decide)) (by decide)

end SoftBus
