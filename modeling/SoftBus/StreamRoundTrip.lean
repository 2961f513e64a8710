import SoftBus.StreamPacket

/-!
# What is put into a stream packet comes out of it

`packetizeStream_eq` gives the bytes of a packet, written out in order; the
receiver's functions are read off on them.
-/

namespace SoftBus

/-! ## Alignment -/

theorem and_not_three (y : BitVec 32) : y &&& ~~~3#32 = (y >>> 2) <<< 2 := by
  have h3 : ∀ i < 32, (3#32).getLsbD i = decide (i < 2) := by decide
  refine BitVec.eq_of_getLsbD_eq fun i hi => ?_
  rw [BitVec.getLsbD_and, BitVec.getLsbD_not, BitVec.getLsbD_shiftLeft, BitVec.getLsbD_ushiftRight, h3 i hi]
  by_cases h : i < 2
  · simp [h]
  · simp [h, hi, Nat.add_sub_cancel' (Nat.le_of_not_lt h)]

theorem alignTo4Bytes_bounds {x : Nat} (h : x ≤ 65535) : x ≤ alignTo4Bytes x ∧ alignTo4Bytes x ≤ x + 3 := by
  have hone : ((1#32 <<< 2) - 1 : BitVec 32) = 3#32 := by decide
  rw [alignTo4Bytes, align, alignShift, hone, and_not_three, BitVec.toNat_shiftLeft, BitVec.toNat_ushiftRight,
    BitVec.toNat_add, BitVec.toNat_ofNat, Nat.shiftRight_eq_div_pow, Nat.shiftLeft_eq]
  have : (3#32).toNat = 3 := rfl
  omega

/-! ## The header -/

theorem getLsbD_common (h : CommonHeader) {j : Nat} (hj : j < 32) :
    h.common.getLsbD j =
      if 30 ≤ j then h.version.getLsbD (j - 30)
      else if 29 ≤ j then h.subVersion.getLsbD (j - 29)
      else if 28 ≤ j then h.extFlag.getLsbD (j - 28)
      else if 24 ≤ j then h.streamType.getLsbD (j - 24)
      else if 23 ≤ j then h.marker.getLsbD (j - 23)
      else if 22 ≤ j then h.flag.getLsbD (j - 22)
      else if 18 ≤ j then h.level.getLsbD (j - 18)
      else h.streamId.getLsbD j := by
  have hout : ∀ {w : Nat} (x : BitVec w) {k : Nat}, w ≤ k → x.getLsbD k = false :=
    fun x _ hk => BitVec.getLsbD_of_ge x _ hk
  simp only [CommonHeader.common, BitVec.getLsbD_or, BitVec.getLsbD_shiftLeft, BitVec.getLsbD_setWidth]
  grind

theorem ofWords_common (h : CommonHeader) :
    CommonHeader.ofWords h.common h.timestamp h.dataLen (h.seqNum.setWidth 32 <<< 16 ||| h.subSeqNum.setWidth 32) =
      { h with subSeqNum := h.subSeqNum &&& 0xff } := by
  apply CommonHeader.ext
  case timestamp => rfl
  case dataLen => rfl
  case seqNum =>
    refine BitVec.eq_of_getLsbD_eq fun i hi => ?_
    have hlt : 16 + i < 32 := by omega
    have hlt' : i < 32 := by omega
    simp [CommonHeader.ofWords, hi, hlt, hlt']
  case subSeqNum =>
    refine BitVec.eq_of_getLsbD_eq fun i hi => ?_
    simp [CommonHeader.ofWords]
  all_goals
    refine BitVec.eq_of_getLsbD_eq fun i hi => ?_
    simp only [CommonHeader.ofWords, BitVec.getLsbD_setWidth, BitVec.getLsbD_ushiftRight]
    rw [getLsbD_common h (by omega)]
    grind

theorem length_packetize (h : CommonHeader) : h.packetize.length = streamHeaderSize := by
  simp [CommonHeader.packetize, streamHeaderSize]

theorem readBig_word (x : BitVec 32) (l : List UInt8) :
    BitVec.ofNat 32 (Bytes.readBig 4 (Bytes.putBig 4 x.toNat ++ l)) = x := by
  rw [Bytes.readBig_putBig_append x.isLt, BitVec.ofNat_toNat, BitVec.setWidth_eq]

theorem depacketize_packetize (h : CommonHeader) (rest : List UInt8) :
    CommonHeader.depacketize (h.packetize ++ rest) = { h with subSeqNum := h.subSeqNum &&& 0xff } := by
  rw [← ofWords_common, CommonHeader.depacketize, CommonHeader.packetize]
  simp only [List.append_assoc]
  rw [readBig_word, Bytes.drop_putBig_append, readBig_word, Bytes.drop_putBig_append_add 4 _ 4,
    Bytes.drop_putBig_append, readBig_word, Bytes.drop_putBig_append_add 4 _ 8, Bytes.drop_putBig_append_add 4 _ 4,
    Bytes.drop_putBig_append, readBig_word]

theorem and_low_byte_eq_iff (x : BitVec 16) : x &&& 0xff = x ↔ x.toNat < 256 := by
  have hand : (x &&& 0xff).toNat = x.toNat % 256 := Nat.and_two_pow_sub_one_eq_mod _ 8
  rw [← BitVec.toNat_inj, hand]
  omega

/-- A header comes back as it was if and only if its sub-sequence number fits in a byte. -/
theorem stream_header_codec_iff (h : CommonHeader) :
    CommonHeader.depacketize h.packetize = h ↔ h.subSeqNum.toNat < 256 := by
  have hback := depacketize_packetize h []
  rw [List.append_nil] at hback
  rw [hback, ← and_low_byte_eq_iff]
  exact ⟨fun heq => congrArg CommonHeader.subSeqNum heq, fun heq => CommonHeader.ext rfl rfl rfl rfl rfl rfl rfl rfl rfl
    rfl rfl heq⟩

theorem stream_header_loses_subSeqNum :
    (CommonHeader.depacketize ({ subSeqNum := 256 } : CommonHeader).packetize).subSeqNum = 0 := by decide +kernel

/-! ## The bytes of a packet -/

def zeros (n : Nat) : List UInt8 := List.replicate n 0

theorem zeros_add (m n : Nat) : zeros (m + n) = zeros m ++ zeros n := List.replicate_add ..

@[simp] theorem length_zeros (n : Nat) : (zeros n).length = n := List.length_replicate

section
variable {b bytes src : List UInt8} {off : Nat}

theorem poke_flatten (l : List (List UInt8)) {m : List (List UInt8)} (hoff : l.flatten.length = off)
    (hb : b.length = bytes.length) : poke (l ++ b :: m).flatten off bytes = (l ++ bytes :: m).flatten := by
  subst hoff
  rw [List.flatten_append, List.flatten_cons, List.flatten_append, List.flatten_cons, poke, List.take_left, ← hb,
    ← List.append_assoc l.flatten b, ← List.length_append, List.drop_left, List.append_assoc]

theorem memcpyS_poke {dest : List UInt8} {destMax : Nat}
    (h : destMax ≠ 0 ∧ destMax ≤ 0x7fffffff ∧ src.length ≤ destMax) :
    memcpyS dest off destMax src = some (poke dest off src) := memcpyS_eq_some.mpr ⟨h, rfl⟩

theorem memcpyS_fresh (hpos : src ≠ []) (hmax : src.length ≤ 0x7fffffff) :
    memcpyS (List.replicate src.length 0) 0 src.length src = some src := by
  have hlen := List.length_pos_of_ne_nil hpos
  rw [memcpyS_poke (by omega)]
  simp [poke]

end

theorem calculateExtSize_of_pos {n : Nat} (h : 0 < n) : calculateExtSize n = 12 + alignTo4Bytes n := by
  rw [calculateExtSize, if_pos h, headerLen, numsLen, checkSumLen, alignTo4Bytes]
  omega

section
variable {ext : List UInt8} (hpos : ext ≠ []) (hmax : ext.length ≤ 65535)

def padding (ext : List UInt8) : List UInt8 := zeros (alignTo4Bytes ext.length - ext.length)

include hmax in
theorem zeros_align : zeros (alignTo4Bytes ext.length) = zeros ext.length ++ padding ext := by
  rw [padding, ← zeros_add, Nat.add_sub_cancel' (alignTo4Bytes_bounds hmax).1]

def entryBytes (ext : List UInt8) : List UInt8 :=
  [Bytes.putBig 2 0, Bytes.putBig 2 ext.length, ext, padding ext].flatten

include hmax in
theorem length_entryBytes : (entryBytes ext).length = 4 + alignTo4Bytes ext.length := by
  have := (alignTo4Bytes_bounds hmax).1
  simp only [entryBytes, padding, List.length_flatten, List.map_cons, List.map_nil, List.sum_cons, List.sum_nil,
    Bytes.length_putBig, length_zeros]
  omega

include hpos hmax in
theorem addFrameExtData_eq {a rest : List UInt8} {start : Nat} (ha : a.length = start) :
    addFrameExtData (a ++ (zeros (4 + alignTo4Bytes ext.length) ++ rest)) start ext =
      some (a ++ (entryBytes ext ++ rest)) := by
  have hle := alignTo4Bytes_bounds hmax
  have hlen := List.length_pos_of_ne_nil hpos
  have hbuf : a ++ (zeros (4 + alignTo4Bytes ext.length) ++ rest) =
      [a, zeros 2, zeros 2, zeros ext.length, padding ext, rest].flatten := by
    rw [show 4 = 2 + 2 from rfl, zeros_add, zeros_add, zeros_align hmax]
    simp
  have htype : poke [a, zeros 2, zeros 2, zeros ext.length, padding ext, rest].flatten start (Bytes.putBig 2 0) =
      [a, Bytes.putBig 2 0, zeros 2, zeros ext.length, padding ext, rest].flatten :=
    poke_flatten [a] (by simp [ha]) (by simp)
  have hlength : poke [a, Bytes.putBig 2 0, zeros 2, zeros ext.length, padding ext, rest].flatten (start + 2)
      (Bytes.putBig 2 ext.length) =
      [a, Bytes.putBig 2 0, Bytes.putBig 2 ext.length, zeros ext.length, padding ext, rest].flatten :=
    poke_flatten [a, _] (by simp [ha]) (by simp)
  have hdata : poke [a, Bytes.putBig 2 0, Bytes.putBig 2 ext.length, zeros ext.length, padding ext, rest].flatten
      (start + 4) ext = [a, Bytes.putBig 2 0, Bytes.putBig 2 ext.length, ext, padding ext, rest].flatten :=
    poke_flatten [a, _, _] (by simp [ha]) (by simp)
  rw [hbuf, addFrameExtData, Nat.mod_eq_of_lt (by omega), htype, hlength, memcpyS_poke (by omega), hdata]
  simp [entryBytes]

def tlvBytes (ext : List UInt8) : List UInt8 :=
  [Bytes.putBig 2 1, Bytes.putBig 2 1, entryBytes ext, Bytes.putBig 4 (8 + alignTo4Bytes ext.length)].flatten

include hmax in
theorem length_tlvBytes : (tlvBytes ext).length = 12 + alignTo4Bytes ext.length := by
  simp only [tlvBytes, List.length_flatten, List.map_cons, List.map_nil, List.sum_cons, List.sum_nil,
    Bytes.length_putBig, length_entryBytes hmax]
  omega

include hpos hmax in
theorem tlvPacketize_eq {header rest : List UInt8} {offset : Nat} (hheader : header.length = offset) :
    tlvPacketize (some ext) (header ++ (zeros (12 + alignTo4Bytes ext.length) ++ rest)) (12 + alignTo4Bytes ext.length)
      offset = some (header ++ (tlvBytes ext ++ rest)) := by
  have hentry := length_entryBytes hmax
  have hbuf : header ++ (zeros (12 + alignTo4Bytes ext.length) ++ rest) =
      [header, zeros 2, zeros 2].flatten ++ (zeros (4 + alignTo4Bytes ext.length) ++ (zeros 4 ++ rest)) := by
    rw [show 12 + alignTo4Bytes ext.length = 2 + (2 + ((4 + alignTo4Bytes ext.length) + 4)) by omega]
    simp only [zeros_add 2, zeros_add (4 + _)]
    simp
  have htype : poke [header, zeros 2, zeros 2, entryBytes ext, zeros 4, rest].flatten offset (Bytes.putBig 2 1) =
      [header, Bytes.putBig 2 1, zeros 2, entryBytes ext, zeros 4, rest].flatten :=
    poke_flatten [header] (by simp [hheader]) (by simp)
  have hnums : poke [header, Bytes.putBig 2 1, zeros 2, entryBytes ext, zeros 4, rest].flatten (offset + 2)
      (Bytes.putBig 2 1) = [header, Bytes.putBig 2 1, Bytes.putBig 2 1, entryBytes ext, zeros 4, rest].flatten :=
    poke_flatten [header, _] (by simp [hheader]) (by simp)
  have hsum : poke [header, Bytes.putBig 2 1, Bytes.putBig 2 1, entryBytes ext, zeros 4, rest].flatten
      (offset + (12 + alignTo4Bytes ext.length - 4)) (Bytes.putBig 4 (8 + alignTo4Bytes ext.length)) =
      [header, Bytes.putBig 2 1, Bytes.putBig 2 1, entryBytes ext, Bytes.putBig 4 (8 + alignTo4Bytes ext.length),
        rest].flatten :=
    poke_flatten [header, _, _, _] (by simp [hheader, hentry]; omega) (by simp)
  have hbody : [header, zeros 2, zeros 2].flatten ++ (entryBytes ext ++ (zeros 4 ++ rest)) =
      [header, zeros 2, zeros 2, entryBytes ext, zeros 4, rest].flatten := by simp
  rw [hbuf, tlvPacketize]
  dsimp only [headerLen, numsLen, checkSumLen]
  rw [addFrameExtData_eq hpos hmax (by simp [hheader]), Option.map_some, Option.some.injEq,
    show 2 + 2 + alignTo4Bytes ext.length + (2 + 2) = 8 + alignTo4Bytes ext.length by omega, hbody,
    show extBufMask.toNat = 1 from rfl, htype, hnums, hsum]
  simp [tlvBytes]

end

def extBytes (ext : Option (List UInt8)) : List UInt8 := ext.elim [] tlvBytes

section
variable {payload : List UInt8} {ext : Option (List UInt8)} (hpos : payload ≠ []) (hmax : payload.length ≤ maxStreamLen)
  (hext : ∀ e ∈ ext, e ≠ [] ∧ e.length ≤ 65535)

include hext in
theorem calculateExtSize_eq : calculateExtSize (extBufferLen ext) = (extBytes ext).length := by
  cases ext with
  | none => rfl
  | some e =>
    obtain ⟨hne, hle⟩ := hext e rfl
    exact (calculateExtSize_of_pos (List.length_pos_of_ne_nil hne)).trans (length_tlvBytes hle).symm

include hext in
theorem length_extBytes_le : (extBytes ext).length ≤ 65550 := by
  cases ext with
  | none => exact Nat.zero_le _
  | some e =>
    have hle := (hext e rfl).2
    have := alignTo4Bytes_bounds hle
    rw [extBytes, Option.elim_some, length_tlvBytes hle]
    omega

include hext in
theorem tlvPacketize_extBytes {header rest : List UInt8} {offset : Nat} (hheader : header.length = offset) :
    tlvPacketize ext (header ++ (zeros (extBytes ext).length ++ rest)) (extBytes ext).length offset =
      some (header ++ (extBytes ext ++ rest)) := by
  cases ext with
  | none => rfl
  | some e =>
    obtain ⟨hne, hle⟩ := hext e rfl
    rw [extBytes, Option.elim_some, length_tlvBytes hle]
    exact tlvPacketize_eq hne hle hheader

include hpos hmax hext in
theorem packetizeStream_eq (streamType : StreamType) (info : StreamFrameInfo) (now : BitVec 32) :
    packetizeStream streamType payload ext info now =
      some ((streamPacketHeader streamType (0 < (extBytes ext).length) ((extBytes ext).length + payload.length) info
        now).packetize ++ (extBytes ext ++ payload)) := by
  rw [packetizeStream, packetizeStream.extSize, calculateExtSize_eq hext]
  generalize hh : (streamPacketHeader streamType _ _ info now).packetize = header
  have hheader : header.length = streamHeaderSize := hh ▸ length_packetize _
  have hstart : poke (List.replicate (streamHeaderSize + (extBytes ext).length + payload.length) 0) 0 header =
      header ++ (zeros (extBytes ext).length ++ zeros payload.length) := by
    change poke (zeros _) 0 header = _
    rw [zeros_add, zeros_add]
    simpa using poke_flatten [] (b := zeros streamHeaderSize) (m := [zeros (extBytes ext).length, zeros payload.length])
      rfl (hheader ▸ length_zeros _)
  have hcopy : poke [header, extBytes ext, zeros payload.length].flatten ([header, extBytes ext].flatten.length) payload =
      [header, extBytes ext, payload].flatten := poke_flatten [header, extBytes ext] rfl (by simp)
  have hlen := List.length_pos_of_ne_nil hpos
  rw [maxStreamLen] at hmax
  rw [hstart, tlvPacketize_extBytes hext hheader]
  dsimp only
  rw [memcpyS_poke (by omega)]
  simpa [hheader] using hcopy

end

/-! ## Reading a packet -/

theorem depacketize_tlvBytes {ext : List UInt8} (hpos : ext ≠ []) (hmax : ext.length ≤ 65535) (tlv : TwoLevelsTlv)
    (rest : List UInt8) : tlv.depacketize (tlvBytes ext ++ rest) =
      { type := 1, nums := 1, checkSum := 8 + alignTo4Bytes ext.length, ext := some ext, extLen := ext.length } := by
  have hlen := List.length_pos_of_ne_nil hpos
  have hle := alignTo4Bytes_bounds hmax
  have hbytes : tlvBytes ext ++ rest = Bytes.putBig 2 1 ++ (Bytes.putBig 2 1 ++ (Bytes.putBig 2 0 ++
      (Bytes.putBig 2 ext.length ++ (ext ++ (padding ext ++ (Bytes.putBig 4 (8 + alignTo4Bytes ext.length) ++ rest)))))) := by
    simp [tlvBytes, entryBytes]
  have hsize : 12 + alignTo4Bytes ext.length ≤ (tlvBytes ext ++ rest).length := by
    rw [List.length_append, length_tlvBytes hmax]
    omega
  have htype : Bytes.readBig 2 (tlvBytes ext ++ rest) = 1 := by rw [hbytes, Bytes.readBig_putBig_append (by decide)]
  have hnums : Bytes.readBig 2 ((tlvBytes ext ++ rest).drop 2) = 1 := by
    rw [hbytes, Bytes.drop_putBig_append, Bytes.readBig_putBig_append (by decide)]
  have hlength : Bytes.readBig 2 ((tlvBytes ext ++ rest).drop 6) = ext.length := by
    rw [hbytes, Bytes.drop_putBig_append_add 2 _ 4, Bytes.drop_putBig_append_add 2 _ 2, Bytes.drop_putBig_append,
      Bytes.readBig_putBig_append (by omega)]
  have hdata : (tlvBytes ext ++ rest).drop 8 =
      ext ++ (padding ext ++ (Bytes.putBig 4 (8 + alignTo4Bytes ext.length) ++ rest)) := by
    rw [hbytes, Bytes.drop_putBig_append_add 2 _ 6, Bytes.drop_putBig_append_add 2 _ 4, Bytes.drop_putBig_append_add 2 _ 2,
      Bytes.drop_putBig_append]
  have htake : ((tlvBytes ext ++ rest).drop 8).take ext.length = ext := by rw [hdata, List.take_left]
  have hsum : Bytes.readBig 4 (((tlvBytes ext ++ rest).drop 8).drop (alignTo4Bytes ext.length)) =
      8 + alignTo4Bytes ext.length := by
    rw [hdata, ← List.append_assoc, List.drop_left' (by simp [padding]; omega), Bytes.readBig_putBig_append (by omega)]
  rw [TwoLevelsTlv.depacketize, if_neg (by omega), htype, hnums, hlength, if_neg (by decide),
    TwoLevelsTlv.depacketize.readEntry, if_neg (by omega), if_neg (by omega), htake, memcpyS_fresh hpos (by omega)]
  dsimp only [TwoLevelsTlv.readCheckSum]
  rw [hsum]
  rfl

section
variable {d : StreamDepacketizer} {buffer payload : List UInt8}

theorem takeData_eq (front : List UInt8) (hbuffer : buffer = front ++ payload) (hpos : payload ≠ [])
    (hmax : payload.length ≤ maxStreamLen) (hdata : d.header.dataLen.toNat = buffer.length) :
    d.takeData buffer front.length = { d with data := some payload, dataLength := payload.length } := by
  subst hbuffer
  have hlen := List.length_pos_of_ne_nil hpos
  have hmax' := hmax
  rw [maxStreamLen] at hmax'
  have hrest : Word.int32 ((front ++ payload).length - front.length) = payload.length := by
    rw [List.length_append, Word.int32_of_bounds (by omega) (by omega)]
    omega
  have hlength : StreamDepacketizer.takeData.dataLength d front.length = payload.length := by
    rw [StreamDepacketizer.takeData.dataLength, hdata, hrest]
  rw [StreamDepacketizer.takeData, hlength, if_neg (by omega), hrest, if_neg (lt_irrefl _), Int.toNat_natCast,
    List.drop_left, List.take_length, memcpyS_fresh hpos (by omega)]

end

/-- The receiver's two calls: the first reads the header of the packet, the second all that is behind it. -/
def StreamDepacketizer.depacketize (d : StreamDepacketizer) (packet : List UInt8) : StreamDepacketizer :=
  (d.depacketizeHeader packet).depacketizeBuffer (packet.drop streamHeaderSize)

theorem depacketize_header {d : StreamDepacketizer}
    (hcommon : d.streamType = .commonVideoStream ∨ d.streamType = .commonAudioStream)
    (header : CommonHeader) (rest : List UInt8) : d.depacketize (header.packetize ++ rest) =
      { d with header := { header with subSeqNum := header.subSeqNum &&& 0xff } }.depacketizeBuffer rest := by
  rw [StreamDepacketizer.depacketize, StreamDepacketizer.depacketizeHeader, if_pos hcommon, depacketize_packetize,
    List.drop_left' (length_packetize header)]

section
variable {d : StreamDepacketizer} {payload : List UInt8} (hpos : payload ≠ []) (hmax : payload.length ≤ maxStreamLen)

include hpos hmax in
theorem depacketizeBuffer_plain (hflag : d.header.extFlag = 0) (hdata : d.header.dataLen.toNat = payload.length) :
    d.depacketizeBuffer payload = { d with data := some payload, dataLength := payload.length } := by
  rw [StreamDepacketizer.depacketizeBuffer, if_neg (fun h => h hflag)]
  exact takeData_eq [] rfl hpos hmax hdata

include hpos hmax in
theorem depacketizeBuffer_ext {ext : List UInt8} (hne : ext ≠ []) (hle : ext.length ≤ 65535)
    (hflag : d.header.extFlag = 1)
    (hdata : d.header.dataLen.toNat = (tlvBytes ext ++ payload).length) :
    d.depacketizeBuffer (tlvBytes ext ++ payload) =
      { d with
        tlvs := { type := 1, nums := 1, checkSum := 8 + alignTo4Bytes ext.length, ext := some ext, extLen := ext.length }
        data := some payload, dataLength := payload.length } := by
  have hbound := alignTo4Bytes_bounds hle
  have hfront : (8 + alignTo4Bytes ext.length + 4) % 4294967296 = (tlvBytes ext).length := by
    rw [length_tlvBytes hle]
    omega
  rw [StreamDepacketizer.depacketizeBuffer, if_pos (by rw [hflag]; decide), depacketize_tlvBytes hne hle, hfront]
  exact takeData_eq (tlvBytes ext) rfl hpos hmax hdata

include hpos hmax in
theorem depacketizeBuffer_extBytes {ext : Option (List UInt8)} (hext : ∀ e ∈ ext, e ≠ [] ∧ e.length ≤ 65535)
    (hfresh : d.tlvs = {}) (hflag : d.header.extFlag = if decide (0 < (extBytes ext).length) then 1 else 0)
    (hdata : d.header.dataLen.toNat = (extBytes ext ++ payload).length) :
    (d.depacketizeBuffer (extBytes ext ++ payload)).data = some payload ∧
      (d.depacketizeBuffer (extBytes ext ++ payload)).dataLength = payload.length ∧
      (d.depacketizeBuffer (extBytes ext ++ payload)).tlvs.ext = ext ∧
      (d.depacketizeBuffer (extBytes ext ++ payload)).tlvs.extLen = extBufferLen ext := by
  cases ext with
  | none =>
    rw [show extBytes none ++ payload = payload from rfl] at hdata ⊢
    rw [depacketizeBuffer_plain hpos hmax hflag hdata, hfresh]
    exact ⟨rfl, rfl, rfl, rfl⟩
  | some e =>
    obtain ⟨hne, hle⟩ := hext e rfl
    rw [show extBytes (some e) = tlvBytes e from rfl] at hflag hdata ⊢
    rw [if_pos (by rw [length_tlvBytes hle]; exact decide_eq_true (by omega))] at hflag
    rw [depacketizeBuffer_ext hpos hmax hne hle hflag hdata]
    exact ⟨rfl, rfl, rfl, rfl⟩

end

/-- A receiver of a common stream gets the frame and its extension, whatever the frame info says. -/
theorem stream_round_trip (sent received : StreamType) (payload : List UInt8) (ext : Option (List UInt8))
    (info : StreamFrameInfo) (now : BitVec 32)
    (hcommon : received = .commonVideoStream ∨ received = .commonAudioStream)
    (hpos : 1 ≤ payload.length) (hmax : payload.length ≤ maxStreamLen)
    (hext : ∀ e ∈ ext, 1 ≤ e.length ∧ e.length ≤ 65535) :
    ∃ packet d, packetizeStream sent payload ext info now = some packet ∧
      StreamDepacketizer.depacketize { streamType := received } packet = d ∧
      d.data = some payload ∧ d.dataLength = payload.length ∧ d.tlvs.ext = ext ∧ d.tlvs.extLen = extBufferLen ext := by
  have hne : payload ≠ [] := List.ne_nil_of_length_pos hpos
  have hext' : ∀ e ∈ ext, e ≠ [] ∧ e.length ≤ 65535 := fun e he =>
    ⟨List.ne_nil_of_length_pos (hext e he).1, (hext e he).2⟩
  have hdata : (BitVec.ofNat 32 ((extBytes ext).length + payload.length)).toNat = (extBytes ext ++ payload).length := by
    have := length_extBytes_le hext'
    rw [maxStreamLen] at hmax
    rw [BitVec.toNat_ofNat, List.length_append]
    omega
  exact ⟨_, _, packetizeStream_eq hne hmax hext' sent info now, depacketize_header hcommon _ _,
    depacketizeBuffer_extBytes hne hmax hext' rfl rfl hdata⟩

/-- Two bytes of audio with an extension of five. -/
theorem stream_round_trip_audio : ∃ packet d,
    packetizeStream .commonAudioStream [7, 8] (some [1, 2, 3, 4, 5]) ⟨1, 2, 3, 4, 0⟩ 9 = some packet ∧
      StreamDepacketizer.depacketize { streamType := .commonAudioStream } packet = d ∧
      d.data = some [7, 8] ∧ d.dataLength = 2 ∧ d.tlvs.ext = some [1, 2, 3, 4, 5] ∧ d.tlvs.extLen = 5 :=
  stream_round_trip .commonAudioStream .commonAudioStream [7, 8] (some [1, 2, 3, 4, 5]) ⟨1, 2, 3, 4, 0⟩ 9 (.inr rfl)
    (by decide) (by decide) fun e he => by
      cases he
      decide

end SoftBus
