import SoftBus.TdcServer

/-!
# Coalesced session packets

However the stream of packets is cut into reads, a read event finds the bytes of the next packet at the start of the
buffer. When a packet is complete it is handed on and the bytes after it are moved to the start. They may lie
over the length of the packet, which is read after that to move the write pointer.
-/

namespace SoftBus

open Bytes

/-- A packet of the peer; `cipher` is what `plain` was encrypted to. -/
structure TdcSrvPacket where
  flags : BitVec 32
  seq : BitVec 64
  plain : List UInt8
  cipher : List UInt8

namespace TdcSrvPacket

def head (p : TdcSrvPacket) : TdcPacketHead :=
  ⟨tdcSrvMagicNumber, moduleSession, p.seq.toNat, p.flags.toNat, p.cipher.length⟩

def wire (p : TdcSrvPacket) : List UInt8 := packTdcPacketHead p.head ++ p.cipher

def message (p : TdcSrvPacket) : TdcMessage := ⟨p.flags.toNat, p.seq.toNat, p.plain⟩

structure Sendable (decrypt : Nat → Nat → List UInt8 → Option (List UInt8)) (p : TdcSrvPacket) : Prop where
  decrypts : decrypt p.flags.toNat p.seq.toNat p.cipher = some p.plain
  fits : p.wire.length ≤ maxDataBuf

end TdcSrvPacket

def tdcSrvStream (packets : List TdcSrvPacket) : List UInt8 := packets.flatMap TdcSrvPacket.wire

namespace TdcServer

def Intact (packets : List TdcSrvPacket) (s : TdcServer) : Prop :=
  ∃ done todo, packets = done ++ todo ∧ s.processed = done.map TdcSrvPacket.message ∧ 0 ≤ s.buf.w ∧
    tdcSrvStream done ++ s.buf.contents = s.received

/-- The read event does not reject the stream and leaves it intact. -/
def Survives (decrypt : Nat → Nat → List UInt8 → Option (List UInt8)) (packets : List TdcSrvPacket) (s : TdcServer)
    (recvBuf : List UInt8) : Prop :=
  let r := transTdcSrvRecvData decrypt recvBuf s
  (r.1 = .message ∨ r.1 = .dataNotEnough) ∧ Intact packets r.2

/-- What the socket can give: at least one byte of the stream, and no more than there is room for. -/
structure Reads (packets : List TdcSrvPacket) (s : TdcServer) (recvBuf : List UInt8) : Prop where
  pos : recvBuf ≠ []
  room : recvBuf.length ≤ s.buf.freeLen
  next : s.received ++ recvBuf <+: tdcSrvStream packets

def restOf (buf : ServerDataBuf) : List UInt8 :=
  buf.contents.drop (dcMsgPacketHeadSize + (unpackTdcPacketHead buf.data).dataLen)

/-- If the packet at the start of the buffer is complete, the bytes after it, moved to the start, leave its
length what it was. -/
def KeepsLength (s : TdcServer) (recvBuf : List UInt8) : Prop :=
  let buf := (s.append recvBuf).buf
  let dataLen := (unpackTdcPacketHead buf.data).dataLen
  dcMsgPacketHeadSize + dataLen ≤ buf.contents.length →
    (unpackTdcPacketHead (restOf buf ++ buf.data.drop (restOf buf).length)).dataLen = dataLen

end TdcServer

namespace TdcServer

instance (packets : List TdcSrvPacket) (s : TdcServer) (recvBuf : List UInt8) : Decidable (Reads packets s recvBuf) :=
  decidable_of_iff (recvBuf ≠ [] ∧ recvBuf.length ≤ s.buf.freeLen ∧ s.received ++ recvBuf <+: tdcSrvStream packets)
    ⟨fun h => ⟨h.1, h.2.1, h.2.2⟩, fun h => ⟨h.pos, h.room, h.next⟩⟩

instance (s : TdcServer) (recvBuf : List UInt8) : Decidable (KeepsLength s recvBuf) :=
  inferInstanceAs (Decidable (_ → _))

end TdcServer

/-! ## One packet -/

section
variable {decrypt : Nat → Nat → List UInt8 → Option (List UInt8)} {p : TdcSrvPacket}

theorem length_packTdcPacketHead (head : TdcPacketHead) : (packTdcPacketHead head).length = dcMsgPacketHeadSize := by
  simp only [packTdcPacketHead, List.length_append, length_put]
  rfl

theorem TdcSrvPacket.length_wire (p : TdcSrvPacket) : p.wire.length = dcMsgPacketHeadSize + p.cipher.length := by
  rw [wire, List.length_append, length_packTdcPacketHead]

theorem dataLen_packTdcPacketHead {head : TdcPacketHead} (h : head.dataLen < 256 ^ 4) (l : List UInt8) :
    read 4 ((packTdcPacketHead head ++ l).drop dataLenOffset) = head.dataLen := by
  have hsplit : packTdcPacketHead head ++ l =
      (put 4 head.magicNumber ++ (put 4 head.module ++ (put 8 head.seq ++ put 4 head.flags))) ++
        (put 4 head.dataLen ++ l) := by
    simp [packTdcPacketHead]
  rw [hsplit, List.drop_left' (by simp [dataLenOffset]), read_put_append h]

theorem unpack_packTdcPacketHead {head : TdcPacketHead} (h₁ : head.magicNumber < 256 ^ 4) (h₂ : head.module < 256 ^ 4)
    (h₃ : head.seq < 256 ^ 8) (h₄ : head.flags < 256 ^ 4) (h₅ : head.dataLen < 256 ^ 4) (l : List UInt8) :
    unpackTdcPacketHead (packTdcPacketHead head ++ l) = head := by
  have hlen := dataLen_packTdcPacketHead h₅ l
  unfold unpackTdcPacketHead
  rw [hlen]
  simp only [packTdcPacketHead, List.append_assoc, drop_put_append]
  rw [read_put_append h₁, read_put_append h₂, read_put_append h₃, read_put_append h₄]

theorem TdcSrvPacket.Sendable.cipher_lt (h : p.Sendable decrypt) : p.cipher.length < 256 ^ 4 := by
  have hfits := h.fits
  rw [p.length_wire, dcMsgPacketHeadSize, maxDataBuf] at hfits
  omega

theorem TdcSrvPacket.head_lt (p : TdcSrvPacket) : p.head.magicNumber < 256 ^ 4 ∧ p.head.module < 256 ^ 4 := by
  simp only [head]
  decide

theorem TdcSrvPacket.Sendable.unpack_of_prefix (h : p.Sendable decrypt) {l rest tail : List UInt8}
    (hl : l ++ rest = p.wire ++ tail) (hlen : dcMsgPacketHeadSize ≤ l.length) (junk : List UInt8) :
    unpackTdcPacketHead (l ++ junk) = p.head := by
  have htake : l.take dcMsgPacketHeadSize = packTdcPacketHead p.head := by
    have htake := congrArg (List.take dcMsgPacketHeadSize) hl
    rwa [List.take_append_of_le_length hlen, wire, List.append_assoc,
      List.take_left' (length_packTdcPacketHead _)] at htake
  rw [← List.take_append_drop dcMsgPacketHeadSize l, htake, List.append_assoc]
  exact unpack_packTdcPacketHead p.head_lt.1 p.head_lt.2 p.seq.isLt p.flags.isLt h.cipher_lt _

end

/-! ## The buffer -/

namespace TdcServer

/-- The invariant: the stream is intact and there is room for more. -/
structure Ready (packets : List TdcSrvPacket) (s : TdcServer) : Prop where
  intact : Intact packets s
  size : s.buf.size = maxDataBuf
  length : s.buf.data.length = maxDataBuf
  room : s.buf.w < maxDataBuf
  stream : s.received <+: tdcSrvStream packets

section
variable {decrypt : Nat → Nat → List UInt8 → Option (List UInt8)} {packets : List TdcSrvPacket} {s : TdcServer}
  {recvBuf : List UInt8}

theorem Ready.init : Ready packets {} := by
  refine ⟨⟨[], packets, rfl, rfl, Int.le_refl 0, rfl⟩, rfl, List.length_replicate, ?_, List.nil_prefix⟩
  decide

theorem Ready.w_nonneg (h : Ready packets s) : 0 ≤ s.buf.w := by
  obtain ⟨-, -, -, -, hw, -⟩ := h.intact
  exact hw

theorem Ready.length_contents (h : Ready packets s) : (s.buf.contents.length : Int) = s.buf.w := by
  have hw := h.w_nonneg
  have hroom := h.room
  rw [ServerDataBuf.contents, List.length_take, h.length]
  omega

theorem Ready.append (h : Ready packets s) (hreads : Reads packets s recvBuf) :
    let s' := s.append recvBuf
    s'.buf.contents = s.buf.contents ++ recvBuf ∧ s'.buf.data.length = maxDataBuf ∧
      s'.buf.w = s'.buf.contents.length := by
  have hw := h.w_nonneg
  have hlen := h.length_contents
  have hroom := hreads.room
  rw [ServerDataBuf.freeLen, h.size] at hroom
  have hnat : (s.buf.w + recvBuf.length).toNat = (s.buf.contents ++ recvBuf).length := by
    rw [List.length_append]
    omega
  have hcontents : (s.append recvBuf).buf.contents = s.buf.contents ++ recvBuf := by
    change List.take _ (s.buf.contents ++ recvBuf ++ _) = _
    rw [show (s.append recvBuf).buf.w = s.buf.w + recvBuf.length from rfl, hnat, List.take_left' rfl]
  refine ⟨hcontents, ?_, ?_⟩
  · change (s.buf.contents ++ recvBuf ++ s.buf.data.drop _).length = _
    rw [List.length_append, List.length_append, List.length_drop, h.length]
    omega
  · rw [hcontents, List.length_append, Nat.cast_add, hlen]
    rfl

theorem Ready.todo (h : Ready packets s) (hreads : Reads packets s recvBuf) :
    ∃ done todo tail, packets = done ++ todo ∧ s.processed = done.map TdcSrvPacket.message ∧
      tdcSrvStream done ++ (s.append recvBuf).buf.contents = (s.append recvBuf).received ∧
      (s.append recvBuf).buf.contents ++ tail = tdcSrvStream todo := by
  obtain ⟨done, todo, hpackets, hprocessed, -, hreceived⟩ := h.intact
  obtain ⟨hcontents, -, -⟩ := h.append hreads
  obtain ⟨tail, htail⟩ := hreads.next
  refine ⟨done, todo, tail, hpackets, hprocessed, ?_, ?_⟩
  · rw [hcontents, ← List.append_assoc, hreceived]
    rfl
  · rw [← hreceived, hpackets, tdcSrvStream, tdcSrvStream, List.flatMap_append, List.append_assoc, List.append_assoc]
      at htail
    rw [hcontents, List.append_assoc]
    exact List.append_cancel_left htail

theorem Ready.wait (h : Ready packets s) (hreads : Reads packets s recvBuf)
    (hroom : (s.append recvBuf).buf.contents.length < maxDataBuf) : Ready packets (s.append recvBuf) := by
  obtain ⟨-, hlength, hw⟩ := h.append hreads
  obtain ⟨done, todo, -, hpackets, hprocessed, hreceived, -⟩ := h.todo hreads
  refine ⟨⟨done, todo, hpackets, hprocessed, by omega, hreceived⟩, h.size, hlength, by omega, hreads.next⟩

def handOn (s : TdcServer) (p : TdcSrvPacket) : TdcServer :=
  let rest := restOf s.buf
  let data := rest ++ s.buf.data.drop rest.length
  { s with
    buf := { s.buf with data, w := s.buf.w - dcMsgPacketHeadSize - (unpackTdcPacketHead data).dataLen }
    processed := s.processed ++ [p.message] }

theorem processReceivedData_eq {p : TdcSrvPacket} (hunpack : unpackTdcPacketHead s.buf.data = p.head)
    (hcipher : (s.buf.data.drop dcMsgPacketHeadSize).take p.cipher.length = p.cipher)
    (hdecrypts : decrypt p.flags.toNat p.seq.toNat p.cipher = some p.plain)
    (hmove : memcpyS s.buf.data 0 s.buf.size (restOf s.buf) =
      some (restOf s.buf ++ s.buf.data.drop (restOf s.buf).length)) :
    processReceivedData decrypt s = (.message, handOn s p) := by
  have hmodule : ¬ p.head.module ≠ moduleSession := not_not.mpr rfl
  have hdec : decrypt p.head.flags p.head.seq ((s.buf.data.drop dcMsgPacketHeadSize).take p.head.dataLen) =
      some p.plain := (congrArg (decrypt p.flags.toNat p.seq.toNat) hcipher).trans hdecrypts
  have hrest : (s.buf.data.take s.buf.w.toNat).drop (dcMsgPacketHeadSize + p.head.dataLen) = restOf s.buf := by
    rw [restOf, hunpack]
    rfl
  simp only [processReceivedData, hunpack, if_neg hmodule, hdec, hrest, hmove]
  rfl

theorem Ready.recv (h : Ready packets s) (hsend : ∀ p ∈ packets, p.Sendable decrypt) (hreads : Reads packets s recvBuf) :
    let buf := (s.append recvBuf).buf
    let r := transTdcSrvRecvData decrypt recvBuf s
    (r = (.dataNotEnough, s.append recvBuf) ∧ buf.contents.length < maxDataBuf ∧
      buf.contents.length < dcMsgPacketHeadSize + (unpackTdcPacketHead buf.data).dataLen) ∨
    ∃ done p todo, packets = done ++ p :: todo ∧ s.processed = done.map TdcSrvPacket.message ∧
      tdcSrvStream done ++ buf.contents = (s.append recvBuf).received ∧ buf.contents = p.wire ++ restOf buf ∧
      (unpackTdcPacketHead buf.data).dataLen = p.cipher.length ∧ r = (.message, handOn (s.append recvBuf) p) := by
  intro buf r
  obtain ⟨hcontents, hlength, hw⟩ := h.append hreads
  obtain ⟨done, todo, tail, hpackets, hprocessed, hreceived, htail⟩ := h.todo hreads
  change buf.w = buf.contents.length at hw
  change buf.contents ++ tail = _ at htail
  have hle : buf.contents.length ≤ maxDataBuf := by
    rw [← hlength]
    exact (List.take_sublist ..).length_le
  have hdata : buf.data = buf.contents ++ buf.data.drop buf.w.toNat := (List.take_append_drop ..).symm
  have hbufLen : (buf.w % 4294967296).toNat = buf.contents.length := by
    rw [maxDataBuf] at hle
    omega
  have hfree : s.buf.freeLen ≠ 0 := by
    have hroom := h.room
    rw [ServerDataBuf.freeLen, h.size]
    omega
  have hr : r = transTdcSrvProcData decrypt (s.append recvBuf) := by
    have hroom := hreads.room
    change transTdcSrvRecvData decrypt recvBuf s = _
    rw [transTdcSrvRecvData, if_neg hfree, if_neg hreads.pos, transTdcUpdateDataBufWInfo,
      if_neg (by omega)]
  unfold transTdcSrvProcData at hr
  dsimp only at hr
  change r = if (buf.w % 4294967296).toNat < _ then _ else _ at hr
  rw [hbufLen] at hr
  by_cases hhead : buf.contents.length < dcMsgPacketHeadSize
  · rw [if_pos hhead] at hr
    refine .inl ⟨hr, ?_, by omega⟩
    rw [dcMsgPacketHeadSize] at hhead
    rw [maxDataBuf]
    omega
  rw [if_neg hhead] at hr
  -- there is a packet to come, since the buffer has bytes of it
  cases todo with
  | nil =>
    rw [tdcSrvStream, List.flatMap_nil, List.append_eq_nil_iff] at htail
    rw [htail.1] at hhead
    exact absurd (by decide) hhead
  | cons p todo =>
    have hp := hsend p (hpackets ▸ List.mem_append_right _ (.head _))
    have hfits := hp.fits
    rw [p.length_wire] at hfits
    have hunpack : unpackTdcPacketHead buf.data = p.head := by
      rw [hdata]
      exact hp.unpack_of_prefix htail (by omega) _
    have hdataLen : p.head.dataLen = p.cipher.length := rfl
    change r = if (unpackTdcPacketHead buf.data).magicNumber ≠ _ then _ else _ at hr
    have hsize : ¬ s.buf.size - dcMsgPacketHeadSize < p.head.dataLen := by
      rw [h.size, hdataLen]
      omega
    have hmagic : ¬ p.head.magicNumber ≠ tdcSrvMagicNumber := not_not.mpr rfl
    rw [hunpack, if_neg hmagic] at hr
    change r = if s.buf.size - _ < _ then _ else _ at hr
    rw [if_neg hsize, hdataLen] at hr
    rw [hunpack, hdataLen]
    by_cases hcomplete : buf.contents.length < p.cipher.length + dcMsgPacketHeadSize
    · rw [if_pos hcomplete] at hr
      exact .inl ⟨hr, by omega, by omega⟩
    rw [if_neg hcomplete] at hr
    obtain ⟨rest, hrest⟩ : p.wire <+: buf.contents :=
      List.prefix_of_prefix_length_le ⟨_, htail.symm⟩ (List.prefix_append _ _) (by rw [p.length_wire]; omega)
    have hrestOf : restOf buf = rest := by
      rw [restOf, hunpack, hdataLen, ← p.length_wire, ← hrest, List.drop_left' rfl]
    refine .inr ⟨done, p, todo, hpackets, hprocessed, hreceived, hrestOf.symm ▸ hrest.symm, rfl, ?_⟩
    have hcipher : (buf.data.drop dcMsgPacketHeadSize).take p.cipher.length = p.cipher := by
      rw [hdata, ← hrest, TdcSrvPacket.wire, List.append_assoc, List.append_assoc,
        List.drop_left' (length_packTdcPacketHead _), List.take_left' rfl]
    have hmove : memcpyS buf.data 0 s.buf.size (restOf buf) =
        some (restOf buf ++ buf.data.drop (restOf buf).length) := by
      rw [memcpyS_eq_some, List.take_zero, List.nil_append, Nat.zero_add, h.size]
      refine ⟨⟨by decide, by decide, ?_⟩, rfl⟩
      rw [restOf, List.length_drop]
      omega
    exact hr.trans (processReceivedData_eq hunpack hcipher hp.decrypts hmove)

/-! ## One read event -/

theorem length_handOn (p : TdcSrvPacket) (h : s.buf.data.length = maxDataBuf) :
    (handOn s p).buf.data.length = maxDataBuf := by
  have hle : (restOf s.buf).length ≤ s.buf.data.length := by
    rw [restOf, List.length_drop, ServerDataBuf.contents, List.length_take]
    omega
  change (restOf s.buf ++ s.buf.data.drop (restOf s.buf).length).length = _
  rw [List.length_append, List.length_drop]
  omega

theorem contents_handOn {p : TdcSrvPacket} (hlength : s.buf.data.length = maxDataBuf)
    (hw : s.buf.w = s.buf.contents.length) (hwire : s.buf.contents = p.wire ++ restOf s.buf) :
    (0 ≤ (handOn s p).buf.w ∧ (handOn s p).buf.contents = restOf s.buf) ↔
      (unpackTdcPacketHead (restOf s.buf ++ s.buf.data.drop (restOf s.buf).length)).dataLen = p.cipher.length := by
  have hlen := congrArg List.length hwire
  rw [List.length_append, p.length_wire] at hlen
  have hlt : (restOf s.buf).length < maxDataBuf := by
    have hle : s.buf.contents.length ≤ s.buf.data.length := (List.take_sublist ..).length_le
    rw [dcMsgPacketHeadSize] at hlen
    omega
  have hw' : (handOn s p).buf.w = s.buf.w - dcMsgPacketHeadSize -
      (unpackTdcPacketHead (restOf s.buf ++ s.buf.data.drop (restOf s.buf).length)).dataLen := rfl
  constructor
  · rintro ⟨hpos, hcontents⟩
    have hcount := congrArg List.length hcontents
    rw [ServerDataBuf.contents, List.length_take, length_handOn p hlength] at hcount
    omega
  · intro hdataLen
    have hrest : (handOn s p).buf.w = (restOf s.buf).length := by omega
    refine ⟨by omega, ?_⟩
    rw [ServerDataBuf.contents, hrest, Int.toNat_natCast]
    exact List.take_left' rfl

theorem Ready.survives_iff (h : Ready packets s) (hsend : ∀ p ∈ packets, p.Sendable decrypt)
    (hreads : Reads packets s recvBuf) : KeepsLength s recvBuf ↔ Survives decrypt packets s recvBuf := by
  obtain ⟨-, hlength, hw⟩ := h.append hreads
  unfold KeepsLength Survives
  rcases h.recv hsend hreads with ⟨hr, hroom, hpart⟩ | ⟨done, p, todo, hpackets, hprocessed, hreceived, hwire, hlen, hr⟩
  · refine iff_of_true (fun hcomplete => absurd hpart (by omega)) ?_
    rw [hr]
    exact ⟨.inr rfl, (h.wait hreads hroom).intact⟩
  have hcomplete : dcMsgPacketHeadSize + p.cipher.length ≤ (s.append recvBuf).buf.contents.length := by
    rw [hwire, List.length_append, p.length_wire]
    omega
  dsimp only
  rw [hr, hlen, ← contents_handOn hlength hw hwire]
  have hsplit : tdcSrvStream (done ++ [p]) ++ restOf (s.append recvBuf).buf = (s.append recvBuf).received := by
    rw [← hreceived, hwire, tdcSrvStream, List.flatMap_append, List.flatMap_singleton, List.append_assoc]
    rfl
  constructor
  · intro hkeeps
    obtain ⟨hpos, hcontents⟩ := hkeeps hcomplete
    refine ⟨.inl rfl, done ++ [p], todo, by simp [hpackets], ?_, hpos, ?_⟩
    · change s.processed ++ [p.message] = _
      rw [hprocessed, List.map_append, List.map_singleton]
    · rw [hcontents]
      exact hsplit
  · rintro ⟨-, done', todo', hpackets', hprocessed', hpos, hreceived'⟩ -
    -- the packets handed on are as many as before and this one
    have hcount : done'.length = (done ++ [p]).length := by
      have hcount := congrArg List.length hprocessed'
      change (s.processed ++ [p.message]).length = _ at hcount
      rw [hprocessed] at hcount
      simpa using hcount.symm
    have hdone : done' = done ++ [p] := by
      rw [hpackets'] at hpackets
      have happend : done' ++ todo' = (done ++ [p]) ++ todo := by simpa using hpackets
      exact (List.append_inj happend hcount).1
    rw [hdone] at hreceived'
    exact ⟨hpos, List.append_cancel_left (hreceived'.trans hsplit.symm)⟩

theorem Ready.step (h : Ready packets s) (hsend : ∀ p ∈ packets, p.Sendable decrypt)
    (hreads : Reads packets s recvBuf) (hkeeps : KeepsLength s recvBuf) :
    Ready packets (s.step decrypt recvBuf) := by
  obtain ⟨-, hlength, hw⟩ := h.append hreads
  have hsurvives := (h.survives_iff hsend hreads).mp hkeeps
  unfold Survives at hsurvives
  unfold TdcServer.step
  rcases h.recv hsend hreads with ⟨hr, hroom, -⟩ | ⟨done, p, todo, -, -, -, hwire, -, hr⟩
  · rw [hr]
    exact h.wait hreads hroom
  · rw [hr] at hsurvives ⊢
    have hcontents := congrArg List.length hwire
    rw [List.length_append, p.length_wire, dcMsgPacketHeadSize] at hcontents
    refine ⟨hsurvives.2, h.size, length_handOn p hlength, ?_, hreads.next⟩
    have hle : (s.append recvBuf).buf.contents.length ≤ maxDataBuf := by
      rw [← hlength]
      exact (List.take_sublist ..).length_le
    change (s.append recvBuf).buf.w - (dcMsgPacketHeadSize : Int) - _ < maxDataBuf
    rw [hw, dcMsgPacketHeadSize]
    omega

end

/-- Over a whole run the stream survives exactly if no read event moves other bytes over a length that
is still needed. -/
theorem tdc_packets_survive_iff (decrypt : Nat → Nat → List UInt8 → Option (List UInt8)) (packets : List TdcSrvPacket)
    (hsend : ∀ p ∈ packets, p.Sendable decrypt) (reads : List (List UInt8))
    (hreads : Run.Always (step decrypt) (Reads packets) {} reads) :
    Run.Always (step decrypt) (Survives decrypt packets) {} reads ↔ Run.Always (step decrypt) KeepsLength {} reads := by
  have hiff : Run.Always (step decrypt) (fun s recvBuf => Reads packets s recvBuf ∧ KeepsLength s recvBuf) {} reads ↔
      Run.Always (step decrypt) (fun s recvBuf => Reads packets s recvBuf ∧ Survives decrypt packets s recvBuf) {} reads :=
    Run.always_iff_of_inv (I := Ready packets)
      (fun s recvBuf h => and_congr_right fun hreads => h.survives_iff hsend hreads)
      (fun s recvBuf h hgood => h.step hsend hgood.1 hgood.2) Ready.init reads
  rw [Run.always_and, Run.always_and] at hiff
  constructor
  · intro h
    exact (hiff.mpr ⟨hreads, h⟩).2
  · intro h
    exact (hiff.mp ⟨hreads, h⟩).2

end TdcServer

def clearPacket (seq : BitVec 64) (data : List UInt8) : TdcSrvPacket := ⟨0, seq, data, data⟩

theorem clearPacket_sendable {seq : BitVec 64} {data : List UInt8} (h : data.length ≤ 8) :
    (clearPacket seq data).Sendable fun _ _ cipher => some cipher := by
  refine ⟨rfl, ?_⟩
  rw [TdcSrvPacket.length_wire, dcMsgPacketHeadSize, maxDataBuf]
  change 24 + data.length ≤ 4096
  omega

theorem tdc_packets_survive_equal_lengths :
    let packets := [clearPacket 1 [5], clearPacket 2 [6], clearPacket 3 [7, 8]]
    let stream := tdcSrvStream packets
    let reads := [stream.take 30, (stream.drop 30).take 20, stream.drop 50]
    let decrypt := fun (_ _ : Nat) (cipher : List UInt8) => some cipher
    Run.Always (TdcServer.step decrypt) (TdcServer.Reads packets) {} reads ∧
      Run.Always (TdcServer.step decrypt) (TdcServer.Survives decrypt packets) {} reads := by
  intro packets stream reads decrypt
  have hsend : ∀ p ∈ packets, p.Sendable decrypt := by
    simp only [packets, List.forall_mem_cons]
    exact ⟨clearPacket_sendable (by decide), clearPacket_sendable (by decide), clearPacket_sendable (by decide), nofun⟩
  have hreads : Run.Always (TdcServer.step decrypt) (TdcServer.Reads packets) {} reads := by decide +kernel
  exact ⟨hreads, (TdcServer.tdc_packets_survive_iff decrypt packets hsend reads hreads).mpr (by decide +kernel)⟩

/-- Two packets of different lengths arrive in one read. The length of the second is taken for that of the
first, and a byte of the first stays behind the second in the buffer. -/
theorem tdc_packets_coalesced :
    let packets := [clearPacket 1 [5, 6], clearPacket 2 [7]]
    let decrypt := fun (_ _ : Nat) (cipher : List UInt8) => some cipher
    let s := TdcServer.step decrypt {} (tdcSrvStream packets)
    TdcServer.Reads packets {} (tdcSrvStream packets) ∧ s.processed = [⟨0, 1, [5, 6]⟩] ∧
      s.buf.contents = (clearPacket 2 [7]).wire ++ [6] := by
  decide +kernel

end SoftBus
