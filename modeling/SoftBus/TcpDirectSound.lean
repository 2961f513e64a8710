import SoftBus.TcpDirect
import SoftBus.Lib.Run

/-!
# Reassembly of a TCP stream

However the stream of packets is cut into reads, the receiver delivers the
packets in order, and its buffer never fills up: it waits for a head, for the
rest of a packet that fits, or it has just grown to the size of the packet.
-/

namespace SoftBus

open Bytes

/-- Decryption inverts encryption and the session takes what it is given. -/
structure TdcEnv.Works (env : TdcEnv) : Prop where
  decrypt_encrypt : ∀ random seq plain out, env.encrypt random seq plain = some out → env.decrypt out = some plain
  received : ∀ flag plain, env.onDataReceived flag plain = .ok

def TdcSend.packet (p : TdcSend) : TdcPacket := ⟨p.flag, p.finalSeq, p.finalData⟩

/-- The packet can be packed, and its length is legal. -/
structure TdcSend.Sendable (env : TdcEnv) (dataBufferMaxLen : Nat) (p : TdcSend) : Prop where
  packed : transTdcPackData env p ≠ none
  pos : overheadLen < p.dataLen
  le : p.dataLen ≤ dataBufferMaxLen - dcDataHeadSize

def TdcSend.wire (env : TdcEnv) (p : TdcSend) : List UInt8 := (transTdcPackData env p).getD []

def tdcStream (env : TdcEnv) (packets : List TdcSend) : List UInt8 := (packets.map (TdcSend.wire env)).flatten

/-! ## One packet -/

theorem length_packTcpDataPacketHead (head : TcpDataPacketHead) :
    (packTcpDataPacketHead head).length = dcDataHeadSize := by
  simp only [packTcpDataPacketHead, List.length_append, length_put]
  rfl

theorem unpack_packTcpDataPacketHead {head : TcpDataPacketHead} (h₁ : head.magicNumber < 4294967296)
    (h₂ : head.flags < 4294967296) (h₃ : head.dataLen < 4294967296) (l : List UInt8) :
    unpackTcpDataPacketHead (packTcpDataPacketHead head ++ l) = head := by
  have hseq : head.seq.toNat < 256 ^ 4 := head.seq.isLt
  simp only [packTcpDataPacketHead, unpackTcpDataPacketHead, List.append_assoc, drop_put_append]
  rw [read_put_append h₁, read_put_append hseq, read_put_append h₂, read_put_append h₃, BitVec.ofNat_toNat,
    BitVec.setWidth_eq]

section
variable {env : TdcEnv} {p : TdcSend} {max : Nat}

theorem TdcSend.Sendable.wire_eq (h : p.Sendable env max) (henv : env.Works) :
    ∃ out, p.wire env = packTcpDataPacketHead ⟨tdcMagicNumber, p.finalSeq, p.flag.toNat, p.dataLen⟩ ++ out ∧
      out.length = p.dataLen ∧ env.decrypt out = some p.finalData := by
  have hpacked := h.packed
  unfold TdcSend.wire
  unfold transTdcPackData at hpacked ⊢
  cases hout : env.encrypt p.random p.finalSeq p.finalData with
  | none =>
    rw [hout] at hpacked
    exact absurd rfl hpacked
  | some out =>
    simp only [hout] at hpacked ⊢
    by_cases hlen : out.length = p.dataLen
    · rw [if_neg (not_not.mpr hlen)]
      exact ⟨out, rfl, hlen, henv.decrypt_encrypt _ _ _ _ hout⟩
    · rw [if_pos hlen] at hpacked
      exact absurd rfl hpacked

theorem TdcSend.Sendable.length_wire (h : p.Sendable env max) (henv : env.Works) :
    (p.wire env).length = p.dataLen + dcDataHeadSize := by
  obtain ⟨out, hwire, hlen, -⟩ := h.wire_eq henv
  rw [hwire, List.length_append, length_packTcpDataPacketHead, hlen, Nat.add_comm]

theorem TdcSend.Sendable.head_eq (h : p.Sendable env max) (henv : env.Works) {data rest tail : List UInt8}
    (hdata : data ++ rest = p.wire env ++ tail) (hlen : dcDataHeadSize ≤ data.length) :
    unpackTcpDataPacketHead data = ⟨tdcMagicNumber, p.finalSeq, p.flag.toNat, p.dataLen⟩ := by
  obtain ⟨out, hwire, -⟩ := h.wire_eq henv
  have hhead := length_packTcpDataPacketHead ⟨tdcMagicNumber, p.finalSeq, p.flag.toNat, p.dataLen⟩
  have htake : data.take dcDataHeadSize =
      packTcpDataPacketHead ⟨tdcMagicNumber, p.finalSeq, p.flag.toNat, p.dataLen⟩ := by
    have htake := congrArg (List.take dcDataHeadSize) hdata
    rwa [List.take_append_of_le_length hlen, hwire, List.append_assoc, List.take_left' hhead] at htake
  rw [← List.take_append_drop dcDataHeadSize data, htake]
  have hflag : p.flag.toNat < 4294967296 := by
    cases p.flag <;> decide
  have hdl : p.dataLen < 4294967296 := Nat.mod_lt _ (by decide)
  exact unpack_packTcpDataPacketHead (show tdcMagicNumber < 4294967296 by decide) hflag hdl _

/-! ## The loop over the buffer -/

def TdcPacket.acked (q : TdcPacket) : Option (BitVec 32) := if q.flag = .message then some q.seq else none

theorem transTdcProcessDataByFlag_works {env : TdcEnv} (henv : env.Works) (q : TdcPacket) (ch : TdcChannel) :
    transTdcProcessDataByFlag env q.flag.toNat q.seq q.plain ch =
      (.ok, { ch with delivered := ch.delivered ++ [q], acks := ch.acks ++ q.acked.toList }) := by
  obtain ⟨flag, seq, plain⟩ := q
  cases flag with
  | bytes =>
    simp only [TdcFlag.toNat, transTdcProcessDataByFlag, henv.received, TdcChannel.deliver, TdcPacket.acked]
    simp
  | ack =>
    simp only [TdcFlag.toNat, transTdcProcessDataByFlag, TdcChannel.deliver, TdcPacket.acked]
    simp
  | message =>
    simp only [TdcFlag.toNat, transTdcProcessDataByFlag, henv.received, TdcChannel.deliver, TdcPacket.acked]
    simp

structure TdcAt (env : TdcEnv) (max : Nat) (packets todo : List TdcSend) (rest : List UInt8) (ch : TdcChannel) :
    Prop where
  delivered : ch.delivered ++ todo.map TdcSend.packet = packets.map TdcSend.packet
  acks : ch.acks = ch.delivered.filterMap TdcPacket.acked
  sendable : ∀ p ∈ todo, p.Sendable env max
  bytes : ch.buf.data ++ rest = tdcStream env todo
  size_ge : tdcMinBufLen ≤ ch.buf.size
  size_le : ch.buf.size ≤ max
  used : ch.buf.data.length ≤ ch.buf.size

structure TdcWaits (env : TdcEnv) (max : Nat) (packets : List TdcSend) (rest : List UInt8) (ch : TdcChannel)
    (todo : List TdcSend) :
    Prop extends TdcAt env max packets todo rest ch where
  room : ch.buf.data.length < ch.buf.size
  incomplete : ∀ p ∈ todo.head?, ch.buf.data.length < (p.wire env).length

section
variable {env : TdcEnv} {max : Nat} {packets todo : List TdcSend} {rest : List UInt8} {ch : TdcChannel} {p : TdcSend}

theorem TdcAt.process (h : TdcAt env max packets (p :: todo) rest ch) (henv : env.Works) (hmax : max ≤ 0x7fffffff)
    (hlen : (p.wire env).length ≤ ch.buf.data.length) :
    ∃ ch', transTdcProcessData env ch = (.ok, ch') ∧ TdcAt env max packets todo rest ch' := by
  have hp := h.sendable p List.mem_cons_self
  have hwlen := hp.length_wire henv
  have hbytes : ch.buf.data ++ rest = p.wire env ++ tdcStream env todo := h.bytes
  obtain ⟨data, hdata⟩ : ∃ data, ch.buf.data = p.wire env ++ data :=
    ⟨_, (List.prefix_iff_eq_append.mp (List.prefix_of_prefix_length_le ⟨_, hbytes.symm⟩ (List.prefix_append _ _) hlen)).symm⟩
  have htail : data ++ rest = tdcStream env todo := by
    rw [hdata, List.append_assoc] at hbytes
    exact List.append_cancel_left hbytes
  have hhead := hp.head_eq henv hbytes (by omega)
  obtain ⟨out, hwire, hout, hdec⟩ := hp.wire_eq henv
  have hplen := length_packTcpDataPacketHead ⟨tdcMagicNumber, p.finalSeq, p.flag.toNat, p.dataLen⟩
  have hcipher : (ch.buf.data.drop dcDataHeadSize).take p.dataLen = out := by
    rw [hdata, hwire, List.append_assoc, List.drop_left' hplen, List.take_left' hout]
  have hrest : ch.buf.data.drop (dcDataHeadSize + p.dataLen) = data := by
    rw [hdata, List.drop_left' (by omega)]
  have hsize := h.size_ge
  have hle := h.size_le
  have hused := h.used
  have hmin : 0 < tdcMinBufLen := by decide
  have hdlen : data.length ≤ ch.buf.data.length := by rw [hdata, List.length_append]; omega
  have hmove : memcpyS [] 0 ch.buf.size data = some data := by
    rw [memcpyS_eq_some]
    exact ⟨by omega, by simp⟩
  refine ⟨{ ch with
    buf := { ch.buf with data }
    delivered := ch.delivered ++ [p.packet]
    acks := ch.acks ++ p.packet.acked.toList }, ?_, ?_⟩
  · simp only [transTdcProcessData, hhead, hcipher, hdec, hrest, hmove]
    exact transTdcProcessDataByFlag_works henv p.packet _
  · refine ⟨?_, ?_, fun q hq => h.sendable q (List.mem_cons_of_mem _ hq), htail, hsize, hle, Nat.le_trans hdlen hused⟩
    · rw [List.append_assoc]
      exact h.delivered
    · rw [List.filterMap_append, h.acks]
      cases hq : p.packet.acked <;> simp [hq]

theorem procAll_waits (henv : env.Works) (hmax : max ≤ 0x7fffffff) : ∀ (todo : List TdcSend) {ch : TdcChannel},
    TdcAt env max packets todo rest ch →
    ((transTdcProcAllData env max ch).1 = .ok ∨ (transTdcProcAllData env max ch).1 = .dataNotEnough) ∧
      ∃ todo', TdcWaits env max packets rest (transTdcProcAllData env max ch).2 todo'
  | [], ch, h => by
    have hnil : ch.buf.data = [] := (List.append_eq_nil_iff.mp (show ch.buf.data ++ rest = [] from h.bytes)).1
    have hmin : 0 < tdcMinBufLen := by decide
    have hsize := h.size_ge
    rw [transTdcProcAllData, if_pos (by simp [hnil])]
    exact ⟨.inl rfl, [], h, by rw [hnil]; exact Nat.lt_of_lt_of_le hmin hsize, by simp⟩
  | p :: todo, ch, h => by
    have hp := h.sendable p List.mem_cons_self
    have hwlen := hp.length_wire henv
    have hpos := hp.pos
    have hle := hp.le
    have hsize := h.size_ge
    have hsizele := h.size_le
    have hused := h.used
    have hd : dcDataHeadSize = 16 := rfl
    have hmin : tdcMinBufLen = 1068 := rfl
    have hbytes : ch.buf.data ++ rest = p.wire env ++ tdcStream env todo := h.bytes
    -- the receiver stops with the buffer as it is
    have hstop : ch.buf.data.length < (p.wire env).length → ch.buf.data.length < ch.buf.size →
        ∃ todo', TdcWaits env max packets rest ch todo' :=
      fun h₁ h₂ => ⟨p :: todo, h, h₂, fun q hq => by cases hq; exact h₁⟩
    rw [transTdcProcAllData]
    split
    · rename_i hzero
      exact ⟨.inl rfl, hstop (by omega) (by omega)⟩
    · split
      · rename_i hshort
        exact ⟨.inr rfl, hstop (by omega) (by omega)⟩
      · rename_i hlong
        have hhead := hp.head_eq henv hbytes (by omega)
        have hpkg : (p.dataLen + dcDataHeadSize) % 2 ^ 32 = (p.wire env).length := by
          rw [hwlen]
          exact Nat.mod_eq_of_lt (by omega)
        simp only [hhead, hpkg]
        rw [if_neg (by simp), if_neg (by omega)]
        split
        · rename_i hgrow
          have hcopy : memcpyS [] 0 (p.wire env).length ch.buf.data = some ch.buf.data := by
            rw [memcpyS_eq_some]
            exact ⟨by omega, by simp⟩
          simp only [transResizeDataBuffer, hcopy]
          exact ⟨.inl trivial, p :: todo, ⟨h.delivered, h.acks, h.sendable, h.bytes, by dsimp only; omega, hgrow.2,
            by dsimp only; omega⟩, by dsimp only; omega, fun q hq => by cases hq; dsimp only; omega⟩
        · rename_i hfits
          split
          · rename_i hpart
            exact ⟨.inr rfl, hstop hpart (by omega)⟩
          · rename_i hfull
            obtain ⟨ch', hproc, h'⟩ := h.process henv hmax (by omega)
            rw [hproc, dif_pos rfl]
            exact procAll_waits henv hmax todo h'

theorem TdcWaits.recv {c : List UInt8} (h : TdcWaits env max packets (c ++ rest) ch todo) (henv : env.Works)
    (hmax : max ≤ 0x7fffffff) (hne : c ≠ []) (hlen : c.length ≤ ch.buf.freeLen) :
    ((transTdcRecvData env max (some c) ch).1 = .ok ∨ (transTdcRecvData env max (some c) ch).1 = .dataNotEnough) ∧
      ∃ todo', TdcWaits env max packets rest (transTdcRecvData env max (some c) ch).2 todo' := by
  have hroom := h.room
  have hsizele := h.size_le
  have hpos := List.length_pos_iff.mpr hne
  unfold ClientDataBuf.freeLen at hlen
  have hupdate : transClientUpdateTdcDataBufWInfo c ch.buf = .ok { ch.buf with data := ch.buf.data ++ c } := by
    have hcopy : memcpyS ch.buf.data ch.buf.data.length c.length c = some (ch.buf.data ++ c) := by
      rw [memcpyS_length_eq_some]
      exact ⟨by omega, rfl⟩
    rw [transClientUpdateTdcDataBufWInfo, ClientDataBuf.freeLen, if_neg (by omega), hcopy]
  have hrecv : transTdcRecvData env max (some c) ch =
      transTdcProcAllData env max { ch with buf := { ch.buf with data := ch.buf.data ++ c } } := by
    obtain ⟨b, t, rfl⟩ := List.exists_cons_of_ne_nil hne
    unfold transTdcRecvData ClientDataBuf.freeLen
    rw [if_neg (by omega)]
    simp only [hupdate]
  rw [hrecv]
  refine procAll_waits henv hmax todo ⟨h.delivered, h.acks, h.sendable, ?_, h.size_ge, h.size_le, ?_⟩
  · dsimp only
    rw [List.append_assoc]
    exact h.bytes
  · simp only [List.length_append]
    omega

theorem TdcWaits.all_delivered (h : TdcWaits env max packets [] ch todo) :
    ch.delivered = packets.map TdcSend.packet := by
  cases todo with
  | nil => exact (List.append_nil _).symm.trans h.delivered
  | cons p todo =>
    have hpart := h.incomplete p rfl
    have hbytes : ch.buf.data ++ [] = p.wire env ++ tdcStream env todo := h.bytes
    rw [List.append_nil] at hbytes
    rw [hbytes, List.length_append] at hpart
    omega

end

end

/-! ## Whole streams -/

/-- The state after a call of `TransTdcRecvData` for which the socket has the bytes `c`. -/
def tdcRead (env : TdcEnv) (y : System) (ch : TdcChannel) (c : List UInt8) : TdcChannel :=
  (transTdcRecvData env y.dataBufferMaxLen (some c) ch).2

/-- The socket returns some bytes, and no more than were asked for. -/
def Readable (ch : TdcChannel) (c : List UInt8) : Prop := c ≠ [] ∧ c.length ≤ ch.buf.freeLen

instance (ch : TdcChannel) (c : List UInt8) : Decidable (Readable ch c) := inferInstanceAs (Decidable (_ ∧ _))

/-- The call is no error, the buffer has room, and what is delivered begins the list. -/
def ReadsWell (env : TdcEnv) (y : System) (packets : List TdcPacket) (ch : TdcChannel) (c : List UInt8) : Prop :=
  let out := transTdcRecvData env y.dataBufferMaxLen (some c) ch
  (out.1 = .ok ∨ out.1 = .dataNotEnough) ∧ 0 < out.2.buf.freeLen ∧ out.2.buf.data.length ≤ out.2.buf.size ∧
    out.2.delivered <+: packets

section
variable {env : TdcEnv} {y : System} {packets : List TdcSend}

theorem System.dataBufferMaxLen_bounds (y : System) :
    tdcMinBufLen ≤ y.dataBufferMaxLen ∧ y.dataBufferMaxLen ≤ 0x7fffffff := by
  cases y <;> decide

theorem TdcWaits.run (henv : env.Works) : ∀ (chunks : List (List UInt8)) {ch : TdcChannel} {todo : List TdcSend},
    TdcWaits env y.dataBufferMaxLen packets chunks.flatten ch todo → Run.Always (tdcRead env y) Readable ch chunks →
    Run.Always (tdcRead env y) (ReadsWell env y (packets.map TdcSend.packet)) ch chunks ∧
      ∃ todo', TdcWaits env y.dataBufferMaxLen packets [] (Run.final (tdcRead env y) ch chunks) todo'
  | [], _, todo, h, _ => ⟨trivial, todo, h⟩
  | c :: chunks, ch, todo, h, hr => by
    obtain ⟨⟨hne, hlen⟩, hr'⟩ := hr
    obtain ⟨hret, todo', h'⟩ := h.recv henv y.dataBufferMaxLen_bounds.2 hne hlen
    obtain ⟨hwell, hfinal⟩ := TdcWaits.run henv chunks h' hr'
    refine ⟨⟨⟨hret, ?_, h'.used, ⟨_, h'.delivered⟩⟩, hwell⟩, hfinal⟩
    have := h'.room
    unfold ClientDataBuf.freeLen
    omega

/-- **Reassembly.** However the stream of packets is cut into reads, every call of `TransTdcRecvData`
succeeds or waits for more, leaves room in the buffer, and in the end exactly the packets are
delivered, in order. -/
theorem tdc_stream_reassembled (henv : env.Works) (y : System)
    (hsend : ∀ p ∈ packets, p.Sendable env y.dataBufferMaxLen) {chunks : List (List UInt8)}
    (hstream : chunks.flatten = tdcStream env packets) (hchunks : Run.Always (tdcRead env y) Readable {} chunks) :
    Run.Always (tdcRead env y) (ReadsWell env y (packets.map TdcSend.packet)) {} chunks ∧
      (Run.final (tdcRead env y) {} chunks).delivered = packets.map TdcSend.packet := by
  have hmin : 0 < tdcMinBufLen := by decide
  have h₀ : TdcWaits env y.dataBufferMaxLen packets chunks.flatten {} packets := by
    refine ⟨⟨rfl, rfl, hsend, hstream, Nat.le_refl _, y.dataBufferMaxLen_bounds.1, Nat.zero_le _⟩, hmin, ?_⟩
    intro p hp
    have hwlen := (hsend p (List.mem_of_mem_head? hp)).length_wire henv
    have hd : dcDataHeadSize = 16 := rfl
    rw [hwlen]
    exact Nat.lt_of_lt_of_le (by decide) (Nat.le_add_left dcDataHeadSize _)
  obtain ⟨hwell, todo, hfinal⟩ := h₀.run henv chunks hchunks
  exact ⟨hwell, hfinal.all_delivered⟩

end

def plainEnv : TdcEnv where
  encrypt _ _ plain := some (List.replicate 28 0 ++ plain)
  decrypt cipher := some (cipher.drop 28)
  onDataReceived _ _ := .ok

theorem plainEnv_works : plainEnv.Works := by
  refine ⟨fun random seq plain out h => ?_, fun _ _ => rfl⟩
  obtain rfl := Option.some.inj h
  exact congrArg some (List.drop_left' rfl)

/-- A message, an acknowledgement and three bytes, read in pieces that cut a head and a body. -/
theorem tdc_stream_reassembled_three :
    let packets : List TdcSend := [⟨.message, 1, [7], []⟩, ⟨.ack, 9, [5, 0, 0, 0], []⟩, ⟨.bytes, 2, [1, 2, 3], []⟩]
    let stream := tdcStream plainEnv packets
    let chunks := [stream.take 10, (stream.drop 10).take 50, stream.drop 60]
    (Run.final (tdcRead plainEnv .mini) {} chunks).delivered =
      [⟨.message, 1, [7]⟩, ⟨.ack, 5, [0, 0, 0, 5]⟩, ⟨.bytes, 2, [1, 2, 3]⟩] := by
  intro packets stream chunks
  have hsend : ∀ p ∈ packets, p.Sendable plainEnv (System.dataBufferMaxLen .mini) := by
    have h : ∀ p ∈ packets, transTdcPackData plainEnv p ≠ none ∧ overheadLen < p.dataLen ∧
        p.dataLen ≤ System.dataBufferMaxLen .mini - dcDataHeadSize := by decide
    exact fun p hp => ⟨(h p hp).1, (h p hp).2.1, (h p hp).2.2⟩
  have hstream : chunks.flatten = stream := by decide
  exact (tdc_stream_reassembled plainEnv_works .mini hsend hstream (by decide +kernel)).2

end SoftBus
