import SoftBus.AuthRouting
import SoftBus.ConnFramingSound

/-!
# Packets on an auth socket

`ProcessSocketInEvent` of `auth_tcp_connection.c` with the functions that read the head and the data of
a packet. `ConnRecvSocketData` answers with what is there, or with an error. The host is little-endian,
so that `SocketPktHead` has the layout of `ConnPktHead`.
-/

namespace SoftBus

def authPktHeadLen : Nat := 24
def authSocketMaxDataLen : Nat := 64 * 1024

abbrev SocketPktHead := ConnPktHead

/-! `ConnModule` -/

def moduleTrustEngine : BitVec 32 := 1
def moduleAuthSdk : BitVec 32 := 3
def moduleAuthConnection : BitVec 32 := 5
def moduleAuthChannel : BitVec 32 := 8
def moduleAuthMsg : BitVec 32 := 9
def moduleMetaAuth : BitVec 32 := 21

def moduleToDataType (module : BitVec 32) : AuthDataType :=
  if module = moduleTrustEngine then .deviceId
  else if module = moduleAuthSdk then .auth
  else if module = moduleAuthConnection then .deviceInfo
  else .connection

structure AuthDataHead where
  dataType : AuthDataType
  module : BitVec 32
  seq : BitVec 64
  flag : BitVec 32
  len : BitVec 32
deriving DecidableEq

inductive DataNotice where
  | channel (pktHead : SocketPktHead) (data : List UInt8)
  | authMeta (pktHead : SocketPktHead) (data : List UInt8)
  | auth (head : AuthDataHead) (data : List UInt8)
deriving DecidableEq

def notifyDataReceived (pktHead : SocketPktHead) (data : List UInt8) : DataNotice :=
  if pktHead.module = moduleAuthChannel ∨ pktHead.module = moduleAuthMsg then .channel pktHead data
  else if pktHead.module = moduleMetaAuth then .authMeta pktHead data
  else .auth ⟨moduleToDataType pktHead.module, pktHead.module, pktHead.seq, pktHead.flag, pktHead.len⟩ data

/-! ## Reading -/

/-- The bytes of the peer that were not read so far, the answers of the coming reads: at most so many bytes
(0 is `EAGAIN`), or an error; and whether there is memory for the data of the coming packets. -/
structure AuthSocket where
  stream : List UInt8
  reads : List (Option Nat)
  mem : List Bool
deriving DecidableEq, Repr

inductive InEvent where
  | waiting
  | disconnected
  | headNotEnough (len : Nat)
  | abandoned
  | dataFailed
  | received (head : SocketPktHead) (data : List UInt8)
deriving DecidableEq, Repr

def unpackSocketPkt (data : List UInt8) : Option SocketPktHead :=
  if data.length < authPktHeadLen then none else some (ConnPktHead.load .littleEndian data)

/-- `RecvPacketHead` makes the test of `UnpackSocketPkt` before. -/
def recvPacketHead (socket : AuthSocket) : Except InEvent SocketPktHead × AuthSocket :=
  match socket.reads with
  | [] => (.error .waiting, socket)
  | none :: reads => (.error .disconnected, { socket with reads })
  | some k :: reads =>
    let buf := socket.stream.take (min k authPktHeadLen)
    let head := match unpackSocketPkt buf with
      | none => .error (.headNotEnough buf.length)
      | some head => .ok head
    (head, ⟨socket.stream.drop buf.length, reads, socket.mem⟩)

/-- The loop of `RecvPacketData`. -/
def recvPacketData (len : Nat) : List (Option Nat) → (data stream : List UInt8) →
    Except InEvent (List UInt8) × List UInt8 × List (Option Nat)
  | [], data, stream => (if data.length < len then .error .waiting else .ok data, stream, [])
  | read :: reads, data, stream =>
    if data.length < len then
      match read with
      | none => (.error .dataFailed, stream, reads)
      | some k =>
        let chunk := stream.take (min k (len - data.length))
        recvPacketData len reads (data ++ chunk) (stream.drop chunk.length)
    else (.ok data, stream, read :: reads)

def processSocketInEvent (socket : AuthSocket) : InEvent × AuthSocket :=
  match recvPacketHead socket with
  | (.error event, socket) => (event, socket)
  | (.ok head, socket) =>
    if head.len = 0 ∨ authSocketMaxDataLen < head.len.toNat then (.abandoned, socket)
    else if head.magic ≠ connMagicNumber then (.abandoned, socket)
    else if !socket.mem.headD true then (.dataFailed, { socket with mem := socket.mem.tail })
    else match recvPacketData head.len.toNat socket.reads [] socket.stream with
      | (.error event, stream, reads) => (event, ⟨stream, reads, socket.mem.tail⟩)
      | (.ok data, stream, reads) => (.received head data, ⟨stream, reads, socket.mem.tail⟩)

def inEvents : Nat → AuthSocket → List InEvent × AuthSocket
  | 0, socket => ([], socket)
  | calls + 1, socket =>
    let (event, socket) := processSocketInEvent socket
    if event = .waiting ∨ event = .disconnected then ([event], socket)
    else
      let (events, socket) := inEvents calls socket
      (event :: events, socket)

namespace InEvent

def notices : InEvent → List DataNotice
  | received head data => [notifyDataReceived head data]
  | _ => []

end InEvent

/-- A packet as the peer sends it. -/
structure AuthTcpPacket where
  head : SocketPktHead
  data : List UInt8
  magic_eq : head.magic = connMagicNumber
  len_eq : head.len.toNat = data.length
  len_pos : 0 < data.length
  len_le : data.length ≤ authSocketMaxDataLen

def AuthTcpPacket.wire (p : AuthTcpPacket) : List UInt8 := p.head.store .littleEndian ++ p.data

def AuthTcpPacket.notice (p : AuthTcpPacket) : DataNotice := notifyDataReceived p.head p.data

theorem AuthTcpPacket.length_head (p : AuthTcpPacket) : (p.head.store .littleEndian).length = authPktHeadLen :=
  length_store p.head

theorem AuthTcpPacket.length_wire (p : AuthTcpPacket) : p.wire.length = authPktHeadLen + p.data.length := by
  rw [wire, List.length_append, length_head]

/-! ## Where the bytes go -/

def DataNotice.size : DataNotice → Nat
  | channel _ data => authPktHeadLen + data.length
  | authMeta _ data => authPktHeadLen + data.length
  | auth _ data => authPktHeadLen + data.length

theorem size_notifyDataReceived (pktHead : SocketPktHead) (data : List UInt8) :
    (notifyDataReceived pktHead data).size = authPktHeadLen + data.length := by
  unfold notifyDataReceived
  split
  · rfl
  split <;> rfl

def noticesSize (notices : List DataNotice) : Nat := (notices.map (·.size)).sum

theorem length_le_noticesSize : ∀ notices : List DataNotice, notices.length ≤ noticesSize notices
  | [] => Nat.le_refl _
  | notice :: notices => by
    have ih := length_le_noticesSize notices
    have hpos : 0 < notice.size := by cases notice <;> exact Nat.add_pos_left (by decide) _
    rw [noticesSize, List.map_cons, List.sum_cons, List.length_cons]
    unfold noticesSize at ih
    omega

theorem recvPacketData_length (len : Nat) : ∀ (reads : List (Option Nat)) (data stream : List UInt8),
    (recvPacketData len reads data stream).2.1.length ≤ stream.length ∧
      match (recvPacketData len reads data stream).1 with
      | .error event => event.notices = []
      | .ok out => out.length + (recvPacketData len reads data stream).2.1.length = data.length + stream.length
  | [], data, stream => by
    rw [recvPacketData]
    by_cases hlt : data.length < len
    · rw [if_pos hlt]
      exact ⟨Nat.le_refl _, rfl⟩
    · rw [if_neg hlt]
      exact ⟨Nat.le_refl _, rfl⟩
  | read :: reads, data, stream => by
    rw [recvPacketData.eq_def]
    dsimp only
    by_cases hlt : data.length < len
    · rw [if_pos hlt]
      cases read with
      | none => exact ⟨Nat.le_refl _, rfl⟩
      | some k =>
        dsimp only
        generalize hchunk : stream.take (min k (len - data.length)) = chunk
        have hlen : chunk.length ≤ stream.length := by rw [← hchunk, List.length_take]; omega
        have ih := recvPacketData_length len reads (data ++ chunk) (stream.drop chunk.length)
        rw [List.length_append, List.length_drop, show data.length + chunk.length + (stream.length - chunk.length) =
          data.length + stream.length by omega] at ih
        exact ⟨by omega, ih.2⟩
    · rw [if_neg hlt]
      exact ⟨Nat.le_refl _, rfl⟩

theorem processSocketInEvent_size (socket : AuthSocket) :
    noticesSize (processSocketInEvent socket).1.notices + (processSocketInEvent socket).2.stream.length ≤
      socket.stream.length := by
  obtain ⟨stream, reads, mem⟩ := socket
  rcases reads with _ | ⟨_ | k, reads⟩
  · exact Nat.le_of_eq (Nat.zero_add _)
  · exact Nat.le_of_eq (Nat.zero_add _)
  unfold processSocketInEvent recvPacketHead unpackSocketPkt
  dsimp only
  generalize hbuf : stream.take (min k authPktHeadLen) = buf
  have hlen : buf.length ≤ stream.length := by rw [← hbuf, List.length_take]; omega
  by_cases hshort : buf.length < authPktHeadLen
  · rw [if_pos hshort]
    simp [noticesSize, InEvent.notices]
  rw [if_neg hshort]
  dsimp only
  generalize ConnPktHead.load .littleEndian buf = head
  split
  · simp [noticesSize, InEvent.notices]
  split
  · simp [noticesSize, InEvent.notices]
  split
  · simp [noticesSize, InEvent.notices]
  obtain ⟨hle, hout⟩ := recvPacketData_length head.len.toNat reads [] (stream.drop buf.length)
  generalize recvPacketData head.len.toNat reads [] (stream.drop buf.length) = result at *
  rw [List.length_drop] at hle hout
  obtain ⟨event | out, stream', reads'⟩ := result
  · have hnone : event.notices = [] := hout
    simp only [hnone, noticesSize, List.map_nil, List.sum_nil]
    dsimp only at hle
    omega
  · simp only [InEvent.notices, noticesSize, List.map_singleton, List.sum_singleton, size_notifyDataReceived]
    dsimp only [List.length_nil] at hout
    omega

theorem inEvents_size : ∀ (calls : Nat) (socket : AuthSocket),
    noticesSize ((inEvents calls socket).1.flatMap InEvent.notices) ≤ socket.stream.length
  | 0, _ => Nat.zero_le _
  | calls + 1, socket => by
    have hsize := processSocketInEvent_size socket
    rw [inEvents]
    dsimp only
    split
    · rw [List.flatMap_singleton]
      omega
    · have ih := inEvents_size calls (processSocketInEvent socket).2
      rw [List.flatMap_cons, noticesSize, List.map_append, List.sum_append]
      unfold noticesSize at hsize ih
      omega

theorem noticesSize_packets (packets : List AuthTcpPacket) :
    noticesSize (packets.map AuthTcpPacket.notice) = (packets.flatMap AuthTcpPacket.wire).length := by
  rw [noticesSize, List.length_flatMap, List.map_map]
  congr 2
  funext p
  exact (size_notifyDataReceived p.head p.data).trans p.length_wire.symm

/-! ## Whole streams -/

/-- The reads that are left after the data, if they suffice and none of them fails. -/
def dataReads : (len : Nat) → List (Option Nat) → Option (List (Option Nat))
  | 0, reads => some reads
  | len + 1, some k :: reads => dataReads (len + 1 - k) reads
  | _, _ => none

/-- The calls read all packets: a read of a head gives nothing or all of it, there is memory for the data, and
no read of the data fails. -/
def ReadsWhole : (calls : Nat) → List AuthTcpPacket → List (Option Nat) → (mem : List Bool) → Prop
  | _, [], _, _ => True
  | calls + 1, p :: packets, some k :: reads, mem =>
    k = 0 ∧ ReadsWhole calls (p :: packets) reads mem ∨
      authPktHeadLen ≤ k ∧ mem.headD true = true ∧
        ∃ reads', dataReads p.data.length reads = some reads' ∧ ReadsWhole calls packets reads' mem.tail
  | _, _, _, _ => False

theorem recvPacketData_eq (len : Nat) : ∀ (reads : List (Option Nat)) (data stream : List UInt8) (rest : Nat),
    data.length + rest = len → rest ≤ stream.length →
    match dataReads rest reads with
    | some reads' => recvPacketData len reads data stream = (.ok (data ++ stream.take rest), stream.drop rest, reads')
    | none => ∃ event, (recvPacketData len reads data stream).1 = .error event
  | reads, data, stream, 0, hlen, _ => by
    rw [dataReads]
    dsimp only
    rw [List.take_zero, List.drop_zero, List.append_nil]
    rcases reads with _ | ⟨_ | k, reads⟩ <;> rw [recvPacketData, if_neg (by omega)]
  | [], data, stream, rest + 1, hlen, _ => ⟨.waiting, if_pos (by omega)⟩
  | none :: reads, data, stream, rest + 1, hlen, _ => ⟨.dataFailed, by rw [recvPacketData, if_pos (by omega)]⟩
  | some k :: reads, data, stream, rest + 1, hlen, hlong => by
    rw [dataReads, recvPacketData, if_pos (by omega)]
    dsimp only
    have hchunk : (stream.take (min k (len - data.length))).length = min k (rest + 1) := by rw [List.length_take]; omega
    have htake : min k (len - data.length) = min k (rest + 1) := by omega
    have ih := recvPacketData_eq len reads (data ++ stream.take (min k (len - data.length)))
      (stream.drop (min k (rest + 1))) (rest + 1 - k) (by rw [List.length_append]; omega) (by rw [List.length_drop]; omega)
    rw [hchunk]
    rw [List.append_assoc, htake, ← List.take_add, List.drop_drop,
      show min k (rest + 1) + (rest + 1 - k) = rest + 1 by omega] at ih
    rw [htake]
    exact ih

theorem processSocketInEvent_head (p : AuthTcpPacket) (stream : List UInt8) {k : Nat} (hk : authPktHeadLen ≤ k)
    (reads : List (Option Nat)) (mem : List Bool) :
    processSocketInEvent ⟨p.wire ++ stream, some k :: reads, mem⟩ =
      if !mem.headD true then (.dataFailed, ⟨p.data ++ stream, reads, mem.tail⟩)
      else match recvPacketData p.data.length reads [] (p.data ++ stream) with
        | (.error event, stream, reads) => (event, ⟨stream, reads, mem.tail⟩)
        | (.ok data, stream, reads) => (.received p.head data, ⟨stream, reads, mem.tail⟩) := by
  have hbuf : (p.wire ++ stream).take (min k authPktHeadLen) = p.head.store .littleEndian := by
    rw [Nat.min_eq_right hk, AuthTcpPacket.wire, List.append_assoc, List.take_left' p.length_head]
  have hdrop : (p.wire ++ stream).drop authPktHeadLen = p.data ++ stream := by
    rw [AuthTcpPacket.wire, List.append_assoc, List.drop_left' p.length_head]
  have hload : ConnPktHead.load .littleEndian (p.head.store .littleEndian) = p.head := by simpa using load_store p.head []
  have hpos := p.len_pos
  have hzero : p.head.len ≠ 0 := by
    intro hzero
    have hlen := p.len_eq
    rw [hzero] at hlen
    simp at hlen
    omega
  unfold processSocketInEvent recvPacketHead unpackSocketPkt
  dsimp only
  rw [hbuf, if_neg (by rw [p.length_head]; omega)]
  dsimp only
  rw [p.length_head, hdrop, hload, if_neg (not_or.mpr ⟨hzero, by rw [p.len_eq]; exact Nat.not_lt.mpr p.len_le⟩),
    if_neg (not_not.mpr p.magic_eq), p.len_eq]

theorem processSocketInEvent_short {stream : List UInt8} {k : Nat} (hk : k < authPktHeadLen) (hle : k ≤ stream.length)
    (reads : List (Option Nat)) (mem : List Bool) :
    processSocketInEvent ⟨stream, some k :: reads, mem⟩ = (.headNotEnough k, ⟨stream.drop k, reads, mem⟩) := by
  have hlen : (stream.take k).length = k := by rw [List.length_take]; omega
  unfold processSocketInEvent recvPacketHead unpackSocketPkt
  dsimp only
  rw [Nat.min_eq_left hk.le, hlen, if_pos hk]

theorem inEvents_lost {packets : List AuthTcpPacket} {socket : AuthSocket} (calls : Nat)
    (hnone : (processSocketInEvent socket).1.notices = [])
    (hshort : (processSocketInEvent socket).2.stream.length < (packets.flatMap AuthTcpPacket.wire).length) :
    (inEvents (calls + 1) socket).1.flatMap InEvent.notices ≠ packets.map AuthTcpPacket.notice := by
  intro hall
  have hsize := congrArg noticesSize hall
  rw [noticesSize_packets, inEvents] at hsize
  dsimp only at hsize
  split at hsize
  · rw [List.flatMap_singleton, hnone] at hsize
    exact absurd hsize (Nat.ne_of_lt (Nat.zero_lt_of_lt hshort))
  · rw [List.flatMap_cons, hnone, List.nil_append] at hsize
    have := inEvents_size calls (processSocketInEvent socket).2
    omega

/-- The packets arrive, whatever the sizes of the reads of the data, if and only if the calls read them whole. -/
theorem auth_tcp_deframing_iff (packets : List AuthTcpPacket) (reads : List (Option Nat)) (mem : List Bool) (calls : Nat) :
    (inEvents calls ⟨packets.flatMap AuthTcpPacket.wire, reads, mem⟩).1.flatMap InEvent.notices =
        packets.map AuthTcpPacket.notice ↔
      ReadsWhole calls packets reads mem := by
  induction calls generalizing packets reads mem with
  | zero => cases packets <;> simp [inEvents, ReadsWhole]
  | succ calls ih =>
    rcases packets with _ | ⟨p, packets⟩
    · refine iff_of_true (List.eq_nil_of_length_eq_zero ?_) trivial
      have hle := inEvents_size (calls + 1) ⟨[], reads, mem⟩
      exact Nat.eq_zero_of_le_zero ((length_le_noticesSize _).trans hle)
    have hpos := p.len_pos
    have hlen : ((p :: packets).flatMap AuthTcpPacket.wire).length =
        authPktHeadLen + (p.data.length + (packets.flatMap AuthTcpPacket.wire).length) := by
      rw [List.flatMap_cons, List.length_append, p.length_wire, Nat.add_assoc]
    rcases reads with _ | ⟨_ | k, reads⟩
    · exact iff_of_false (fun h => nomatch h) id
    · exact iff_of_false (fun h => nomatch h) id
    rw [ReadsWhole]
    by_cases hk : authPktHeadLen ≤ k
    · have hcall := processSocketInEvent_head p (packets.flatMap AuthTcpPacket.wire) hk reads mem
      rw [← List.flatMap_cons] at hcall
      rw [or_iff_right fun h => absurd hk (by rw [h.1]; decide), and_iff_right hk]
      cases hmem : mem.headD true with
      | false =>
        rw [hmem, Bool.not_false, if_pos rfl] at hcall
        refine iff_of_false (inEvents_lost calls (by rw [hcall]; rfl) ?_) nofun
        rw [hcall, hlen, List.length_append]
        exact Nat.lt_add_of_pos_left (by decide)
      | true =>
        rw [hmem, Bool.not_true, if_neg Bool.false_ne_true] at hcall
        have hdata := recvPacketData_eq p.data.length reads [] (p.data ++ packets.flatMap AuthTcpPacket.wire) p.data.length
          (Nat.zero_add _) (by rw [List.length_append]; omega)
        cases hreads : dataReads p.data.length reads with
        | none =>
          rw [hreads] at hdata
          obtain ⟨event, hevent⟩ := hdata
          obtain ⟨hle, hnone⟩ := recvPacketData_length p.data.length reads [] (p.data ++ packets.flatMap AuthTcpPacket.wire)
          rw [hevent] at hnone
          generalize recvPacketData p.data.length reads [] (p.data ++ packets.flatMap AuthTcpPacket.wire) = result at *
          obtain ⟨_, stream, reads'⟩ := result
          dsimp only at hevent hcall hle
          subst hevent
          refine iff_of_false (inEvents_lost calls (by rw [hcall]; exact hnone) ?_) nofun
          rw [hcall, hlen]
          rw [List.length_append] at hle
          exact Nat.lt_of_le_of_lt hle (Nat.lt_add_of_pos_left (by decide))
        | some reads' =>
          rw [hreads] at hdata
          dsimp only at hdata
          rw [hdata, List.take_left, List.drop_left, List.nil_append] at hcall
          rw [inEvents, hcall, and_iff_right rfl]
          dsimp only
          rw [if_neg (by simp), List.flatMap_cons, List.map_cons]
          simp only [Option.some.injEq, exists_eq_left', ← ih]
          exact List.cons_inj_right _
    · have hshort := processSocketInEvent_short (Nat.lt_of_not_le hk)
        (show k ≤ ((p :: packets).flatMap AuthTcpPacket.wire).length by omega) reads mem
      by_cases hzero : k = 0
      · subst hzero
        rw [or_iff_left fun h => hk h.1, and_iff_right rfl, ← ih, inEvents, hshort]
        rfl
      · refine iff_of_false (inEvents_lost calls (by rw [hshort]; rfl) ?_) (by omega)
        rw [hshort, List.length_drop]
        omega

def onePacket : AuthTcpPacket where
  head := ⟨connMagicNumber, 3, 7, 0, 1⟩
  data := [42]
  magic_eq := rfl
  len_eq := rfl
  len_pos := by decide
  len_le := by decide

/-- A head that comes in two parts is lost, and the data with it. -/
theorem split_head_lost :
    inEvents 2 ⟨[onePacket].flatMap AuthTcpPacket.wire, [some 10, some 15], []⟩ =
      ([.headNotEnough 10, .headNotEnough 15], ⟨[], [], []⟩) := by
  decide

end SoftBus
