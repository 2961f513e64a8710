import SoftBus.GattTrans
import SoftBus.Lib.Run

/-!
# GATT reassembly does not mix messages

Along every run in which, while segments of a message with the number 0 are held,
only segments of that message come in, the buffer holds segments of one message,
in order, and a value joined from segments is the whole of one message.
-/

namespace SoftBus

open Segments (Rising Tiles held)

/-! ## Headers -/

section
variable {data : List UInt8} {header : BleTransHeader}

structure UnpacksTo (data : List UInt8) (header : BleTransHeader) : Prop where
  length : data.length = bleTransHeaderSize + header.size
  total_le : header.total ≤ maxDataLen
  fits : header.offset + header.size ≤ header.total

theorem unpacksTo (h : unpackTransHeader data = some header) : UnpacksTo data header := by
  unfold unpackTransHeader at h
  split at h
  · cases h
  split at h
  · cases h
  rename_i hlen hbad
  rw [Option.some.injEq] at h
  rw [h] at hbad
  refine ⟨?_, ?_, ?_⟩ <;> omega

theorem UnpacksTo.length_payload (h : UnpacksTo data header) :
    (ConnBlePacket.payload ⟨header, data⟩).length = header.size := by
  rw [ConnBlePacket.payload, List.length_take, List.length_drop, h.length, Nat.add_sub_cancel_left, Nat.min_self]

end

/-! ## Joining -/

theorem length_payloads {ps : List ConnBlePacket} (h : ∀ p ∈ ps, p.payload.length = p.size) :
    (ps.flatMap ConnBlePacket.payload).length = held ConnBlePacket.size ps := by
  rw [List.length_flatMap, held, List.map_congr_left h]

section
variable {valueLen : Nat}

theorem joinPackets_some (hlen : valueLen ≤ maxDataLen) :
    ∀ {ps : List ConnBlePacket} {offset : Nat} {value v : List UInt8},
    (∀ p ∈ ps, p.payload.length = p.size) → value.length = valueLen →
    offset + held ConnBlePacket.size ps ≤ valueLen → joinPackets valueLen ps offset value = some v →
    Tiles ConnBlePacket.offset ConnBlePacket.size offset ps ∧
    v = value.take offset ++ ps.flatMap ConnBlePacket.payload ++ value.drop (offset + held ConnBlePacket.size ps)
  | [], offset, value, v, _, _, _, h => by
    cases h
    exact ⟨trivial, by simp [held]⟩
  | p :: ps, offset, value, v, hps, hvalue, hroom, h => by
    obtain ⟨hp, hps⟩ := List.forall_mem_cons.mp hps
    rw [Segments.held_cons] at hroom ⊢
    have hsmall : (offset + p.header.size) % 4294967296 = offset + p.size := by
      rw [maxDataLen] at hlen
      exact Nat.mod_eq_of_lt (by change offset + p.size < _; omega)
    rw [joinPackets, hsmall] at h
    split at h
    · cases h
    rename_i hoff
    split at h
    · cases h
    rename_i value' hcopy
    obtain ⟨_, rfl⟩ := memcpyS_eq_some.mp hcopy
    have hvalue' : (value.take offset ++ p.payload ++ value.drop (offset + p.payload.length)).length = valueLen := by
      simp only [List.length_append, List.length_take, List.length_drop]
      omega
    obtain ⟨htiles, rfl⟩ := joinPackets_some hlen hps hvalue' (by omega) h
    refine ⟨⟨not_not.mp hoff, htiles⟩, ?_⟩
    have htake : (value.take offset ++ p.payload ++ value.drop (offset + p.payload.length)).take (offset + p.size) =
        value.take offset ++ p.payload := List.take_left' (by
      rw [List.length_append, List.length_take, hp]
      omega)
    have hdrop : (value.take offset ++ p.payload ++ value.drop (offset + p.payload.length)).drop
        (offset + p.size + held ConnBlePacket.size ps) = value.drop (offset + (p.size + held ConnBlePacket.size ps)) := by
      rw [List.drop_append, List.drop_eq_nil_of_le, List.nil_append, List.drop_drop]
      · congr 1
        rw [List.length_append, List.length_take, hp]
        omega
      · rw [List.length_append, List.length_take, hp]
        omega
    rw [htake, hdrop, List.flatMap_cons, List.append_assoc (value.take offset)]

end

/-! ## What the buffer holds -/

/-- The segments held rise in their offsets and are of one message, whose number and length the
buffer has; the bytes received are theirs, and fewer than the message has. -/
structure GattHolds (b : ConnBleReadBuffer) : Prop where
  rising : Rising ConnBlePacket.offset b.packets
  unpacked : ∀ p ∈ b.packets, unpackTransHeader p.data = some p.header
  common : ∀ p ∈ b.packets, p.header.seq = b.seq ∧ p.header.total = b.total
  received : b.received = held ConnBlePacket.size b.packets
  short : ∀ p ∈ b.packets, b.received < p.header.total

/-- `v` is the whole of one message: segments that were held, and the one that came, one behind the other. -/
def GattJoins (b : ConnBleReadBuffer) (data v : List UInt8) : Prop :=
  ∃ (ps : List ConnBlePacket) (seq : Nat),
    (∀ p ∈ ps, (p ∈ b.packets ∨ p.data = data) ∧ unpackTransHeader p.data = some p.header) ∧
    (∀ p ∈ ps, p.header.seq = seq ∧ p.header.total = v.length) ∧
    Tiles ConnBlePacket.offset ConnBlePacket.size 0 ps ∧ held ConnBlePacket.size ps = v.length ∧
    v = ps.flatMap ConnBlePacket.payload

/-- While segments are held and the buffer says 0, a segment that comes is of the message they are of. -/
def GattStepOk (b : ConnBleReadBuffer) (input : GattMemory × List UInt8) : Prop :=
  b.seq = 0 → ∀ header, unpackTransHeader input.2 = some header → header.size ≠ header.total →
    ∀ p ∈ b.packets, p.header.seq = header.seq ∧ p.header.total = header.total

def gattStep (b : ConnBleReadBuffer) (input : GattMemory × List UInt8) : ConnBleReadBuffer :=
  (connGattTransRecv input.1 b input.2).1

section
variable {b : ConnBleReadBuffer} {header : BleTransHeader} {data : List UInt8} {mem : GattMemory}

theorem GattHolds.empty : GattHolds {} :=
  ⟨List.Pairwise.nil, nofun, nofun, rfl, nofun⟩

theorem GattHolds.bufferFor (h : GattHolds b)
    (hok : b.seq = 0 → ∀ p ∈ b.packets, p.header.seq = header.seq ∧ p.header.total = header.total) :
    GattHolds (bufferFor b header) ∧
    (∀ p ∈ (bufferFor b header).packets, p ∈ b.packets ∧ p.header.seq = header.seq ∧ p.header.total = header.total) := by
  unfold SoftBus.bufferFor
  split
  · exact ⟨GattHolds.empty, nofun⟩
  · rename_i hsame
    refine ⟨h, fun p hp => ⟨hp, ?_⟩⟩
    by_cases hseq : b.seq = 0
    · exact hok hseq p hp
    · obtain ⟨hs, ht⟩ := h.common p hp
      rw [hs, ht]
      by_contra hne
      exact hsame ⟨hseq, by omega⟩

theorem GattHolds.received_lt (h : GattHolds b) (hsame : ∀ p ∈ b.packets, p.header.total = header.total)
    (hpos : 0 < header.total) : b.received < header.total := by
  cases hps : b.packets with
  | nil => rw [h.received, hps]; exact hpos
  | cons p ps =>
    have hp : p ∈ b.packets := by rw [hps]; exact List.mem_cons_self
    rw [← hsame p hp]
    exact h.short p hp

structure GattCounted (b : ConnBleReadBuffer) (header : BleTransHeader) (data : List UInt8)
    (b' : ConnBleReadBuffer) : Prop where
  rising : Rising ConnBlePacket.offset b'.packets
  origin : ∀ p ∈ b'.packets, (p ∈ b.packets ∨ p.data = data) ∧ unpackTransHeader p.data = some p.header
  common : ∀ p ∈ b'.packets, p.header.seq = b'.seq ∧ p.header.total = b'.total
  received : b'.received = held ConnBlePacket.size b'.packets
  total : b'.total = header.total

theorem GattHolds.count (h : GattHolds b)
    (hsame : ∀ p ∈ b.packets, p.header.seq = header.seq ∧ p.header.total = header.total)
    (hunpack : unpackTransHeader data = some header) (hpart : header.size ≠ header.total) {packets : List ConnBlePacket}
    (hinsert : Segments.insert ConnBlePacket.offset ⟨header, data⟩ b.packets = some packets) :
    GattCounted b header data (countPacket b header packets) := by
  have hperm := Segments.perm_insert hinsert
  have hu := unpacksTo hunpack
  have hfits := hu.fits
  have htotal := hu.total_le
  rw [maxDataLen] at htotal
  have hlt := h.received_lt (fun p hp => (hsame p hp).2) (show 0 < header.total by omega)
  have hmem : ∀ p ∈ packets, p = ⟨header, data⟩ ∨ p ∈ b.packets := fun p hp => List.mem_cons.mp (hperm.mem_iff.mp hp)
  refine ⟨h.rising.insert hinsert, fun p hp => ?_, fun p hp => ?_, ?_, rfl⟩
  · rcases hmem p hp with rfl | hp
    · exact ⟨.inr rfl, hunpack⟩
    · exact ⟨.inl hp, h.unpacked p hp⟩
  · rcases hmem p hp with rfl | hp
    · exact ⟨rfl, rfl⟩
    · exact hsame p hp
  · change (b.received + header.size) % 4294967296 = held ConnBlePacket.size packets
    rw [Segments.held_perm hperm, Segments.held_cons, ← h.received, Nat.mod_eq_of_lt (by omega), Nat.add_comm]
    rfl

theorem GattCounted.recv {b' : ConnBleReadBuffer} (h : GattCounted b header data b')
    (htotal : header.total ≤ maxDataLen) :
    GattHolds (recvCounted mem b').1 ∧ ∀ v, (recvCounted mem b').2 = some v → GattJoins b data v := by
  unfold recvCounted
  split
  · rename_i hlt
    refine ⟨⟨h.rising, fun p hp => (h.origin p hp).2, h.common, h.received, fun p hp => ?_⟩, nofun⟩
    rw [(h.common p hp).2]
    exact hlt
  split
  · exact ⟨GattHolds.empty, nofun⟩
  rename_i hge hle
  split
  · refine ⟨GattHolds.empty, fun v hv => ?_⟩
    have hheld : held ConnBlePacket.size b'.packets = b'.total := by
      rw [← h.received]
      omega
    have hsizes : ∀ p ∈ b'.packets, p.payload.length = p.size := fun p hp =>
      (unpacksTo (h.origin p hp).2).length_payload
    obtain ⟨htiles, hjoin⟩ := joinPackets_some (h.total ▸ htotal) hsizes List.length_replicate (by omega) hv
    rw [Nat.zero_add, hheld, List.take_zero, List.nil_append, List.drop_eq_nil_of_le (by simp), List.append_nil] at hjoin
    have hlength : v.length = b'.total := by rw [hjoin, length_payloads hsizes, hheld]
    refine ⟨b'.packets, b'.seq, h.origin, fun p hp => ?_, htiles, hheld.trans hlength.symm, hjoin⟩
    rw [hlength]
    exact h.common p hp
  · exact ⟨GattHolds.empty, nofun⟩

theorem GattHolds.recv (h : GattHolds b) (hok : GattStepOk b (mem, data)) :
    GattHolds (connGattTransRecv mem b data).1 ∧
    ∀ header, unpackTransHeader data = some header → header.size ≠ header.total →
      ∀ v, (connGattTransRecv mem b data).2 = some v → GattJoins b data v := by
  unfold connGattTransRecv
  split
  · rename_i hnone
    exact ⟨h, fun _ hsome => nomatch hnone.symm.trans hsome⟩
  rename_i header hunpack
  split
  · rename_i hwhole
    refine ⟨h, fun header' hsome hpart => ?_⟩
    obtain rfl := Option.some.inj (hunpack.symm.trans hsome)
    exact absurd hwhole hpart
  · rename_i hpart
    obtain ⟨hfor, hsame⟩ := h.bufferFor fun hseq => hok hseq header hunpack hpart
    unfold recvSegment
    split
    · exact ⟨hfor, fun _ _ _ v hv => nomatch hv⟩
    rename_i packets hinsert
    split
    · have hcount := hfor.count (fun p hp => (hsame p hp).2) hunpack hpart hinsert
      obtain ⟨hholds, hjoins⟩ := hcount.recv (unpacksTo hunpack).total_le
      refine ⟨hholds, fun _ _ _ v hv => ?_⟩
      obtain ⟨ps, seq, horigin, hrest⟩ := hjoins v hv
      refine ⟨ps, seq, fun p hp => ⟨?_, (horigin p hp).2⟩, hrest⟩
      exact (horigin p hp).1.imp_left fun hmem => (hsame p hmem).1
    · exact ⟨GattHolds.empty, fun _ _ _ v hv => nomatch hv⟩

end

/-- In every run of calls that all meet `GattStepOk`, each call leaves a buffer with segments of one message in
order, and a value it returns that did not come in one segment is the whole of one message. -/
theorem gatt_reassembly_never_mixes {l : List (GattMemory × List UInt8)} (hok : Run.Always gattStep GattStepOk {} l) :
    Run.Always gattStep (fun b input => GattHolds (gattStep b input) ∧
      ∀ header, unpackTransHeader input.2 = some header → header.size ≠ header.total →
        ∀ v, (connGattTransRecv input.1 b input.2).2 = some v → GattJoins b input.2 v) {} l :=
  Run.always_of_inv (I := GattHolds) (fun _ _ hb hstep => ⟨(hb.recv hstep).1, hb.recv hstep⟩) l GattHolds.empty hok

def gattSegment (header : BleTransHeader) (byte : UInt8) : List UInt8 :=
  packTransHeader header ++ List.replicate header.size byte

theorem gatt_reassembly_never_mixes_two :
    Run.Always gattStep GattStepOk {} [({}, gattSegment ⟨5, 2, 2, 4⟩ 8), ({}, gattSegment ⟨5, 2, 0, 4⟩ 7)] ∧
    Run.Always gattStep (fun b input => GattHolds (gattStep b input) ∧
      ∀ header, unpackTransHeader input.2 = some header → header.size ≠ header.total →
        ∀ v, (connGattTransRecv input.1 b input.2).2 = some v → GattJoins b input.2 v) {}
      [({}, gattSegment ⟨5, 2, 2, 4⟩ 8), ({}, gattSegment ⟨5, 2, 0, 4⟩ 7)] := by
  have hok : Run.Always gattStep GattStepOk {} [({}, gattSegment ⟨5, 2, 2, 4⟩ 8), ({}, gattSegment ⟨5, 2, 0, 4⟩ 7)] := by
    refine ⟨fun _ header _ _ p hp => absurd hp List.not_mem_nil, fun hseq => ?_, trivial⟩
    exact absurd hseq (by decide +kernel)
  exact ⟨hok, gatt_reassembly_never_mixes hok⟩

/-- A segment of message 0, then one of message 7: the call returns a value made of both. -/
theorem gatt_messages_mixed :
    connGattTransRecv {} (gattStep {} ({}, gattSegment ⟨0, 5, 0, 10⟩ 1)) (gattSegment ⟨7, 3, 5, 8⟩ 2) =
      ({}, some [1, 1, 1, 1, 1, 2, 2, 2]) := by
  decide +kernel

end SoftBus
