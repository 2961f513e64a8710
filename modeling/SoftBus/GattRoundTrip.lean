import SoftBus.GattTransSound

/-!
# What GATT sends it receives

The segments of a message, fed to an empty buffer in any order and with any
repetitions, give the message at the moment the last missing one comes, and
leave the buffer empty.
-/

namespace SoftBus

open Segments (Rising Tiles held)

/-! ## The segments of a message -/

section
variable {header : BleTransHeader} {bytes : List UInt8}

theorem length_packTransHeader : (packTransHeader header).length = bleTransHeaderSize := by
  simp [packTransHeader, bleTransHeaderSize]

theorem headerOf_packTransHeader (hseq : header.seq < 4294967296) (hsize : header.size < 4294967296)
    (hoffset : header.offset < 4294967296) (htotal : header.total < 4294967296) :
    unpackTransHeader.headerOf (packTransHeader header ++ bytes) = header := by
  simp only [unpackTransHeader.headerOf, packTransHeader, List.append_assoc]
  rw [Bytes.readBig_putBig_append hseq, Bytes.drop_putBig_append, Bytes.readBig_putBig_append hsize,
    Bytes.drop_putBig_append_add 4 _ 4, Bytes.drop_putBig_append, Bytes.readBig_putBig_append hoffset,
    Bytes.drop_putBig_append_add 4 _ 8, Bytes.drop_putBig_append_add 4 _ 4, Bytes.drop_putBig_append,
    Bytes.readBig_putBig_append htotal]

theorem unpackTransHeader_pack (hseq : header.seq < 4294967296) (hsize : header.size = bytes.length)
    (htotal : header.total ≤ maxDataLen) (hfits : header.offset + header.size ≤ header.total) :
    unpackTransHeader (packTransHeader header ++ bytes) = some header := by
  have hmax : maxDataLen < 4294967296 := by decide
  have hof : unpackTransHeader.headerOf (packTransHeader header ++ bytes) = header :=
    headerOf_packTransHeader hseq (by omega) (by omega) (by omega)
  have hlen : (packTransHeader header ++ bytes).length = bleTransHeaderSize + header.size := by
    rw [List.length_append, length_packTransHeader, hsize]
  rw [unpackTransHeader, hof, hlen, if_neg (by omega), if_neg (by omega)]

end

def sentPackets (maxPayload sequence dataLen offset : Nat) (waitSendData : List UInt8) : List ConnBlePacket :=
  if waitSendData = [] ∨ maxPayload = 0 then []
  else
    ⟨⟨sequence, min waitSendData.length maxPayload, offset, dataLen⟩,
      packTransHeader ⟨sequence, min waitSendData.length maxPayload, offset, dataLen⟩ ++ waitSendData.take maxPayload⟩ ::
      sentPackets maxPayload sequence dataLen (offset + min waitSendData.length maxPayload)
        (waitSendData.drop maxPayload)
termination_by waitSendData.length
decreasing_by
  rename_i h
  rw [not_or] at h
  have := List.length_pos_of_ne_nil h.1
  rw [List.length_drop]
  omega

section
variable {n sequence total : Nat}

theorem sendSegments_eq (offset : Nat) (bytes : List UInt8) :
    sendSegments n sequence total offset bytes = (sentPackets n sequence total offset bytes).map ConnBlePacket.data := by
  fun_induction sendSegments n sequence total offset bytes with
  | case1 offset bytes h => rw [sentPackets, if_pos h, List.map_nil]
  | case2 offset bytes h ih => rw [sentPackets, if_neg h, List.map_cons, ih]

structure SentPackets (sequence total offset : Nat) (bytes : List UInt8) (ps : List ConnBlePacket) : Prop where
  tiles : Tiles ConnBlePacket.offset ConnBlePacket.size offset ps
  held : held ConnBlePacket.size ps = bytes.length
  payload : ps.flatMap ConnBlePacket.payload = bytes
  pos : ∀ p ∈ ps, 0 < p.size
  unpacks : ∀ p ∈ ps, unpackTransHeader p.data = some p.header
  header : ∀ p ∈ ps, p.header.seq = sequence ∧ p.header.total = total

theorem sentPackets_spec (hn : 0 < n) (hseq : sequence < 4294967296) (htotal : total ≤ maxDataLen) (offset : Nat)
    (bytes : List UInt8) (hfits : offset + bytes.length ≤ total) :
    SentPackets sequence total offset bytes (sentPackets n sequence total offset bytes) := by
  fun_induction sentPackets n sequence total offset bytes with
  | case1 offset bytes h =>
    obtain rfl : bytes = [] := h.resolve_right (by omega)
    exact ⟨trivial, rfl, rfl, nofun, nofun, nofun⟩
  | case2 offset bytes h ih =>
    rw [not_or] at h
    have hbytes := List.length_pos_of_ne_nil h.1
    have hrest := ih (by rw [List.length_drop]; omega)
    have hunpack : unpackTransHeader (packTransHeader ⟨sequence, min bytes.length n, offset, total⟩ ++ bytes.take n) =
        some ⟨sequence, min bytes.length n, offset, total⟩ :=
      unpackTransHeader_pack hseq (by rw [List.length_take, Nat.min_comm]) htotal (by dsimp only; omega)
    refine ⟨⟨rfl, hrest.tiles⟩, ?_, ?_, ?_, ?_, ?_⟩
    · rw [Segments.held_cons, hrest.held, List.length_drop]
      change min bytes.length n + _ = _
      omega
    · rw [List.flatMap_cons, hrest.payload]
      change ((packTransHeader _ ++ bytes.take n).drop bleTransHeaderSize).take (min bytes.length n) ++ _ = _
      rw [List.drop_left' length_packTransHeader, List.take_of_length_le (by rw [List.length_take, Nat.min_comm]),
        List.take_append_drop]
    · exact List.forall_mem_cons.mpr ⟨Nat.lt_min.mpr ⟨hbytes, hn⟩, hrest.pos⟩
    · exact List.forall_mem_cons.mpr ⟨hunpack, hrest.unpacks⟩
    · exact List.forall_mem_cons.mpr ⟨⟨rfl, rfl⟩, hrest.header⟩

theorem SentPackets.rising {offset : Nat} {bytes : List UInt8} {ps : List ConnBlePacket}
    (h : SentPackets sequence total offset bytes ps) : Rising ConnBlePacket.offset ps := h.tiles.rising h.pos

theorem SentPackets.sizes {offset : Nat} {bytes : List UInt8} {ps : List ConnBlePacket}
    (h : SentPackets sequence total offset bytes ps) : ∀ p ∈ ps, p.payload.length = p.size := fun p hp =>
  (unpacksTo (h.unpacks p hp)).length_payload

end

/-! ## One segment comes -/

theorem joinPackets_isSome {valueLen : Nat} (hlen : valueLen ≤ maxDataLen) :
    ∀ {ps : List ConnBlePacket} {offset : Nat} (value : List UInt8), Tiles ConnBlePacket.offset ConnBlePacket.size offset ps →
    (∀ p ∈ ps, 0 < p.size ∧ p.payload.length = p.size) → offset + held ConnBlePacket.size ps ≤ valueLen →
    (joinPackets valueLen ps offset value).isSome = true
  | [], _, _, _, _, _ => rfl
  | p :: ps, offset, value, ⟨hoff, htiles⟩, hps, hroom => by
    obtain ⟨⟨hpos, hsize⟩, hps⟩ := List.forall_mem_cons.mp hps
    rw [Segments.held_cons] at hroom
    rw [maxDataLen] at hlen
    have hsmall : (offset + p.header.size) % 4294967296 = offset + p.size := Nat.mod_eq_of_lt (by
      change offset + p.size < _
      omega)
    obtain ⟨value', hvalue'⟩ : ∃ value', memcpyS value offset (valueLen - offset) p.payload = some value' :=
      ⟨_, memcpyS_eq_some.mpr ⟨by omega, rfl⟩⟩
    rw [joinPackets, if_neg (not_not_intro (show p.header.offset = offset from hoff)), hvalue', hsmall]
    exact joinPackets_isSome hlen value' htiles hps (by omega)

structure GattPart (ps : List ConnBlePacket) (b : ConnBleReadBuffer) : Prop extends GattHolds b where
  part : b.packets ⊆ ps
  empty : b.packets = [] → b = {}

section
variable {sequence : Nat} {payload : List UInt8} {ps : List ConnBlePacket} {b : ConnBleReadBuffer} {p : ConnBlePacket}

theorem GattPart.nil : GattPart ps {} := ⟨GattHolds.empty, List.nil_subset ps, fun _ => rfl⟩

theorem SentPackets.eq_singleton (hps : SentPackets sequence payload.length 0 payload ps) (hp : p ∈ ps)
    (hwhole : p.header.size = p.header.total) : ps = [p] := by
  by_contra hne
  have hlt := Segments.held_lt hps.pos (List.singleton_sublist.mpr hp) (Ne.symm hne)
  rw [hps.held, Segments.held_cons] at hlt
  have hsize : p.size = payload.length := hwhole.trans (hps.header p hp).2
  omega

theorem recvWhole_eq (hps : SentPackets sequence payload.length 0 payload [p]) (hne : payload ≠ [])
    (hmax : payload.length ≤ maxDataLen) : recvWhole {} p.header p.data = some payload := by
  have hp : p ∈ [p] := List.mem_singleton_self p
  have hpayload : p.payload = payload := by simpa using hps.payload
  have hsize := hps.sizes p hp
  have hlen := (unpacksTo (hps.unpacks p hp)).length
  have hdrop : p.data.drop bleTransHeaderSize = payload := by
    rw [← hpayload, ConnBlePacket.payload, List.take_of_length_le]
    rw [List.length_drop, hlen]
    omega
  have hpos := List.length_pos_of_ne_nil hne
  rw [maxDataLen] at hmax
  rw [recvWhole, if_pos rfl, (hps.header p hp).2, hdrop]
  refine memcpyS_eq_some.mpr ⟨by omega, ?_⟩
  simp

theorem GattPart.bufferFor_eq (h : GattPart ps b) (hps : SentPackets sequence payload.length 0 payload ps)
    (hp : p ∈ ps) :
    bufferFor b p.header = b := by
  refine if_neg fun ⟨hseq, hdiff⟩ => ?_
  cases hb : b.packets with
  | nil => exact hseq (by rw [h.empty hb])
  | cons q qs =>
    have hq : q ∈ b.packets := by rw [hb]; exact List.mem_cons_self
    have h₁ := h.common q hq
    have h₂ := hps.header q (h.part hq)
    have h₃ := hps.header p hp
    omega

theorem GattPart.not_all (h : GattPart ps b) (hps : SentPackets sequence payload.length 0 payload ps) (hp : p ∈ ps) :
    ¬ ps ⊆ b.packets := by
  intro hall
  have hsub := h.rising.sublist hps.rising h.part
  have heq : b.packets = ps := hsub.antisymm (hps.rising.sublist h.rising hall)
  have hshort := h.short p (heq ▸ hp)
  rw [h.received, heq, hps.held, (hps.header p hp).2] at hshort
  exact Nat.lt_irrefl _ hshort

theorem GattPart.recvSegment (h : GattPart ps b) (hps : SentPackets sequence payload.length 0 payload ps)
    (hmax : payload.length ≤ maxDataLen) (hp : p ∈ ps) (hpart : p.header.size ≠ p.header.total) (hnew : p ∉ b.packets) :
    (ps ⊆ p :: b.packets ∧ recvSegment {} b p = ({}, some payload)) ∨
    (¬ ps ⊆ p :: b.packets ∧ ∃ b', recvSegment {} b p = (b', none) ∧ GattPart ps b' ∧
      ∀ q, q ∈ b'.packets ↔ q = p ∨ q ∈ b.packets) := by
  have hsame : ∀ q ∈ b.packets, q.header.seq = p.header.seq ∧ q.header.total = p.header.total := fun q hq => by
    have h₁ := hps.header q (h.part hq)
    have h₂ := hps.header p hp
    omega
  cases hinsert : Segments.insert ConnBlePacket.offset p b.packets with
  | none =>
    obtain ⟨q, hq, hoff⟩ := (Segments.insert_eq_none h.rising).mp hinsert
    exact absurd (hps.rising.eq_of_off (h.part hq) hp hoff ▸ hq) hnew
  | some packets =>
    have hcount := h.toGattHolds.count hsame (hps.unpacks p hp) hpart hinsert
    have hperm := Segments.perm_insert hinsert
    have hmem : ∀ q, q ∈ packets ↔ q = p ∨ q ∈ b.packets := fun q => hperm.mem_iff.trans List.mem_cons
    have hsub : packets ⊆ ps := fun q hq => (hmem q).mp hq |>.elim (fun h => h ▸ hp) fun hq => h.part hq
    have hlist : packets.Sublist ps := hcount.rising.sublist hps.rising hsub
    have hreceived : (countPacket b p.header packets).received = held ConnBlePacket.size packets := hcount.received
    have htotal : (countPacket b p.header packets).total = payload.length := (hps.header p hp).2
    have hrecv : SoftBus.recvSegment {} b p = recvCounted {} (countPacket b p.header packets) := by
      rw [SoftBus.recvSegment, hinsert]
      rfl
    rw [hrecv]
    by_cases hall : ps ⊆ p :: b.packets
    · obtain rfl : packets = ps :=
        hlist.antisymm (hps.rising.sublist hcount.rising fun q hq => hperm.mem_iff.mpr (hall hq))
      refine .inl ⟨hall, ?_⟩
      obtain ⟨v, hv⟩ := Option.isSome_iff_exists.mp (joinPackets_isSome hmax (List.replicate payload.length 0) hps.tiles
        (fun q hq => ⟨hps.pos q hq, hps.sizes q hq⟩) (by rw [hps.held, Nat.zero_add]))
      obtain ⟨_, hjoin⟩ := joinPackets_some hmax hps.sizes List.length_replicate (by rw [hps.held, Nat.zero_add]) hv
      rw [hps.payload, hps.held, Nat.zero_add, List.take_zero, List.nil_append,
        List.drop_eq_nil_of_le (by rw [List.length_replicate]), List.append_nil] at hjoin
      rw [recvCounted, hreceived, htotal, hps.held, if_neg (Nat.lt_irrefl _), if_neg (Nat.lt_irrefl _), if_pos rfl]
      exact Prod.ext rfl (hv.trans (congrArg some hjoin))
    · have hlt : held ConnBlePacket.size packets < payload.length := by
        rw [← hps.held]
        refine Segments.held_lt hps.pos hlist fun heq => hall fun q hq => ?_
        exact hperm.mem_iff.mp (heq ▸ hq)
      refine .inr ⟨hall, countPacket b p.header packets, ?_, ?_, hmem⟩
      · rw [recvCounted, hreceived, htotal, if_pos hlt]
      · refine ⟨⟨hcount.rising, fun q hq => (hcount.origin q hq).2, hcount.common, hcount.received, fun q hq => ?_⟩, hsub,
          fun hnil => ?_⟩
        · rw [(hps.header q (hsub hq)).2, hreceived]
          exact hlt
        · exact absurd (show packets = [] from hnil) (List.ne_nil_of_mem ((hmem p).mpr (.inl rfl)))

theorem GattPart.recv (h : GattPart ps b) (hps : SentPackets sequence payload.length 0 payload ps) (hne : payload ≠ [])
    (hmax : payload.length ≤ maxDataLen) (hp : p ∈ ps) :
    (ps ⊆ p :: b.packets ∧ connGattTransRecv {} b p.data = ({}, some payload)) ∨
    (¬ ps ⊆ p :: b.packets ∧ ∃ b', connGattTransRecv {} b p.data = (b', none) ∧ GattPart ps b' ∧
      ∀ q, q ∈ b'.packets ↔ q = p ∨ q ∈ b.packets) := by
  rw [connGattTransRecv, hps.unpacks p hp]
  dsimp only
  by_cases hwhole : p.header.size = p.header.total
  · obtain rfl := hps.eq_singleton hp hwhole
    have hnil : b.packets = [] := List.eq_nil_iff_forall_not_mem.mpr fun q hq => by
      obtain rfl := List.mem_singleton.mp (h.part hq)
      exact h.not_all hps hp (List.cons_subset.mpr ⟨hq, List.nil_subset _⟩)
    rw [if_pos hwhole, h.empty hnil, recvWhole_eq hps hne hmax]
    exact .inl ⟨List.Subset.refl _, rfl⟩
  rw [if_neg hwhole, h.bufferFor_eq hps hp]
  by_cases hold : p ∈ b.packets
  · refine .inr ⟨fun hall => ?_, b, ?_, h, fun q => ?_⟩
    · exact h.not_all hps hp fun q hq => (List.mem_cons.mp (hall hq)).elim (fun heq => heq ▸ hold) id
    · rw [SoftBus.recvSegment, (Segments.insert_eq_none h.rising).mpr ⟨p, hold, rfl⟩]
    · exact ⟨.inr, fun hq => hq.elim (fun heq => heq ▸ hold) id⟩
  · exact h.recvSegment hps hmax hp hwhole hold

/-! ## A list of segments -/

/-- The values returned for a list of segments, from a buffer on. -/
def gattValues (b : ConnBleReadBuffer) (l : List (List UInt8)) : List (Option (List UInt8)) :=
  Run.collect (fun b data => (connGattTransRecv {} b data).1) (fun b data => [(connGattTransRecv {} b data).2]) b l

theorem gattValues_cons {b : ConnBleReadBuffer} {data : List UInt8} {b' : ConnBleReadBuffer} {v : Option (List UInt8)}
    (h : connGattTransRecv {} b data = (b', v)) (l : List (List UInt8)) :
    gattValues b (data :: l) = v :: gattValues b' l := by
  rw [gattValues, Run.collect_cons, h]
  rfl

theorem GattPart.values (hps : SentPackets sequence payload.length 0 payload ps) (hne : payload ≠ [])
    (hmax : payload.length ≤ maxDataLen) {a : ConnBlePacket} (ha : a ∈ ps) (l₂ : List (List UInt8)) :
    ∀ {l₁ : List ConnBlePacket} {b : ConnBleReadBuffer}, GattPart ps b → l₁ ⊆ ps → ¬ ps ⊆ b.packets ++ l₁ →
    ps ⊆ b.packets ++ (l₁ ++ [a]) →
    gattValues b (l₁.map ConnBlePacket.data ++ a.data :: l₂) = List.replicate l₁.length none ++ some payload :: gattValues {} l₂
  | [], b, h, _, _, hall => by
    rcases h.recv hps hne hmax ha with ⟨_, hrecv⟩ | ⟨hnot, _⟩
    · exact gattValues_cons hrecv l₂
    · refine absurd (fun q hq => ?_) hnot
      have := hall hq
      simp only [List.nil_append, List.mem_append, List.mem_singleton] at this
      exact List.mem_cons.mpr this.symm
  | p :: l₁, b, h, hl₁, hnot, hall => by
    obtain ⟨hp, hl₁⟩ := List.cons_subset.mp hl₁
    rcases h.recv hps hne hmax hp with ⟨hcover, _⟩ | ⟨_, b', hrecv, hpart, hmem⟩
    · refine absurd (fun q hq => ?_) hnot
      rcases List.mem_cons.mp (hcover hq) with rfl | hq'
      · exact List.mem_append_right _ List.mem_cons_self
      · exact List.mem_append_left _ hq'
    · have hmove : ∀ (m : List ConnBlePacket) q, q ∈ b'.packets ++ m ↔ q ∈ b.packets ++ p :: m := fun m q => by
        rw [List.mem_append, hmem, List.mem_append, List.mem_cons]
        tauto
      rw [List.map_cons, List.cons_append, gattValues_cons hrecv, List.length_cons, List.replicate_succ, List.cons_append]
      congr 1
      exact GattPart.values hps hne hmax ha l₂ hpart hl₁ (fun hsub => hnot fun q hq => (hmove l₁ q).mp (hsub hq))
        fun q hq => (hmove (l₁ ++ [a]) q).mpr (hall hq)

theorem SentPackets.values (hps : SentPackets sequence payload.length 0 payload ps) (hne : payload ≠ [])
    (hmax : payload.length ≤ maxDataLen) (rest : List (List UInt8)) :
    ∃ k, gattValues {} (ps.map ConnBlePacket.data ++ rest) = List.replicate k none ++ some payload :: gattValues {} rest := by
  rcases List.eq_nil_or_concat' ps with rfl | ⟨l₁, a, rfl⟩
  · exact absurd hps.payload.symm hne
  · have hlast : a ∉ l₁ := fun ha =>
      Nat.lt_irrefl _ ((List.pairwise_append.mp hps.rising).2.2 a ha a List.mem_cons_self)
    rw [List.map_append, List.append_assoc]
    exact ⟨l₁.length, GattPart.values hps hne hmax (by simp) rest GattPart.nil (List.subset_append_left ..)
      (fun hsub => hlast (hsub (by simp))) (List.Subset.refl _)⟩

end

theorem exists_packets {ps : List ConnBlePacket} : ∀ {l : List (List UInt8)}, l ⊆ ps.map ConnBlePacket.data →
    ∃ qs, qs ⊆ ps ∧ qs.map ConnBlePacket.data = l
  | [], _ => ⟨[], List.nil_subset ps, rfl⟩
  | d :: l, h => by
    obtain ⟨hd, hl⟩ := List.cons_subset.mp h
    obtain ⟨q, hq, rfl⟩ := List.mem_map.mp hd
    obtain ⟨qs, hqs, rfl⟩ := exists_packets hl
    exact ⟨q :: qs, List.cons_subset.mpr ⟨hq, hqs⟩, rfl⟩

/-- For every message, MTU and sequence number, and every list of the message's segments that has each of them: nothing
is returned before the first moment all have come, the message is returned at that moment, and what follows is
received as by an empty buffer. -/
theorem gatt_round_trip {connection : BleSendState} {payload : List UInt8} (hne : payload ≠ [])
    (hmax : payload.length ≤ maxDataLen) (hmtu : 19 < connection.mtu) (hmtu' : connection.mtu < 4294967296)
    (hseq : connection.sequence < 4294967296) {l : List (List UInt8)} (hl : l ⊆ (connGattTransSend connection payload).1)
    (hall : (connGattTransSend connection payload).1 ⊆ l) :
    ∃ l₁ a l₂, l = l₁ ++ a :: l₂ ∧ ¬ (connGattTransSend connection payload).1 ⊆ l₁ ∧
      (connGattTransSend connection payload).1 ⊆ l₁ ++ [a] ∧
      gattValues {} l = List.replicate l₁.length none ++ some payload :: gattValues {} l₂ := by
  have hn : 0 < maxPayload connection.mtu := by
    unfold maxPayload mtuHeaderSize bleTransHeaderSize
    omega
  have hps := sentPackets_spec hn hseq hmax 0 payload (by omega)
  rw [connGattTransSend, sendSegments_eq] at hl hall ⊢
  generalize sentPackets (maxPayload connection.mtu) connection.sequence payload.length 0 payload = ps at *
  dsimp only at *
  have hps_ne : ps ≠ [] := by
    rintro rfl
    exact hne hps.payload.symm
  obtain ⟨l₁, a, l₂, rfl, hnot, hcover⟩ := Segments.exists_first_cover (by simpa using hps_ne) hall
  obtain ⟨qs, hqs, rfl⟩ := exists_packets fun d hd => hl (List.mem_append_left _ hd)
  obtain ⟨q, hq, rfl⟩ := List.mem_map.mp (hl (List.mem_append_right _ List.mem_cons_self))
  -- a segment's bytes tell its packet
  have hinj : ∀ x ∈ ps, ∀ y ∈ ps, x.data = y.data → x = y := fun x hx y hy hxy => by
    have hheader := (hps.unpacks x hx).symm.trans ((congrArg _ hxy).trans (hps.unpacks y hy))
    cases x
    cases y
    simp_all
  refine ⟨_, _, l₂, rfl, hnot, hcover, ?_⟩
  rw [List.length_map]
  refine GattPart.values hps hne hmax hq l₂ GattPart.nil hqs (fun hsub => hnot (List.map_subset _ hsub)) fun x hx => ?_
  have hx' := hcover (List.mem_map_of_mem hx)
  rw [← List.map_singleton, ← List.map_append] at hx'
  obtain ⟨y, hy, hxy⟩ := List.mem_map.mp hx'
  have hy' : y ∈ ps := (List.mem_append.mp hy).elim (fun h => hqs h) fun h => List.mem_singleton.mp h ▸ hq
  exact hinj y hy' x hx hxy ▸ hy

/-- Three bytes in two segments, the second first and twice. -/
theorem gatt_round_trip_reversed : ∃ l₁ a l₂,
    [packTransHeader ⟨0, 1, 2, 3⟩ ++ [7], packTransHeader ⟨0, 1, 2, 3⟩ ++ [7], packTransHeader ⟨0, 2, 0, 3⟩ ++ [5, 6]] =
      l₁ ++ a :: l₂ ∧
    ¬ (connGattTransSend ⟨21, 0⟩ [5, 6, 7]).1 ⊆ l₁ ∧ (connGattTransSend ⟨21, 0⟩ [5, 6, 7]).1 ⊆ l₁ ++ [a] ∧
    gattValues {} [packTransHeader ⟨0, 1, 2, 3⟩ ++ [7], packTransHeader ⟨0, 1, 2, 3⟩ ++ [7],
      packTransHeader ⟨0, 2, 0, 3⟩ ++ [5, 6]] =
      List.replicate l₁.length none ++ some [5, 6, 7] :: gattValues {} l₂ := by
  have hsend : (connGattTransSend ⟨21, 0⟩ [5, 6, 7]).1 =
      [packTransHeader ⟨0, 2, 0, 3⟩ ++ [5, 6], packTransHeader ⟨0, 1, 2, 3⟩ ++ [7]] := by
    simp [connGattTransSend, sendSegments, maxPayload, mtuHeaderSize, bleTransHeaderSize]
  exact gatt_round_trip (by decide) (by decide) (by decide) (by decide) (by decide) (by rw [hsend]; decide +kernel)
    (by rw [hsend]; decide +kernel)

/-- With every segment sent twice the message is returned twice. -/
theorem gatt_message_twice :
    gattValues {} [packTransHeader ⟨0, 2, 0, 3⟩ ++ [5, 6], packTransHeader ⟨0, 1, 2, 3⟩ ++ [7],
      packTransHeader ⟨0, 2, 0, 3⟩ ++ [5, 6], packTransHeader ⟨0, 1, 2, 3⟩ ++ [7]] =
      [none, some [5, 6, 7], none, some [5, 6, 7]] ∧
    (connGattTransSend ⟨21, 0⟩ [5, 6, 7]).1 =
        [packTransHeader ⟨0, 2, 0, 3⟩ ++ [5, 6], packTransHeader ⟨0, 1, 2, 3⟩ ++ [7]] := by
  constructor
  · decide +kernel
  · simp [connGattTransSend, sendSegments, maxPayload, mtuHeaderSize, bleTransHeaderSize]

end SoftBus
