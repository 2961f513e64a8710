import SoftBus.GattRoundTrip

/-!
# GATT segments and the MTU

The room for data in a segment is the MTU less the two headers, in unsigned
arithmetic. With an MTU of 19 there is none, and the copy of no bytes fails;
with a smaller one the room is larger than any message, which goes out whole.
-/

namespace SoftBus

structure GattSendEnv where
  alloc : Bool := true
  status : Int := 0
deriving DecidableEq, Repr

inductive GattSendResult where
  | ok
  | mallocErr
  | memErr
  | sendErr (status : Int)
deriving DecidableEq, Repr

def gattSendLen (maxPayload : Nat) (waitSendData : List UInt8) : Nat :=
  if waitSendData.length ≤ maxPayload then waitSendData.length else maxPayload

def gattPacket (sequence dataLen offset sendLen : Nat) (waitSendData : List UInt8) : Option (List UInt8) :=
  (memcpyS (List.replicate (sendLen + bleTransHeaderSize) 0) bleTransHeaderSize sendLen (waitSendData.take sendLen)).map
    fun buff => packTransHeader ⟨sequence, sendLen, offset, dataLen⟩ ++ buff.drop bleTransHeaderSize

theorem sendLen_pos_of_gattPacket {sequence dataLen offset sendLen : Nat} {waitSendData packet : List UInt8}
    (h : gattPacket sequence dataLen offset sendLen waitSendData = some packet) : 0 < sendLen := by
  obtain ⟨buff, hcopy, -⟩ := Option.map_eq_some_iff.mp h
  exact Nat.pos_of_ne_zero (memcpyS_eq_some.mp hcopy).1.1

/-- The loop of `ConnGattTransSend` with its error paths: the packets handed to `ConnBleSend`, and what
the function returns. -/
def gattSendLoop (env : Nat → GattSendEnv) (maxPayload sequence dataLen round offset : Nat) (waitSendData : List UInt8) :
    List (List UInt8) × GattSendResult :=
  if waitSendData = [] then ([], .ok)
  else if (env round).alloc = false then ([], .mallocErr)
  else
    match _hpacket : gattPacket sequence dataLen offset (gattSendLen maxPayload waitSendData) waitSendData with
    | none => ([], .memErr)
    | some packet =>
      if (env round).status ≠ 0 then ([packet], .sendErr (env round).status)
      else
        let r := gattSendLoop env maxPayload sequence dataLen (round + 1) (offset + gattSendLen maxPayload waitSendData)
          (waitSendData.drop (gattSendLen maxPayload waitSendData))
        (packet :: r.1, r.2)
termination_by waitSendData.length
decreasing_by
  rename_i hwait _ _
  have hpos := sendLen_pos_of_gattPacket _hpacket
  have hlen := List.length_pos_of_ne_nil hwait
  rw [List.length_drop]
  omega

/-- `ConnGattTransSend` -/
def connGattTransSendEnv (env : Nat → GattSendEnv) (connection : BleSendState) (data : List UInt8) :
    List (List UInt8) × GattSendResult :=
  gattSendLoop env (maxPayload connection.mtu) connection.sequence data.length 0 0 data

/-- An error, or packets that fit the MTU and carry the data. -/
def GattSendOk (mtu : Nat) (data : List UInt8) (r : List (List UInt8) × GattSendResult) : Prop :=
  r.2 ≠ .ok ∨
    ((∀ packet ∈ r.1, (packet.length : Int) ≤ mtu - mtuHeaderSize) ∧
      (r.1.map (List.drop bleTransHeaderSize)).flatten = data ∧ r.1.length ≤ data.length)

section
variable {env : Nat → GattSendEnv} {n sequence dataLen : Nat} {data : List UInt8}

theorem gattSendLen_le (n : Nat) (data : List UInt8) : gattSendLen n data ≤ n ∧ gattSendLen n data ≤ data.length := by
  unfold gattSendLen
  split <;> omega

theorem gattPacket_eq {offset sendLen : Nat} (hpos : 0 < sendLen) (hmax : sendLen ≤ 0x7fffffff)
    (hle : sendLen ≤ data.length) : gattPacket sequence dataLen offset sendLen data =
      some (packTransHeader ⟨sequence, sendLen, offset, dataLen⟩ ++ data.take sendLen) := by
  have hlen : (data.take sendLen).length = sendLen := List.length_take_of_le hle
  unfold gattPacket
  rw [memcpyS_eq_some.mpr ⟨⟨by omega, hmax, hlen.le⟩, rfl⟩, Option.map_some, List.append_assoc,
    List.drop_left' (by simp), hlen, List.drop_replicate, Nat.add_comm, Nat.sub_self, List.replicate_zero,
    List.append_nil]

theorem gattSendLoop_ok (round offset : Nat) (wait : List UInt8) (hmax : wait.length ≤ maxDataLen)
    (hok : (gattSendLoop env n sequence dataLen round offset wait).2 = .ok) :
    (∀ packet ∈ (gattSendLoop env n sequence dataLen round offset wait).1, packet.length ≤ bleTransHeaderSize + n) ∧
      ((gattSendLoop env n sequence dataLen round offset wait).1.map (List.drop bleTransHeaderSize)).flatten = wait ∧
      (gattSendLoop env n sequence dataLen round offset wait).1.length ≤ wait.length := by
  fun_induction gattSendLoop env n sequence dataLen round offset wait with
  | case1 => exact ⟨nofun, rfl, Nat.le_refl _⟩
  | case2 => cases hok
  | case3 => cases hok
  | case4 => cases hok
  | case5 round offset wait hwait _ packet hpacket hstatus r ih =>
    obtain ⟨hle, hle'⟩ := gattSendLen_le n wait
    have hpos := sendLen_pos_of_gattPacket hpacket
    have hmax' : maxDataLen = 40000 := rfl
    rw [gattPacket_eq hpos (by omega) hle'] at hpacket
    cases hpacket
    obtain ⟨hfit, hdata, hcount⟩ := ih (by rw [List.length_drop]; omega) hok
    rw [List.length_drop] at hcount
    have hcount' : r.1.length ≤ wait.length - gattSendLen n wait := hcount
    refine ⟨?_, ?_, ?_⟩
    · intro packet hp
      rcases List.mem_cons.mp hp with rfl | hp
      · rw [List.length_append, length_packTransHeader, List.length_take]
        omega
      · exact hfit packet hp
    · rw [List.map_cons, List.flatten_cons, hdata, List.drop_left' length_packTransHeader, List.take_append_drop]
    · rw [List.length_cons]
      omega

theorem gattSendLoop_whole (hne : data ≠ []) (hmax : data.length ≤ maxDataLen) (hroom : data.length ≤ n) :
    gattSendLoop env n sequence dataLen 0 0 data =
      if (env 0).alloc = false then ([], .mallocErr)
      else if (env 0).status ≠ 0 then
        ([packTransHeader ⟨sequence, data.length, 0, dataLen⟩ ++ data], .sendErr (env 0).status)
      else ([packTransHeader ⟨sequence, data.length, 0, dataLen⟩ ++ data], .ok) := by
  have hlen : gattSendLen n data = data.length := if_pos hroom
  have hmax' : maxDataLen = 40000 := rfl
  have hpacket : gattPacket sequence dataLen 0 data.length data = some _ :=
    gattPacket_eq (List.length_pos_of_ne_nil hne) (by omega) (Nat.le_refl _)
  rw [List.take_length] at hpacket
  unfold gattSendLoop
  rw [if_neg hne]
  split
  · rfl
  · split
    · rename_i hnone
      rw [hlen, hpacket] at hnone
      cases hnone
    · rename_i packet hsome
      rw [hlen, hpacket] at hsome
      cases hsome
      split
      · rfl
      · rw [hlen, List.drop_length]
        unfold gattSendLoop
        rfl

/-- Where no round fails and there is room for data the packets are those of `sendSegments`. -/
theorem gattSendLoop_eq_sendSegments (hn : 0 < n) (henv : ∀ i, env i = {}) (round offset : Nat) (wait : List UInt8)
    (hmax : wait.length ≤ maxDataLen) : gattSendLoop env n sequence dataLen round offset wait =
      (sendSegments n sequence dataLen offset wait, .ok) := by
  fun_induction gattSendLoop env n sequence dataLen round offset wait with
  | case1 => rw [sendSegments, if_pos (.inl rfl)]
  | case2 _ _ _ _ halloc =>
    rw [henv] at halloc
    cases halloc
  | case3 round offset wait hwait _ hnone =>
    obtain ⟨hle, hle'⟩ := gattSendLen_le n wait
    have hpos := List.length_pos_of_ne_nil hwait
    have hmax' : maxDataLen = 40000 := rfl
    have hsend : 0 < gattSendLen n wait := by
      unfold gattSendLen
      split <;> omega
    rw [gattPacket_eq hsend (by omega) hle'] at hnone
    cases hnone
  | case4 _ _ _ _ _ _ _ hstatus =>
    rw [henv] at hstatus
    exact absurd rfl hstatus
  | case5 round offset wait hwait _ packet hpacket hstatus r ih =>
    obtain ⟨hle, hle'⟩ := gattSendLen_le n wait
    have hpos := sendLen_pos_of_gattPacket hpacket
    have hmax' : maxDataLen = 40000 := rfl
    rw [gattPacket_eq hpos (by omega) hle'] at hpacket
    cases hpacket
    have hlen : gattSendLen n wait = min wait.length n := by
      unfold gattSendLen
      split <;> omega
    have htake : wait.take (gattSendLen n wait) = wait.take n := by
      rw [hlen, List.take_eq_take_iff]
      omega
    have hdrop : wait.drop (gattSendLen n wait) = wait.drop n := by
      unfold gattSendLen
      split
      · rw [List.drop_length, List.drop_of_length_le]
        assumption
      · rfl
    rw [sendSegments, if_neg (by rw [not_or]; exact ⟨hwait, by omega⟩)]
    have hr : r = _ := ih (by rw [List.length_drop]; omega)
    rw [hr, htake, hdrop, hlen]

end

/-- For every MTU and every message: an error, or packets of at most `mtu - 3` bytes that carry the message, if
and only if the MTU is at least 19 or the first round fails. -/
theorem gatt_send_respects_mtu_iff (env : Nat → GattSendEnv) (mtu : BitVec 32) (sequence : Nat) (data : List UInt8)
    (hne : data ≠ []) (hmax : data.length ≤ maxDataLen) :
    GattSendOk mtu.toNat data (connGattTransSendEnv env ⟨mtu.toNat, sequence⟩ data) ↔
      19 ≤ mtu.toNat ∨ (env 0).alloc = false ∨ (env 0).status ≠ 0 := by
  have hlt := mtu.isLt
  have hmax' : maxDataLen = 40000 := rfl
  have hlen := List.length_pos_of_ne_nil hne
  unfold connGattTransSendEnv
  dsimp only
  rcases Nat.lt_or_ge mtu.toNat 19 with hsmall | hlarge
  · have hroom : data.length ≤ maxPayload mtu.toNat := by
      unfold maxPayload mtuHeaderSize bleTransHeaderSize
      omega
    rw [gattSendLoop_whole hne hmax hroom]
    split
    · rename_i halloc
      exact iff_of_true (.inl nofun) (.inr (.inl halloc))
    · rename_i halloc
      split
      · rename_i hstatus
        exact iff_of_true (.inl nofun) (.inr (.inr hstatus))
      · rename_i hstatus
        refine iff_of_false ?_ ?_
        · rintro (herr | ⟨hfit, -⟩)
          · exact herr rfl
          · have hpacket := hfit _ List.mem_cons_self
            rw [List.length_append, length_packTransHeader] at hpacket
            unfold mtuHeaderSize bleTransHeaderSize at hpacket
            omega
        · rintro (h | h | h)
          · omega
          · exact halloc h
          · exact hstatus h
  · refine iff_of_true ?_ (.inl hlarge)
    have hn : maxPayload mtu.toNat = mtu.toNat - 19 := by
      unfold maxPayload mtuHeaderSize bleTransHeaderSize
      omega
    rw [hn]
    refine or_iff_not_imp_left.mpr fun hok => ?_
    obtain ⟨hfit, hdata, hcount⟩ := gattSendLoop_ok 0 0 data hmax (not_not.mp hok)
    refine ⟨fun packet hp => ?_, hdata, hcount⟩
    have hpacket := hfit packet hp
    unfold bleTransHeaderSize at hpacket
    unfold mtuHeaderSize
    omega

/-- Five bytes in packets of at most two. -/
theorem gatt_send_respects_mtu_iff_default :
    (connGattTransSendEnv (fun _ => {}) ⟨21, 0⟩ [1, 2, 3, 4, 5]).1.length = 3 ∧
      (GattSendOk 21 [1, 2, 3, 4, 5] (connGattTransSendEnv (fun _ => {}) ⟨21, 0⟩ [1, 2, 3, 4, 5]) ↔
        19 ≤ 21 ∨ true = false ∨ (0 : Int) ≠ 0) :=
  ⟨by decide +kernel, gatt_send_respects_mtu_iff (fun _ => {}) 21 0 [1, 2, 3, 4, 5] (by decide) (by decide)⟩

/-- Before the MTU is set, one byte goes out in a packet of 17. -/
theorem gatt_send_exceeds_mtu :
    connGattTransSendEnv (fun _ => {}) ⟨0, 0⟩ [7] = ([packTransHeader ⟨0, 1, 0, 1⟩ ++ [7]], .ok) ∧
      ¬GattSendOk 0 [7] (connGattTransSendEnv (fun _ => {}) ⟨0, 0⟩ [7]) := by
  have hsend : connGattTransSendEnv (fun _ => {}) ⟨0, 0⟩ [7] = ([packTransHeader ⟨0, 1, 0, 1⟩ ++ [7]], .ok) :=
    gattSendLoop_whole (by decide) (by decide) (by decide)
  refine ⟨hsend, ?_⟩
  rw [hsend]
  rintro (herr | ⟨hfit, -⟩)
  · exact herr rfl
  · exact absurd (hfit _ List.mem_cons_self) (by decide)

/-! ## Messages one after the other -/

def gattSent : BleSendState → List (List UInt8) → List (List UInt8) :=
  Run.collect (fun c data => (connGattTransSend c data).2) fun c data => (connGattTransSendEnv (fun _ => {}) c data).1

/-- Messages that are sent one after the other without failures come out in the order sent, each once. -/
theorem gatt_messages_in_order (messages : List (List UInt8)) {connection : BleSendState} (hmtu : 19 < connection.mtu)
    (hmtu' : connection.mtu < 4294967296) (hseq : connection.sequence < 4294967296)
    (hall : ∀ message ∈ messages, message ≠ [] ∧ message.length ≤ maxDataLen) :
    (gattValues {} (gattSent connection messages)).filterMap id = messages := by
  have hn : 0 < maxPayload connection.mtu := by
    unfold maxPayload mtuHeaderSize bleTransHeaderSize
    omega
  induction messages generalizing connection with
  | nil => rfl
  | cons message messages ih =>
    obtain ⟨⟨hne, hmax⟩, hall⟩ := List.forall_mem_cons.mp hall
    obtain ⟨k, hk⟩ := (sentPackets_spec hn hseq hmax 0 message (by omega)).values hne hmax
      (gattSent (connGattTransSend connection message).2 messages)
    rw [← sendSegments_eq] at hk
    rw [gattSent, Run.collect_cons, connGattTransSendEnv, gattSendLoop_eq_sendSegments hn (fun _ => rfl) 0 0 message hmax]
    refine (congrArg _ hk).trans ?_
    rw [List.filterMap_append, List.filterMap_replicate_of_none rfl]
    exact congrArg (message :: ·) (ih hmtu hmtu' (Nat.mod_lt _ (by decide)) hall hn)

theorem gatt_messages_in_order_wrapped :
    (gattValues {} (gattSent ⟨21, 4294967295⟩ [[1, 2, 3], [4]])).filterMap id = [[1, 2, 3], [4]] :=
  gatt_messages_in_order _ (by decide) (by decide) (by decide) (by decide)

end SoftBus
