import SoftBus.ProxySliceSound

/-!
# A payload through the slices

The sender's slices, taken in order by the receiver, deliver the payload once.
The receiver may handle anything else in between: other channels, other
priorities of the same channel, timer ticks that do not expire.
-/

namespace SoftBus

open Bytes Word

/-! ## What the sender emits -/

/-- Decryption inverts encryption, which adds `overheadLen` bytes. -/
def CipherPair (encrypt decrypt : List UInt8 → Int → List UInt8 → Option (List UInt8)) : Prop :=
  ∀ key seq plain cipher, encrypt key seq plain = some cipher →
    cipher.length = plain.length + overheadLen ∧ decrypt key seq cipher = some plain

/-- The byte strings handed to `ServerIpcSendMessage`. -/
def sentData (out : List ProxyOutput) : List (List UInt8) :=
  out.filterMap fun
    | .sendMessage _ data _ => some data
    | _ => none

theorem sendSlices_ok (env : ProxyEnv) (channelId : Int) (outData : List UInt8) (outLen : Nat) (sliceNum : Int)
    (pktType : SessionPktType) : ∀ k i : Nat,
    (sendSlices env channelId outData outLen sliceNum pktType k i).1 = .ok →
    sentData (sendSlices env channelId outData outLen sliceNum pktType k i).2 =
      (List.range' i k).map (packSlice env outData outLen sliceNum pktType)
  | 0, _, _ => rfl
  | k + 1, i, h => by
    unfold sendSlices at h ⊢
    dsimp only at h ⊢
    split at h
    · cases h
    · next hsent =>
      rw [if_neg hsent, List.range'_succ, List.map_cons, ← sendSlices_ok env channelId outData outLen sliceNum pktType
        k (i + 1) h]
      rfl

def packetOf (seq : Int) (pktType : SessionPktType) (cipher : List UInt8) : List UInt8 :=
  clientPackPacketHead ⟨int32 proxyMagicNumber, seq, pktType.toInt, cipher.length⟩ ++ cipher

theorem length_clientPackPacketHead (h : PacketHead) : (clientPackPacketHead h).length = 16 := by
  simp [clientPackPacketHead]

theorem length_clientPackSliceHead (h : SliceHead) : (clientPackSliceHead h).length = 16 := by
  simp [clientPackSliceHead]

theorem packAndSend_ok (tx : ProxyEnv) (txChannel : Int) (info : ProxyChannelInfoDetail)
    (pktType : SessionPktType) {payload : List UInt8} (hlen : payload.length ≤ 4194304)
    (hok : (transProxyPackAndSendData tx txChannel payload info pktType).1 = .ok) :
    ∃ cipher, tx.encryptDataWithSeq info.sessionKey info.sequence payload = some cipher ∧
      cipher.length = payload.length + overheadLen ∧
      sentData (transProxyPackAndSendData tx txChannel payload info pktType).2 =
        (List.range ((payload.length + 4139) / 4096)).map
          (packSlice tx (packetOf info.sequence pktType cipher) (payload.length + 44)
            ((payload.length + 4139) / 4096 : Nat) pktType) := by
  unfold transProxyPackAndSendData clientTransProxyPackBytes clientTransProxyEncryptWithSeq at *
  cases henc : tx.encryptDataWithSeq info.sessionKey info.sequence payload with
  | none => rw [henc] at hok; cases hok
  | some cipher =>
    simp only [henc] at hok ⊢
    have ho : overheadLen = 28 := rfl
    by_cases hc : cipher.length ≠ (payload.length + overheadLen) % 2 ^ 32
    · rw [if_pos hc] at hok; cases hok
    · rw [if_neg hc] at hok ⊢
      have hcl : cipher.length = payload.length + overheadLen := by omega
      have h1 : (payload.length + overheadLen + packetHeadSize) % 2 ^ 32 = payload.length + 44 := by
        rw [ho, packetHeadSize]; omega
      have h2 : (payload.length + 44 + sliceLen - 1) % 2 ^ 32 / sliceLen = (payload.length + 4139) / 4096 := by
        rw [sliceLen]; omega
      have h3 : int32 ((payload.length + 4139) / 4096 : Nat) = ((payload.length + 4139) / 4096 : Nat) :=
        int32_of_bounds (by omega) (by omega)
      have h4 : int32 (int32 (payload.length + 44 : Nat) - packetHeadSize) = cipher.length := by
        have h5 : int32 (payload.length + 44 : Nat) = (payload.length + 44 : Nat) :=
          int32_of_bounds (by omega) (by omega)
        rw [packetHeadSize, h5, int32_of_bounds (by omega) (by omega)]
        omega
      simp only [h1, h2, h3, h4] at hok ⊢
      refine ⟨cipher, rfl, hcl, ?_⟩
      rw [sendSlices_ok _ _ _ _ _ _ _ _ hok, Int.toNat_natCast, List.range_eq_range']
      rfl

def sliceBody (packet : List UInt8) (i : Nat) : List UInt8 := (packet.drop (i * sliceLen)).take sliceLen

theorem take_append_sliceBody (packet : List UInt8) (i : Nat) :
    packet.take (i * sliceLen) ++ sliceBody packet i = packet.take ((i + 1) * sliceLen) := by
  rw [sliceBody, Nat.add_mul, Nat.one_mul, List.take_add]

theorem unPack_packSliceHead {h : SliceHead} (rest : List UInt8)
    (hp : -2147483648 ≤ h.priority ∧ h.priority < 2147483648)
    (hn : -2147483648 ≤ h.sliceNum ∧ h.sliceNum < 2147483648)
    (hs : -2147483648 ≤ h.sliceSeq ∧ h.sliceSeq < 2147483648) :
    (clientUnPackSliceHead (clientPackSliceHead h ++ rest)).priority = h.priority ∧
      (clientUnPackSliceHead (clientPackSliceHead h ++ rest)).sliceNum = h.sliceNum ∧
      (clientUnPackSliceHead (clientPackSliceHead h ++ rest)).sliceSeq = h.sliceSeq := by
  simp only [clientUnPackSliceHead, clientPackSliceHead, List.append_assoc]
  refine ⟨readInt32_putInt32_append hp.1 hp.2 _, ?_, ?_⟩
  · rw [drop_putInt32_append, readInt32_putInt32_append hn.1 hn.2]
  · rw [show 8 = 4 + 4 from rfl, ← List.drop_drop, drop_putInt32_append, drop_putInt32_append,
      readInt32_putInt32_append hs.1 hs.2]

theorem unPack_packPacketHead {h : PacketHead} (rest : List UInt8)
    (hm : -2147483648 ≤ h.magicNumber ∧ h.magicNumber < 2147483648)
    (hs : -2147483648 ≤ h.seq ∧ h.seq < 2147483648)
    (hf : -2147483648 ≤ h.flags ∧ h.flags < 2147483648)
    (hd : -2147483648 ≤ h.dataLen ∧ h.dataLen < 2147483648) :
    clientUnPackPacketHead (clientPackPacketHead h ++ rest) = h := by
  simp only [clientUnPackPacketHead, clientPackPacketHead, List.append_assoc]
  rw [show 12 = 4 + (4 + 4) from rfl, show 8 = 4 + 4 from rfl]
  simp only [← List.drop_drop, drop_putInt32_append]
  rw [readInt32_putInt32_append hm.1 hm.2, readInt32_putInt32_append hs.1 hs.2,
    readInt32_putInt32_append hf.1 hf.2, readInt32_putInt32_append hd.1 hd.2]

/-! ## What a complete packet delivers -/

def ProxyOutput.isNotify : ProxyOutput → Bool
  | .notifySession .. => true
  | _ => false

theorem sendSlices_notify (env : ProxyEnv) (channelId : Int) (outData : List UInt8) (outLen : Nat) (sliceNum : Int)
    (pktType : SessionPktType) : ∀ k i : Nat,
    (sendSlices env channelId outData outLen sliceNum pktType k i).2.filter (·.isNotify) = []
  | 0, _ => rfl
  | k + 1, i => by
    unfold sendSlices
    dsimp only
    split
    · rfl
    · exact sendSlices_notify env channelId outData outLen sliceNum pktType k (i + 1)

section
variable (env : ProxyEnv) (channels : ProxyChannelInfoList) (channelId seq : Int) (mem : ProxyMem) (s : ProxyState)

theorem packAndSend_notify (channelId : Int) (data : List UInt8) (info : ProxyChannelInfoDetail)
    (pktType : SessionPktType) :
    (transProxyPackAndSendData env channelId data info pktType).2.filter (·.isNotify) = [] := by
  unfold transProxyPackAndSendData
  split
  · rfl
  · exact sendSlices_notify ..

theorem sendSessionAck_notify :
    (clientTransProxySendSessionAck env channels channelId seq).2.filter (·.isNotify) = [] := by
  unfold clientTransProxySendSessionAck
  split
  · rfl
  · exact packAndSend_notify ..

theorem notifySession_notify (channelId flags seq : Int) (data : List UInt8) :
    (clientTransProxyNotifySession env channels channelId flags seq data).out.filter (·.isNotify) =
      [.notifySession channelId flags seq data] := by
  unfold clientTransProxyNotifySession
  dsimp only
  split
  · rw [List.cons_append, List.filter_cons_of_pos rfl, List.filter_append, sendSessionAck_notify]
    rfl
  all_goals rfl

/-- The receiver's limit for the payload of a packet type. -/
def recvLimit (system : System) (pktType : SessionPktType) : Nat :=
  match sessionPktTypeToProxyIndex pktType with
  | .message => system.maxMessageNewLen
  | _ => system.maxBytesNewLen

theorem recvLimit_le (system : System) (pktType : SessionPktType) : recvLimit system pktType ≤ 4194304 := by
  have := system.maxBytesNewLen_le
  have := system.maxMessageNewLen_le
  unfold recvLimit
  split <;> omega

theorem sliceBufLen_eq (system : System) (pktType : SessionPktType) :
    sliceBufLen system (sessionPktTypeToProxyIndex pktType).toInt = recvLimit system pktType + 44 := by
  unfold sliceBufLen recvLimit packetHeadSize overheadLen
  cases sessionPktTypeToProxyIndex pktType <;> simp [ProxyPriority.toInt]

theorem sessionDataLenCheck_ok {system : System} {pktType : SessionPktType} {n : Nat}
    (h : n ≤ recvLimit system pktType) :
    clientTransProxySessionDataLenCheck system n pktType.toInt = .ok := by
  unfold clientTransProxySessionDataLenCheck
  rw [SessionPktType.ofInt_toInt]
  cases pktType <;> simp only [recvLimit, sessionPktTypeToProxyIndex] at h <;> simp [h]

/-- The channel is open, encrypted and has this key. -/
def OpenWith (channels : ProxyChannelInfoList) (channelId : Int) (key : List UInt8) : Prop :=
  ∃ detail, channels channelId = some detail ∧ detail.isEncrypted = true ∧ detail.sessionKey = key

theorem decryptPacketData_open {env : ProxyEnv} {channels : ProxyChannelInfoList} {channelId : Int}
    {key : List UInt8} (h : OpenWith channels channelId key) (seq : Int) (inData : List UInt8) :
    (clientTransProxyDecryptPacketData env channels channelId seq inData).1 =
      env.decryptDataWithSeq key seq inData := by
  obtain ⟨detail, hd, _, rfl⟩ := h
  simp [clientTransProxyDecryptPacketData, clientTransProxyGetInfoByChannelId, hd]

theorem noSubPacketProc_packet {env : ProxyEnv} {channels : ProxyChannelInfoList} {channelId : Int}
    {key : List UInt8} (hopen : OpenWith channels channelId key) {mem : ProxyMem} (hmem : mem.session = true)
    {seq : Int} (hseq : -2147483648 ≤ seq ∧ seq < 2147483648) {pktType : SessionPktType}
    {payload cipher : List UInt8} (hne : payload ≠ []) (hlim : payload.length ≤ recvLimit env.system pktType)
    (hlen : cipher.length = payload.length + overheadLen)
    (hdec : env.decryptDataWithSeq key seq cipher = some payload) :
    (clientTransProxyNoSubPacketProc env channels mem channelId (packetOf seq pktType cipher)).out.filter
      (·.isNotify) = [.notifySession channelId pktType.toInt seq payload] := by
  have hle := recvLimit_le env.system pktType
  have hpos := List.length_pos_iff.mpr hne
  have hfl := pktType.toInt_bounds
  have ho : overheadLen = 28 := rfl
  have hhead : clientUnPackPacketHead (packetOf seq pktType cipher) =
      ⟨int32 proxyMagicNumber, seq, pktType.toInt, cipher.length⟩ :=
    unPack_packPacketHead cipher (by simp only [int32]; omega) hseq (by simp only; omega) (by simp only; omega)
  have hdrop : (packetOf seq pktType cipher).drop packetHeadSize = cipher :=
    List.drop_left' (length_clientPackPacketHead _)
  have hplen : (packetOf seq pktType cipher).length = 16 + cipher.length := by
    rw [packetOf, List.length_append, length_clientPackPacketHead]
  unfold clientTransProxyNoSubPacketProc
  simp only [hhead, hdrop, hplen]
  rw [if_neg (by simp), if_neg (by omega), if_neg (by simp only [packetHeadSize]; omega)]
  have hproc : (clientTransProxyProcessSessionData env channels mem channelId
      ⟨int32 proxyMagicNumber, seq, pktType.toInt, cipher.length⟩ cipher).out.filter (·.isNotify) =
      [.notifySession channelId pktType.toInt seq payload] := by
    unfold clientTransProxyProcessSessionData
    dsimp only
    rw [if_neg (by omega), if_neg (by simp [hmem]), Int.toNat_natCast, List.take_length]
    have hd : (clientTransProxyDecryptPacketData env channels channelId seq cipher).1 = some payload :=
      (decryptPacketData_open hopen seq cipher).trans hdec
    split
    · next heq => rw [heq] at hd; cases hd
    · next outData _ heq =>
      rw [heq] at hd
      obtain rfl : outData = payload := Option.some.inj hd
      rw [if_neg (not_not.mpr (sessionDataLenCheck_ok hlim))]
      split <;> exact notifySession_notify ..
  split <;> exact hproc

/-! ## What handling leaves alone -/

structure SameKeys (channels channels' : ProxyChannelInfoList) : Prop where
  keep : ∀ channelId key, OpenWith channels channelId key → OpenWith channels' channelId key

theorem SameKeys.refl : SameKeys channels channels := ⟨fun _ _ h => h⟩

theorem SameKeys.trans {a b c : ProxyChannelInfoList} (h₁ : SameKeys a b) (h₂ : SameKeys b c) : SameKeys a c :=
  ⟨fun channelId key h => h₂.keep channelId key (h₁.keep channelId key h)⟩

theorem sameKeys_getInfo (channelId : Int) :
    SameKeys channels (clientTransProxyGetInfoByChannelId channels channelId).2 := by
  refine ⟨?_⟩
  rintro c key ⟨detail, hd, henc, hkey⟩
  unfold clientTransProxyGetInfoByChannelId
  split
  · next detail' hd' =>
    by_cases hc : c = channelId
    · subst hc
      rw [hd] at hd'
      cases hd'
      exact ⟨_, Function.update_self .., henc, hkey⟩
    · exact ⟨detail, (Function.update_of_ne hc ..).trans hd, henc, hkey⟩
  · exact ⟨detail, hd, henc, hkey⟩

theorem sameKeys_decrypt (inData : List UInt8) :
    SameKeys channels (clientTransProxyDecryptPacketData env channels channelId seq inData).2 := by
  have h := sameKeys_getInfo channels channelId
  unfold clientTransProxyDecryptPacketData
  split <;> · next heq => rw [heq] at h; exact h

theorem sameKeys_sendSessionAck : SameKeys channels (clientTransProxySendSessionAck env channels channelId seq).1 := by
  have h := sameKeys_getInfo channels channelId
  unfold clientTransProxySendSessionAck
  split <;> · next heq => rw [heq] at h; exact h

theorem sameKeys_notifySession (channelId flags seq : Int) (data : List UInt8) :
    SameKeys channels (clientTransProxyNotifySession env channels channelId flags seq data).channels := by
  unfold clientTransProxyNotifySession
  dsimp only
  split
  · exact sameKeys_sendSessionAck ..
  all_goals exact SameKeys.refl _

theorem sameKeys_processSessionData (channelId : Int) (head : PacketHead) (data : List UInt8) :
    SameKeys channels (clientTransProxyProcessSessionData env channels mem channelId head data).channels := by
  unfold clientTransProxyProcessSessionData
  split
  · exact SameKeys.refl _
  split
  · exact SameKeys.refl _
  have hd := sameKeys_decrypt env channels channelId head.seq (data.take head.dataLen.toNat)
  split
  · next heq => rw [heq] at hd; exact hd
  · next heq =>
    rw [heq] at hd
    split
    · exact hd
    · dsimp only
      split <;> exact hd.trans (sameKeys_notifySession ..)

theorem sameKeys_noSubPacketProc (channelId : Int) (data : List UInt8) :
    SameKeys channels (clientTransProxyNoSubPacketProc env channels mem channelId data).channels := by
  unfold clientTransProxyNoSubPacketProc
  dsimp only
  split_ifs
  all_goals first
    | exact SameKeys.refl _
    | exact sameKeys_processSessionData ..

theorem sameKeys_lastSlice (p : SliceProcessor) (head : SliceHead) (data : List UInt8) (channelId : Int) :
    SameKeys channels (clientTransProxyLastSliceProcess env channels mem p head data channelId).2.1 := by
  unfold clientTransProxyLastSliceProcess
  split
  · dsimp only
    split <;> exact sameKeys_noSubPacketProc ..
  · exact SameKeys.refl _

theorem sameKeys_subPacketProc (mem : ProxyMem) (channelId : Int) (head : SliceHead) (data : List UInt8) :
    SameKeys s.channelInfoList
      (clientTransProxySubPacketProc env s mem channelId head data).state.channelInfoList := by
  unfold clientTransProxySubPacketProc
  split
  · dsimp only [ProxyState.putProcessor]
    split
    · exact SameKeys.refl _
    · split
      · exact sameKeys_lastSlice ..
      · exact SameKeys.refl _
  · exact SameKeys.refl _

theorem sameKeys_sliceProc (mem : ProxyMem) (channelId : Int) (data : List UInt8) :
    SameKeys s.channelInfoList (clientTransProxySliceProc env s mem channelId data).state.channelInfoList := by
  unfold clientTransProxySliceProc
  dsimp only
  split_ifs
  · exact SameKeys.refl _
  · exact SameKeys.refl _
  · exact sameKeys_noSubPacketProc ..
  · exact sameKeys_subPacketProc ..

theorem sameKeys_next (e : ProxyEvent) : SameKeys s.channelInfoList (s.next env e).channelInfoList := by
  cases e with
  | onDataReceived channelId data mem =>
    have hg := sameKeys_getInfo s.channelInfoList channelId
    simp only [ProxyState.next, ProxyState.handle, clientTransProxyOnDataReceived]
    split
    · next heq => rw [heq] at hg; exact hg
    · next info channels heq =>
      rw [heq] at hg
      split
      · exact hg
      · exact hg.trans (sameKeys_sliceProc env { s with channelInfoList := channels } mem channelId data)
  | sliceProc channelId data mem => exact sameKeys_sliceProc env s mem channelId data
  | sliceTimer => exact SameKeys.refl _
  | delSliceProcessor channelId =>
    simp only [ProxyState.next, ProxyState.handle, transProxyDelSliceProcessorByChannelId]
    split <;> exact SameKeys.refl _

end

/-- The event brings a packet for this channel and priority. -/
def ProxyEvent.targets (channelId : Int) (index : ProxyPriority) : ProxyEvent → Bool
  | .onDataReceived c data _ | .sliceProc c data _ =>
    decide (c = channelId) && decide (sliceHeadSize < data.length) &&
      decide (ProxyPriority.ofInt (clientUnPackSliceHead data).priority = some index)
  | _ => false

/-- The event is a timer tick at which the processor times out. -/
def ProxyState.Expires (s : ProxyState) (channelId : Int) (index : ProxyPriority) (e : ProxyEvent) : Prop :=
  e = .sliceTimer ∧ (s.processor channelId index).active = true ∧
    slicePacketTimeout ≤ (s.processor channelId index).timeout + 1

instance (s : ProxyState) (channelId : Int) (index : ProxyPriority) (e : ProxyEvent) :
    Decidable (s.Expires channelId index e) :=
  inferInstanceAs (Decidable (_ ∧ _ ∧ _))

theorem sliceProc_processor_of_not_targets {env : ProxyEnv} {s : ProxyState} {mem : ProxyMem} {c channelId : Int}
    {index : ProxyPriority} {data : List UInt8}
    (h : ¬ (c = channelId ∧ sliceHeadSize < data.length ∧
      ProxyPriority.ofInt (clientUnPackSliceHead data).priority = some index)) :
    (clientTransProxySliceProc env s mem c data).state.processor channelId index = s.processor channelId index := by
  unfold clientTransProxySliceProc
  dsimp only
  split_ifs with hlen
  · rfl
  · rfl
  · rfl
  · unfold clientTransProxySubPacketProc
    split
    · next node i hget hindex =>
      refine (putProcessor_of_ne _ _ _ _ _ (getNode_processor hget) ?_).1
      rintro ⟨rfl, rfl⟩
      exact h ⟨rfl, by omega, hindex⟩
    · rfl

theorem processor_of_not_targets {env : ProxyEnv} {s : ProxyState} {channelId : Int} {index : ProxyPriority}
    {e : ProxyEvent} (ht : e.targets channelId index = false) (hdel : e ≠ .delSliceProcessor channelId)
    (hexp : ¬ s.Expires channelId index e) :
    ∃ t, (s.next env e).processor channelId index = { s.processor channelId index with timeout := t } := by
  cases e with
  | onDataReceived c data mem =>
    refine ⟨(s.processor channelId index).timeout, ?_⟩
    simp only [ProxyEvent.targets, ← Bool.decide_and, decide_eq_false_iff_not] at ht
    simp only [ProxyState.next, ProxyState.handle, clientTransProxyOnDataReceived]
    split
    · rfl
    · split
      · rfl
      · exact sliceProc_processor_of_not_targets (by tauto)
  | sliceProc c data mem =>
    simp only [ProxyEvent.targets, ← Bool.decide_and, decide_eq_false_iff_not] at ht
    exact ⟨_, sliceProc_processor_of_not_targets (by tauto)⟩
  | sliceTimer =>
    simp only [ProxyState.Expires, true_and] at hexp
    simp only [ProxyState.next, ProxyState.handle]
    rw [sliceTimer_processor]
    unfold SliceProcessor.tick
    split
    · next hact =>
      rw [if_neg fun h => hexp ⟨hact, h⟩]
      exact ⟨_, rfl⟩
    · exact ⟨_, rfl⟩
  | delSliceProcessor c =>
    have hc : channelId ≠ c := fun h => hdel (by rw [h])
    refine ⟨(s.processor channelId index).timeout, ?_⟩
    simp only [ProxyState.next, ProxyState.handle, transProxyDelSliceProcessorByChannelId]
    split
    · simp [ProxyState.processor, hc]
    · rfl

/-! ## The slices of one packet -/

def ProxyMem.ok : ProxyMem := ⟨true, true, true⟩

def Collected (system : System) (index : ProxyPriority) (packet : List UInt8) (n i : Nat) (p : SliceProcessor) :
    Prop :=
  ∃ bodies, Assembling p bodies ∧ bodies.length = i ∧ bodies.flatten = packet.take (i * sliceLen) ∧
    p.sliceNumber = n ∧ p.bufLen = sliceBufLen system index.toInt

structure HeadFor (index : ProxyPriority) (n i : Nat) (head : SliceHead) : Prop where
  priority : head.priority = index.toInt
  sliceNum : head.sliceNum = n
  sliceSeq : head.sliceSeq = i

theorem ProxyPriority.ofInt_toInt (index : ProxyPriority) : ofInt index.toInt = some index := by
  cases index <;> decide

section
variable {system : System} {index : ProxyPriority} {packet : List UInt8} {n : Nat}
  (hn : n = (packet.length + 4095) / 4096) (hlim : packet.length ≤ sliceBufLen system index.toInt)
include hn

theorem sliceBody_length {i : Nat} (hi : i < n) :
    0 < (sliceBody packet i).length ∧ i * sliceLen + (sliceBody packet i).length ≤ packet.length := by
  simp only [sliceBody, List.length_take, List.length_drop, sliceLen]
  omega

include hlim

theorem sliceNum_lt : n < 2147483648 := by
  have := sliceBufLen_bounds system index.toInt
  omega

theorem collected_append {p : SliceProcessor} {i : Nat} (hp : Collected system index packet n i p) (hi : i < n)
    {head : SliceHead} (hh : HeadFor index n i head) :
    appendSlice p head (sliceBody packet i) = (.ok, p.push (sliceBody packet i)) ∧
      (p.push (sliceBody packet i)).data = some (packet.take ((i + 1) * sliceLen)) ∧
      (p.push (sliceBody packet i)).dataLen = (packet.take ((i + 1) * sliceLen)).length ∧
      (i + 1 < n → Collected system index packet n (i + 1) (p.push (sliceBody packet i))) := by
  obtain ⟨bodies, ha, hlen, hflat, hnum, hbuf⟩ := hp
  have hbody := sliceBody_length hn hi
  have hd := ha.dataLen
  have hs := ha.expectedSeq
  have hcat := take_append_sliceBody packet i
  have htake : (packet.take (i * sliceLen)).length = i * sliceLen := by
    rw [List.length_take]; omega
  have hfits : p.dataLen + (sliceBody packet i).length ≤ p.bufLen := by
    rw [hd, hflat, htake, hbuf]; omega
  have hdata : (p.push (sliceBody packet i)).data = some (packet.take ((i + 1) * sliceLen)) := by
    simp only [SliceProcessor.push, ha.data, Option.getD_some, hflat, hcat]
  have hdlen : (p.push (sliceBody packet i)).dataLen = (packet.take ((i + 1) * sliceLen)).length := by
    rw [← hcat, List.length_append, htake]
    simp only [SliceProcessor.push]
    rw [hd, hflat, htake]; omega
  refine ⟨?_, hdata, hdlen, fun hnext => ⟨bodies ++ [sliceBody packet i], ?_, by simp [hlen], ?_, hnum, hbuf⟩⟩
  · rcases appendSlice_cases ha head (sliceBody packet i) with ⟨_, _, _, h⟩ | ⟨h, _⟩
    · exact h
    · exact absurd ⟨by rw [hh.sliceNum, hnum], by rw [hh.sliceSeq, hs, hlen], List.length_pos_iff.mp hbody.1, hfits⟩ h
  · exact push_assembling ha hfits (by omega)
  · rw [List.flatten_append, hflat, List.flatten_singleton, hcat]

theorem collected_first (env : ProxyEnv) (hsys : env.system = system) (hn1 : 1 < n) {head : SliceHead}
    (hh : HeadFor index n 0 head) :
    (clientTransProxyFirstSliceProcess env .ok head (sliceBody packet 0)).ret = .ok ∧
      Collected system index packet n 1
        (clientTransProxyFirstSliceProcess env .ok head (sliceBody packet 0)).processor := by
  have hbody := sliceBody_length hn (i := 0) (by omega)
  have hlt := sliceNum_lt hn hlim
  have hle : (sliceBody packet 0).length ≤ sliceBufLen env.system head.priority := by
    rw [hsys, hh.priority]; omega
  rcases firstSlice_cases env .ok head (sliceBody packet 0) with ⟨_, _, heq⟩ | ⟨h, _⟩
  · rw [heq]
    refine ⟨rfl, [sliceBody packet 0], firstProcessor_assembling hle ?_ ?_, rfl, ?_, hh.sliceNum, ?_⟩
    · rw [hh.sliceNum]; omega
    · rw [hh.sliceNum]; omega
    · have := take_append_sliceBody packet 0
      simpa using this
    · simp only [firstProcessor]
      rw [hh.priority, hsys]
  · exact absurd ⟨rfl, hle⟩ h

end

theorem getNode_some {s : ProxyState} {mem : ProxyMem} (hmem : mem.node = true) (channelId : Int) :
    ∃ node, clientTransProxyGetChannelSliceProcessor s mem channelId = some node := by
  unfold clientTransProxyGetChannelSliceProcessor
  split
  · exact ⟨_, rfl⟩
  · exact ⟨_, if_pos hmem⟩

structure SliceFor (index : ProxyPriority) (packet : List UInt8) (n i : Nat) (data : List UInt8) : Prop where
  long : sliceHeadSize < data.length
  head : HeadFor index n i (clientUnPackSliceHead data)
  body : data.drop sliceHeadSize = sliceBody packet i

structure SliceEffect (system : System) (index : ProxyPriority) (packet : List UInt8) (n i : Nat)
    (delivery : ProxyOutput) (channelId : Int) (r : ProxyResult) : Prop where
  collected : i + 1 < n → Collected system index packet n (i + 1) (r.state.processor channelId index)
  out : r.out.filter (·.isNotify) = if i + 1 < n then [] else [delivery]

section
variable {env : ProxyEnv} {channelId : Int} {key : List UInt8} {index : ProxyPriority} {packet : List UInt8}
  {n : Nat} {delivery : ProxyOutput}
  (hn : n = (packet.length + 4095) / 4096) (hlim : packet.length ≤ sliceBufLen env.system index.toInt)
  (hdeliver : ∀ channels, OpenWith channels channelId key →
    (clientTransProxyNoSubPacketProc env channels .ok channelId packet).out.filter (·.isNotify) = [delivery])
include hn hlim hdeliver

theorem lastSlice_delivers {channels : ProxyChannelInfoList} (hopen : OpenWith channels channelId key)
    {p : SliceProcessor} {i : Nat} (hp : Collected env.system index packet n i p) (hi : i + 1 = n)
    {head : SliceHead} (hh : HeadFor index n i head) :
    (clientTransProxyLastSliceProcess env channels .ok p head (sliceBody packet i) channelId).2.2.filter
      (·.isNotify) = [delivery] := by
  obtain ⟨happ, hdata, hdlen, _⟩ := collected_append hn hlim hp (by omega) hh
  have hwhole : packet.take ((i + 1) * sliceLen) = packet :=
    List.take_of_length_le (by simp only [sliceLen]; omega)
  rw [hwhole] at hdata hdlen
  unfold clientTransProxyLastSliceProcess
  simp only [happ, hdata, hdlen, Option.getD_some, Int.toNat_natCast, List.take_length]
  split <;> exact hdeliver channels hopen

theorem subPacketProc_slice {s : ProxyState} (hopen : OpenWith s.channelInfoList channelId key) (hn1 : 1 < n)
    {i : Nat} (hi : i < n) {head : SliceHead} (hh : HeadFor index n i head)
    (hprev : 0 < i → Collected env.system index packet n i (s.processor channelId index)) :
    SliceEffect env.system index packet n i delivery channelId
      (clientTransProxySubPacketProc env s .ok channelId head (sliceBody packet i)) := by
  obtain ⟨node, hget⟩ : ∃ node, clientTransProxyGetChannelSliceProcessor s .ok channelId = some node :=
    getNode_some rfl channelId
  have hnode := getNode_processor hget index
  have hindex : ProxyPriority.ofInt head.priority = some index := by rw [hh.priority, ProxyPriority.ofInt_toInt]
  have hsq := hh.sliceSeq
  have hnum := hh.sliceNum
  unfold clientTransProxySubPacketProc
  simp only [hget, hindex]
  rcases Nat.eq_zero_or_pos i with rfl | hpos
  · obtain ⟨hret, hcol⟩ := collected_first hn hlim env rfl hn1 hh
    rw [if_pos (by omega)]
    refine ⟨fun _ => ?_, ?_⟩
    · simp only [putProcessor_self, SliceResult.settle, hret]
      exact hcol
    · rw [if_pos (by omega)]; rfl
  · have hp := hprev hpos
    rw [← hnode] at hp
    rw [if_neg (by omega)]
    by_cases hlast : i + 1 = n
    · rw [if_pos (by omega)]
      refine ⟨fun h => by omega, ?_⟩
      rw [if_neg (by omega)]
      exact lastSlice_delivers hn hlim hdeliver hopen hp hlast hh
    · rw [if_neg (by omega)]
      obtain ⟨happ, _, _, hcol⟩ := collected_append hn hlim hp hi hh
      refine ⟨fun h => ?_, ?_⟩
      · simp only [putProcessor_self, SliceResult.settle, clientTransProxyNormalSliceProcess, happ]
        obtain ⟨bodies, ha, h₁, h₂, h₃, h₄⟩ := hcol h
        exact ⟨bodies, ha.withTimeout 0, h₁, h₂, h₃, h₄⟩
      · rw [if_pos (by omega)]; rfl

theorem sliceProc_slice {s : ProxyState} (hopen : OpenWith s.channelInfoList channelId key) {i : Nat} (hi : i < n)
    {data : List UInt8} (hdata : SliceFor index packet n i data)
    (hprev : 0 < i → Collected env.system index packet n i (s.processor channelId index)) :
    SliceEffect env.system index packet n i delivery channelId
      (clientTransProxySliceProc env s .ok channelId data) := by
  have hnum := hdata.head.sliceNum
  have hsq := hdata.head.sliceSeq
  have hchk : clientTransProxyCheckSliceHead (clientUnPackSliceHead data) = .ok := by
    unfold clientTransProxyCheckSliceHead
    rw [hdata.head.priority, if_neg (by cases index <;> decide), if_neg (by omega)]
  unfold clientTransProxySliceProc
  rw [if_neg (by have := hdata.long; omega)]
  dsimp only
  rw [if_neg (not_not.mpr hchk), hdata.body]
  by_cases hn1 : n = 1
  · have hbody : sliceBody packet i = packet := by
      have hi0 : i = 0 := by omega
      subst hi0
      rw [sliceBody, Nat.zero_mul, List.drop_zero, List.take_of_length_le (by simp only [sliceLen]; omega)]
    rw [if_pos (by omega), hbody]
    refine ⟨fun h => by omega, ?_⟩
    rw [if_neg (by omega)]
    exact hdeliver _ hopen
  · rw [if_neg (by omega)]
    exact subPacketProc_slice hn hlim hdeliver hopen (by omega) hi hdata.head hprev

theorem onDataReceived_slice {s : ProxyState} (hopen : OpenWith s.channelInfoList channelId key) {i : Nat}
    (hi : i < n) {data : List UInt8} (hdata : SliceFor index packet n i data)
    (hprev : 0 < i → Collected env.system index packet n i (s.processor channelId index)) :
    SliceEffect env.system index packet n i delivery channelId
      (clientTransProxyOnDataReceived env s .ok channelId data) := by
  have hkeep := (sameKeys_getInfo s.channelInfoList channelId).keep channelId key hopen
  obtain ⟨detail, hd, henc, _⟩ := hopen
  unfold clientTransProxyOnDataReceived
  split
  · next heq => simp [clientTransProxyGetInfoByChannelId, hd] at heq
  · next info channels heq =>
    rw [heq] at hkeep
    have hinfo : info = detail := by
      simp only [clientTransProxyGetInfoByChannelId, hd, Prod.mk.injEq, Option.some.injEq] at heq
      exact heq.1.symm
    rw [if_neg (by simp [hinfo, henc])]
    exact sliceProc_slice hn hlim hdeliver (s := { s with channelInfoList := channels }) hkeep hi hdata hprev

end

/-- What the packets of one channel and priority deliver in a run. -/
def deliveredFor (env : ProxyEnv) (channelId : Int) (index : ProxyPriority) :
    ProxyState → List ProxyEvent → List ProxyOutput :=
  Run.collect (ProxyState.next env) fun s e =>
    if e.targets channelId index then (s.handle env e).2.filter (·.isNotify) else []

section
variable {env : ProxyEnv} {channelId : Int} {key : List UInt8} {index : ProxyPriority} {packet : List UInt8}
  {n : Nat} {delivery : ProxyOutput} {slice : Nat → List UInt8}
  (hn : n = (packet.length + 4095) / 4096) (hlim : packet.length ≤ sliceBufLen env.system index.toInt)
  (hdeliver : ∀ channels, OpenWith channels channelId key →
    (clientTransProxyNoSubPacketProc env channels .ok channelId packet).out.filter (·.isNotify) = [delivery])
  (hslice : ∀ i < n, SliceFor index packet n i (slice i))
include hn hlim hdeliver hslice

/-- The run from the arrival of slice `i` on: the induction is on the events,
and only those that bring a slice of the packet move `i`. -/
theorem deliveredFor_slices : ∀ (l : List ProxyEvent) (s : ProxyState) (i : Nat),
    OpenWith s.channelInfoList channelId key →
    (0 < i → i < n → Collected env.system index packet n i (s.processor channelId index)) →
    l.filter (·.targets channelId index) =
      (List.range' i (n - i)).map (fun j => .onDataReceived channelId (slice j) .ok) →
    .delSliceProcessor channelId ∉ l →
    Run.Always (ProxyState.next env) (fun s e => ¬ s.Expires channelId index e) s l →
    deliveredFor env channelId index s l = if i < n then [delivery] else []
  | [], s, i, _, _, hfilter, _, _ => by
    have hlen := congrArg List.length hfilter
    simp only [List.filter_nil, List.length_nil, List.length_map, List.length_range'] at hlen
    rw [if_neg (by omega)]
    rfl
  | e :: l, s, i, hopen, hcol, hfilter, hdel, htimer => by
    have hopen' := (sameKeys_next env s e).keep channelId key hopen
    rw [List.mem_cons, not_or] at hdel
    have hcons : deliveredFor env channelId index s (e :: l) =
        (if e.targets channelId index then (s.handle env e).2.filter (·.isNotify) else []) ++
          deliveredFor env channelId index (s.next env e) l := rfl
    rw [hcons]
    by_cases ht : e.targets channelId index = true
    · rw [List.filter_cons_of_pos ht] at hfilter
      obtain ⟨k, hk⟩ : ∃ k, n - i = k + 1 := by
        cases h : n - i with
        | zero => rw [h] at hfilter; cases hfilter
        | succ k => exact ⟨k, rfl⟩
      rw [hk, List.range'_succ, List.map_cons] at hfilter
      obtain ⟨rfl, hrest⟩ := List.cons.inj hfilter
      have heff := onDataReceived_slice hn hlim hdeliver hopen (i := i) (by omega) (hslice i (by omega))
        fun h => hcol h (by omega)
      have ih := deliveredFor_slices l _ (i + 1) hopen' (fun _ h => heff.collected h)
        (by rw [hrest, show n - (i + 1) = k by omega]) hdel.2 htimer.2
      rw [if_pos ht, ih]
      refine (congrArg (· ++ _) heff.out).trans ?_
      by_cases hnext : i + 1 < n
      · rw [if_pos hnext, if_pos hnext, if_pos (by omega)]; rfl
      · rw [if_neg hnext, if_neg hnext, if_pos (by omega)]; rfl
    · rw [Bool.not_eq_true] at ht
      rw [List.filter_cons_of_neg (by simp [ht])] at hfilter
      obtain ⟨t, hproc⟩ := processor_of_not_targets ht (Ne.symm hdel.1) htimer.1
      rw [if_neg (by simp [ht])]
      refine deliveredFor_slices l _ i hopen' (fun h₁ h₂ => ?_) hfilter hdel.2 htimer.2
      obtain ⟨bodies, ha, h₃, h₄, h₅, h₆⟩ := hcol h₁ h₂
      rw [hproc]
      exact ⟨bodies, ha.withTimeout t, h₃, h₄, h₅, h₆⟩

end

theorem packSlice_sliceFor (tx : ProxyEnv) {packet : List UInt8} (pktType : SessionPktType) {n i : Nat}
    (hn : n = (packet.length + 4095) / 4096) (hlt : n < 2147483648) (hi : i < n) :
    SliceFor (sessionPktTypeToProxyIndex pktType) packet n i
      (packSlice tx packet packet.length n pktType i) := by
  have hbody : packSlice tx packet packet.length n pktType i =
      clientPackSliceHead ⟨(sessionPktTypeToProxyIndex pktType).toInt, n, i, tx.sliceReserved i⟩ ++
        sliceBody packet i := by
    unfold packSlice sliceBody
    dsimp only
    split
    · rw [List.take_of_length_le (by simp), List.take_of_length_le (by simp [sliceLen]; omega)]
    · rfl
  rw [hbody]
  have hidx : 0 ≤ (sessionPktTypeToProxyIndex pktType).toInt ∧ (sessionPktTypeToProxyIndex pktType).toInt < 3 := by
    cases sessionPktTypeToProxyIndex pktType <;> decide
  obtain ⟨h₁, h₂, h₃⟩ := unPack_packSliceHead (sliceBody packet i)
    (h := ⟨(sessionPktTypeToProxyIndex pktType).toInt, n, i, tx.sliceReserved i⟩)
    (by simp only; omega) (by simp only; omega) (by simp only; omega)
  refine ⟨?_, ⟨h₁, h₂, h₃⟩, List.drop_left' (length_clientPackSliceHead _)⟩
  have := (sliceBody_length hn hi).1
  rw [List.length_append, length_clientPackSliceHead, sliceHeadSize]
  omega

/-- A payload within the receiver's limit, sent in slices over an encrypted
channel, is delivered exactly once, with its sequence number and type. The
receiver may start in any state and handle any other events in between. -/
theorem slice_round_trip {tx rx : ProxyEnv} (hcipher : CipherPair tx.encryptDataWithSeq rx.decryptDataWithSeq)
    {txChannel : Int} {info : ProxyChannelInfoDetail}
    (hseq : -2 ^ 31 ≤ info.sequence ∧ info.sequence < 2 ^ 31)
    {payload : List UInt8} {pktType : SessionPktType} (hne : payload ≠ [])
    (hlim : payload.length ≤ recvLimit rx.system pktType)
    (hsend : (transProxyPackAndSendData tx txChannel payload info pktType).1 = .ok)
    {s : ProxyState} {channelId : Int} (hopen : OpenWith s.channelInfoList channelId info.sessionKey)
    {l : List ProxyEvent}
    (hslices : l.filter (·.targets channelId (sessionPktTypeToProxyIndex pktType)) =
      (sentData (transProxyPackAndSendData tx txChannel payload info pktType).2).map
        (fun data => .onDataReceived channelId data .ok))
    (hdel : .delSliceProcessor channelId ∉ l)
    (htimer : Run.Always (ProxyState.next rx)
      (fun s e => ¬ s.Expires channelId (sessionPktTypeToProxyIndex pktType) e) s l) :
    deliveredFor rx channelId (sessionPktTypeToProxyIndex pktType) s l =
      [.notifySession channelId pktType.toInt info.sequence payload] := by
  have hle := recvLimit_le rx.system pktType
  obtain ⟨cipher, henc, hlen, hsent⟩ := packAndSend_ok tx txChannel info pktType (by omega : payload.length ≤ 4194304)
    hsend
  obtain ⟨_, hdec⟩ := hcipher _ _ _ _ henc
  have ho : overheadLen = 28 := rfl
  have hpl : (packetOf info.sequence pktType cipher).length = payload.length + 44 := by
    rw [packetOf, List.length_append, length_clientPackPacketHead]
    omega
  rw [← hpl] at hsent
  rw [hsent, List.map_map, List.range_eq_range'] at hslices
  have hbuf := sliceBufLen_eq rx.system pktType
  have hpos : 0 < (payload.length + 4139) / 4096 := by
    have := List.length_pos_iff.mpr hne
    omega
  have := deliveredFor_slices (n := (payload.length + 4139) / 4096) (by rw [hpl]) (by rw [hpl, hbuf]; omega)
    (fun channels h => noSubPacketProc_packet h rfl (by omega) hne hlim hlen hdec)
    (fun i hi => packSlice_sliceFor tx pktType (by rw [hpl]) (by omega) hi) l s 0 hopen
    (fun h => absurd h (lt_irrefl 0)) hslices hdel htimer
  rw [this, if_pos hpos]

set_option maxRecDepth 100000 in
/-- A payload of two slices. Between them come a slice of a file frame on the same channel and a timer tick. -/
theorem slice_round_trip_interleaved :
    let env : ProxyEnv := ⟨.standard, fun _ _ plain => some (List.replicate 28 0 ++ plain),
      fun _ _ cipher => some (cipher.drop 28), fun _ _ _ => .ok, fun _ _ => .ok, fun _ _ _ => .ok, fun _ => 0⟩
    let payload : List UInt8 := List.replicate 4060 7
    let info : ProxyChannelInfoDetail := ⟨true, 5, []⟩
    let received := (sentData (transProxyPackAndSendData env 3 payload info .bytes).2).map fun data =>
      ProxyEvent.onDataReceived 9 data .ok
    let other := ProxyEvent.onDataReceived 9 (clientPackSliceHead ⟨ProxyPriority.file.toInt, 2, 0, 0⟩ ++ [4]) .ok
    received.length = 2 ∧
      deliveredFor env 9 .bytes (.init fun _ => some info)
          (received.take 1 ++ other :: .sliceTimer :: received.drop 1) =
        [.notifySession 9 SessionPktType.bytes.toInt 5 payload] := by
  intro env payload info received other
  refine ⟨by decide +kernel, ?_⟩
  have hcipher : CipherPair env.encryptDataWithSeq env.decryptDataWithSeq := by
    intro key seq plain cipher h
    obtain rfl := Option.some.inj h
    exact ⟨by simp [overheadLen], by simp [env]⟩
  refine @slice_round_trip env env hcipher 3 info (by decide) payload .bytes (by decide +kernel) ?_ ?_ _ 9
    ⟨info, rfl, rfl, rfl⟩ _ ?_ ?_ ?_
  all_goals decide +kernel

end SoftBus
