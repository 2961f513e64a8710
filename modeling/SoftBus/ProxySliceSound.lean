import SoftBus.ProxySlice

/-!
# Soundness of slice reassembly

A slice processor is either cleared or holds the bodies of the slices
`0, 1, …` it accepted last, all announced with the same number of slices. So a
buffer that leaves a processor is made of one such series.
-/

namespace SoftBus

open Bytes Word

/-- The steps that accept slices `0, 1, …` of a series of `n`. -/
def acceptedSeries (n : Int) (bodies : List (List UInt8)) : List SliceStep :=
  bodies.mapIdx fun i body => .accepted n i body

theorem acceptedSeries_concat (n : Int) (bodies : List (List UInt8)) (body : List UInt8) :
    acceptedSeries n (bodies ++ [body]) =
      acceptedSeries n bodies ++ [.accepted n bodies.length body] :=
  List.mapIdx_concat

structure SliceProcessor.WellFormed (p : SliceProcessor) : Prop where
  dataLen_nonneg : 0 ≤ p.dataLen
  dataLen_le : p.dataLen ≤ p.bufLen
  active_data : p.active = true → p.data ≠ none
  active_seq : p.active = true → 1 ≤ p.expectedSeq

structure Assembling (p : SliceProcessor) (bodies : List (List UInt8)) : Prop where
  active : p.active = true
  started : bodies ≠ []
  expectedSeq : p.expectedSeq = bodies.length
  expectedSeq_lt : p.expectedSeq < p.sliceNumber
  sliceNumber_lt : p.sliceNumber < 2147483648
  data : p.data = some bodies.flatten
  dataLen : p.dataLen = bodies.flatten.length
  dataLen_le : p.dataLen ≤ p.bufLen
  bufLen_lt : p.bufLen < 2147483648

def HandedFrom (h : List SliceStep) (buffer : List UInt8) : Prop :=
  ∃ earlier bodies, h = earlier ++ acceptedSeries bodies.length bodies ∧ buffer = bodies.flatten

def HandedSound (h : List SliceStep) : Prop :=
  ∀ before buffer after, h = before ++ .handed buffer :: after → HandedFrom before buffer

structure ProcessorInv (p : SliceProcessor) (h : List SliceStep) : Prop where
  state : p = .cleared ∨
    ∃ earlier bodies, Assembling p bodies ∧ h = earlier ++ acceptedSeries p.sliceNumber bodies
  handed : HandedSound h

theorem handedSound_concat {h : List SliceStep} {x : SliceStep} (hs : HandedSound h)
    (hx : ∀ buffer, x = .handed buffer → HandedFrom h buffer) : HandedSound (h ++ [x]) := by
  intro before buffer after heq
  rcases List.eq_nil_or_concat after with rfl | ⟨after, y, rfl⟩
  · obtain ⟨rfl, hx'⟩ := List.append_inj' heq rfl
    exact hx buffer (List.cons.inj hx').1
  · rw [List.concat_eq_append, ← List.cons_append, ← List.append_assoc] at heq
    exact hs before buffer after (List.append_inj' heq rfl).1

theorem ProcessorInv.wellFormed {p : SliceProcessor} {h : List SliceStep} (hi : ProcessorInv p h) :
    p.WellFormed := by
  rcases hi.state with rfl | ⟨_, bodies, ha, _⟩
  · exact ⟨le_rfl, le_rfl, nofun, nofun⟩
  · have := List.length_pos_iff.mpr ha.started
    have hd := ha.dataLen
    have hs := ha.expectedSeq
    exact ⟨by omega, ha.dataLen_le, fun _ => by simp [ha.data], fun _ => by omega⟩

theorem ProcessorInv.clear {p : SliceProcessor} {h : List SliceStep} (hi : ProcessorInv p h) :
    ProcessorInv .cleared (h ++ [.cleared]) :=
  ⟨.inl rfl, handedSound_concat hi.handed nofun⟩

/-! ## One slice -/

def sliceBufLen (system : System) (priority : Int) : Nat :=
  (if priority = ProxyPriority.message.toInt then system.maxMessageNewLen else system.maxBytesNewLen) +
    packetHeadSize + overheadLen

theorem sliceBufLen_bounds (system : System) (priority : Int) :
    0 < sliceBufLen system priority ∧ sliceBufLen system priority < 4194400 := by
  have := system.maxBytesNewLen_le
  have := system.maxMessageNewLen_le
  simp only [sliceBufLen, packetHeadSize, overheadLen]
  split <;> omega

def firstProcessor (system : System) (head : SliceHead) (data : List UInt8) : SliceProcessor :=
  ⟨true, 0, head.sliceNum, 1, data.length, sliceBufLen system head.priority, some data⟩

theorem firstSlice_cases (env : ProxyEnv) (mem : ProxyMem) (head : SliceHead) (data : List UInt8) :
    (mem.slice = true ∧ data.length ≤ sliceBufLen env.system head.priority ∧
      clientTransProxyFirstSliceProcess env mem head data =
        ⟨.ok, firstProcessor env.system head data, [.cleared, .accepted head.sliceNum head.sliceSeq data]⟩) ∨
    (¬ (mem.slice = true ∧ data.length ≤ sliceBufLen env.system head.priority) ∧
      (clientTransProxyFirstSliceProcess env mem head data).ret ≠ .ok ∧
      (clientTransProxyFirstSliceProcess env mem head data).steps = [.cleared]) := by
  have hb := sliceBufLen_bounds env.system head.priority
  have hmod : ((if head.priority = ProxyPriority.message.toInt then env.system.maxMessageNewLen
      else env.system.maxBytesNewLen) + packetHeadSize + overheadLen) % 2 ^ 32 =
      sliceBufLen env.system head.priority := Nat.mod_eq_of_lt (by unfold sliceBufLen at hb; omega)
  unfold clientTransProxyFirstSliceProcess
  simp only [hmod]
  split
  · next hmem => exact .inr ⟨by simp_all, by simp, rfl⟩
  · next hmem =>
    split
    · next hcopy =>
      refine .inr ⟨fun h => ?_, by simp, rfl⟩
      have hsome : memcpyS [] 0 (sliceBufLen env.system head.priority) data = some data :=
        memcpyS_eq_some.mpr ⟨⟨by omega, by omega, h.2⟩, by simp⟩
      rw [hcopy] at hsome; cases hsome
    · next buf hcopy =>
      obtain ⟨⟨_, _, hlen⟩, rfl⟩ := memcpyS_eq_some.mp hcopy
      refine .inl ⟨by simpa using hmem, hlen, ?_⟩
      rw [int32_of_bounds (by omega) (by omega), int32_of_bounds (by omega) (by omega)]
      simp [firstProcessor]

theorem firstProcessor_assembling {system : System} {head : SliceHead} {data : List UInt8}
    (hlen : data.length ≤ sliceBufLen system head.priority) (hnum : 1 < head.sliceNum)
    (hlt : head.sliceNum < 2147483648) : Assembling (firstProcessor system head data) [data] := by
  have := sliceBufLen_bounds system head.priority
  exact ⟨rfl, by simp, rfl, hnum, hlt, by simp [firstProcessor], by simp [firstProcessor],
    by simp only [firstProcessor]; omega, by simp only [firstProcessor]; omega⟩

def SliceProcessor.push (p : SliceProcessor) (body : List UInt8) : SliceProcessor :=
  { p with expectedSeq := p.expectedSeq + 1, dataLen := p.dataLen + body.length,
           data := some (p.data.getD [] ++ body) }

theorem appendSlice_cleared_ne (head : SliceHead) (data : List UInt8) :
    (appendSlice .cleared head data).1 ≠ .ok := by
  unfold appendSlice
  split
  · next h =>
    unfold clientTransProxySliceProcessChkPkgIsValid at h
    simp only [SliceProcessor.cleared, if_true] at h
    split_ifs at h
  · next h => simpa using h

section
variable {p : SliceProcessor} {bodies : List (List UInt8)} (ha : Assembling p bodies)
include ha

theorem appendSlice_cases (head : SliceHead) (data : List UInt8) :
    (head.sliceNum = p.sliceNumber ∧ head.sliceSeq = p.expectedSeq ∧ p.dataLen + data.length ≤ p.bufLen ∧
      appendSlice p head data = (.ok, p.push data)) ∨
    (¬ (head.sliceNum = p.sliceNumber ∧ head.sliceSeq = p.expectedSeq ∧ data ≠ [] ∧
      p.dataLen + data.length ≤ p.bufLen) ∧ (appendSlice p head data).1 ≠ .ok) := by
  have hd := ha.dataLen
  have hle := ha.dataLen_le
  have hlt := ha.bufLen_lt
  have hseq := ha.expectedSeq
  have hnum := ha.expectedSeq_lt
  have hnum' := ha.sliceNumber_lt
  have hoff : p.dataLen.toNat = bodies.flatten.length := by omega
  have hmod : ((p.bufLen - p.dataLen) % 2 ^ 32).toNat = (p.bufLen - p.dataLen).toNat := by omega
  unfold appendSlice clientTransProxySliceProcessChkPkgIsValid
  simp only [ha.data, hoff, hmod, Option.getD_some]
  by_cases hhead : head.sliceNum ≠ p.sliceNumber ∨ head.sliceSeq ≠ p.expectedSeq
  · rw [if_pos hhead]
    exact .inr ⟨by tauto, by simp⟩
  have hhead' : head.sliceNum = p.sliceNumber ∧ head.sliceSeq = p.expectedSeq := by tauto
  rw [if_neg hhead]
  by_cases hfits : p.dataLen + data.length ≤ p.bufLen
  · have hlen : int32 data.length = data.length := int32_of_bounds (by omega) (by omega)
    have hsum : int32 (int32 data.length + p.dataLen) = data.length + p.dataLen := by
      rw [hlen]; exact int32_of_bounds (by omega) (by omega)
    have hchk : ¬ p.bufLen < int32 (int32 data.length + p.dataLen) := by rw [hsum]; omega
    rw [if_neg hchk, if_neg (Option.some_ne_none _)]
    cases hcopy : memcpyS bodies.flatten bodies.flatten.length (p.bufLen - p.dataLen).toNat data with
    | none =>
      refine .inr ⟨fun ⟨_, _, hne, _⟩ => ?_, by simp⟩
      have hpos := List.length_pos_iff.mpr hne
      have hroom : 0 < p.bufLen - p.dataLen := by omega
      have hsome : memcpyS bodies.flatten bodies.flatten.length (p.bufLen - p.dataLen).toNat data =
          some (bodies.flatten ++ data) :=
        memcpyS_length_eq_some.mpr ⟨⟨by omega, by omega, by omega⟩, rfl⟩
      rw [hcopy] at hsome; cases hsome
    | some buf =>
      obtain ⟨_, rfl⟩ := memcpyS_length_eq_some.mp hcopy
      refine .inl ⟨hhead'.1, hhead'.2, hfits, ?_⟩
      simp only [SliceProcessor.push, ha.data, Option.getD_some]
      have hnext : int32 (p.expectedSeq + 1) = p.expectedSeq + 1 := int32_of_bounds (by omega) (by omega)
      have hadd : int32 (p.dataLen + data.length) = p.dataLen + data.length :=
        int32_of_bounds (by omega) (by omega)
      rw [hlen, hnext, hadd]
  · -- too long: the length check may wrap, but the copy is refused then
    refine .inr ⟨fun h => hfits h.2.2.2, ?_⟩
    split
    · have hcopy : memcpyS bodies.flatten bodies.flatten.length (p.bufLen - p.dataLen).toNat data = none := by
        rw [memcpyS, if_pos (by omega)]
      rw [hcopy]; simp
    · next h => simpa using h

theorem Assembling.withTimeout (t : Int) : Assembling { p with timeout := t } bodies :=
  ⟨ha.active, ha.started, ha.expectedSeq, ha.expectedSeq_lt, ha.sliceNumber_lt, ha.data, ha.dataLen,
    ha.dataLen_le, ha.bufLen_lt⟩

theorem push_assembling {body : List UInt8} (hfits : p.dataLen + body.length ≤ p.bufLen)
    (hlt : p.expectedSeq + 1 < p.sliceNumber) : Assembling (p.push body) (bodies ++ [body]) := by
  have hd := ha.dataLen
  have hseq := ha.expectedSeq
  refine ⟨ha.active, by simp, ?_, hlt, ha.sliceNumber_lt, ?_, ?_, hfits, ha.bufLen_lt⟩
  · simp only [SliceProcessor.push, List.length_append, List.length_singleton]; omega
  · simp [SliceProcessor.push, ha.data]
  · simp only [SliceProcessor.push, List.flatten_append, List.length_append, List.flatten_singleton]; omega

end

section
variable {p : SliceProcessor} {h : List SliceStep} (hi : ProcessorInv p h)
include hi

theorem ProcessorInv.of_append_ok {head : SliceHead} {data : List UInt8} {q : SliceProcessor}
    (hok : appendSlice p head data = (.ok, q)) :
    ∃ earlier bodies, Assembling p bodies ∧ h = earlier ++ acceptedSeries p.sliceNumber bodies ∧
      head.sliceNum = p.sliceNumber ∧ head.sliceSeq = p.expectedSeq ∧
      p.dataLen + data.length ≤ p.bufLen ∧ q = p.push data := by
  have hret := congrArg Prod.fst hok
  rcases hi.state with rfl | ⟨earlier, bodies, ha, hh⟩
  · exact absurd hret (appendSlice_cleared_ne head data)
  · rcases appendSlice_cases ha head data with ⟨h₁, h₂, h₃, h₄⟩ | ⟨_, hne⟩
    · exact ⟨earlier, bodies, ha, hh, h₁, h₂, h₃, (Prod.mk.inj (hok.symm.trans h₄)).2⟩
    · exact absurd hret hne

theorem ProcessorInv.first (env : ProxyEnv) (mem : ProxyMem) {head : SliceHead} (data : List UInt8)
    (hseq : head.sliceSeq = 0) (hnum : 1 < head.sliceNum) (hlt : head.sliceNum < 2147483648) :
    ProcessorInv (clientTransProxyFirstSliceProcess env mem head data).settle.processor
      (h ++ (clientTransProxyFirstSliceProcess env mem head data).settle.steps) := by
  unfold SliceResult.settle
  rcases firstSlice_cases env mem head data with ⟨_, hlen, heq⟩ | ⟨_, hret, hsteps⟩
  · rw [heq, if_neg (by simp)]
    refine ⟨.inr ⟨h ++ [.cleared], [data], firstProcessor_assembling hlen hnum hlt, ?_⟩, ?_⟩
    · simp [acceptedSeries, firstProcessor, hseq]
    · rw [List.append_cons]
      exact handedSound_concat (handedSound_concat hi.handed nofun) nofun
  · rw [if_pos hret, hsteps]
    simpa using hi.clear.clear

theorem ProcessorInv.normal {head : SliceHead} (data : List UInt8) (hlt : head.sliceSeq + 1 < head.sliceNum) :
    ProcessorInv (clientTransProxyNormalSliceProcess p head data).settle.processor
      (h ++ (clientTransProxyNormalSliceProcess p head data).settle.steps) := by
  unfold SliceResult.settle clientTransProxyNormalSliceProcess
  split
  · next q hok =>
    obtain ⟨earlier, bodies, ha, hh, hnum, hseq, hfits, rfl⟩ := hi.of_append_ok hok
    rw [if_neg (by simp)]
    refine ⟨.inr ⟨earlier, bodies ++ [data], (push_assembling ha hfits (by omega)).withTimeout 0, ?_⟩,
      handedSound_concat hi.handed nofun⟩
    rw [hh, List.append_assoc, hnum, hseq, ha.expectedSeq]
    exact congrArg _ (acceptedSeries_concat _ _ _).symm
  · next ret q hne heq =>
    simpa [show ret ≠ .ok from hne] using hi.clear

theorem ProcessorInv.last (env : ProxyEnv) (channels : ProxyChannelInfoList) (mem : ProxyMem) {head : SliceHead}
    (data : List UInt8) (channelId : Int) (hlast : head.sliceNum = head.sliceSeq + 1) :
    ProcessorInv (clientTransProxyLastSliceProcess env channels mem p head data channelId).1.settle.processor
      (h ++ (clientTransProxyLastSliceProcess env channels mem p head data channelId).1.settle.steps) := by
  unfold SliceResult.settle clientTransProxyLastSliceProcess
  split
  · next q hok =>
    obtain ⟨earlier, bodies, ha, hh, hnum, hseq, hfits, rfl⟩ := hi.of_append_ok hok
    have hbuf : ((p.push data).data.getD []).take (p.push data).dataLen.toNat =
        (bodies ++ [data]).flatten := by
      have hd := ha.dataLen
      rw [List.take_of_length_le]
      · simp [SliceProcessor.push, ha.data]
      · simp only [SliceProcessor.push, ha.data, Option.getD_some, List.length_append]; omega
    have hfrom : HandedFrom (h ++ [.accepted head.sliceNum head.sliceSeq data]) (bodies ++ [data]).flatten := by
      refine ⟨earlier, bodies ++ [data], ?_, rfl⟩
      have hlen : ((bodies ++ [data]).length : Int) = p.sliceNumber := by
        have := ha.expectedSeq
        rw [List.length_append, List.length_singleton]; omega
      rw [hlen, hh, List.append_assoc, hnum, hseq, ha.expectedSeq]
      exact congrArg _ (acceptedSeries_concat _ _ _).symm
    have hsound : HandedSound ((h ++ [.accepted head.sliceNum head.sliceSeq data]) ++
        [.handed (bodies ++ [data]).flatten]) :=
      handedSound_concat (handedSound_concat hi.handed nofun) fun _ hb => SliceStep.handed.inj hb ▸ hfrom
    have hclear : ProcessorInv .cleared (((h ++ [.accepted head.sliceNum head.sliceSeq data]) ++
        [.handed (bodies ++ [data]).flatten]) ++ [.cleared]) := ⟨.inl rfl, handedSound_concat hsound nofun⟩
    simp only [hbuf]
    split
    · next hne => simpa [hne] using hclear
    · simpa using hclear
  · next ret q hne heq =>
    simpa [show ret ≠ .ok from hne] using hi.clear

theorem ProcessorInv.tick : ProcessorInv p.tick.1 (h ++ p.tick.2) := by
  unfold SliceProcessor.tick
  split
  · next hact =>
    split
    · exact hi.clear
    · rcases hi.state with rfl | ⟨earlier, bodies, ha, hh⟩
      · exact absurd hact (by simp [SliceProcessor.cleared])
      · refine ⟨.inr ⟨earlier, bodies, ha.withTimeout _, ?_⟩, ?_⟩
        · simpa using hh
        · simpa using hi.handed
  · simpa using hi

end

/-! ## Whole states -/

def ProxyState.processor (s : ProxyState) (channelId : Int) (index : ProxyPriority) : SliceProcessor :=
  match s.channelSliceProcessorList channelId with
  | some node => node index
  | none => .cleared

theorem getNode_processor {s : ProxyState} {mem : ProxyMem} {channelId : Int} {node : ChannelSliceProcessor}
    (h : clientTransProxyGetChannelSliceProcessor s mem channelId = some node) (index : ProxyPriority) :
    node index = s.processor channelId index := by
  unfold clientTransProxyGetChannelSliceProcessor at h
  unfold ProxyState.processor
  cases hnode : s.channelSliceProcessorList channelId with
  | some node' =>
    simp only [hnode] at h ⊢
    rw [← Option.some.inj h]
  | none =>
    simp only [hnode] at h ⊢
    split at h
    · rw [← Option.some.inj h]
    · cases h

section
variable (s : ProxyState) (channelId : Int) (node : ChannelSliceProcessor) (index : ProxyPriority)
  (r : SliceResult)

theorem putProcessor_self :
    (s.putProcessor channelId node index r).processor channelId index = r.processor ∧
      (s.putProcessor channelId node index r).history channelId index =
        s.history channelId index ++ r.steps := by
  simp [ProxyState.putProcessor, ProxyState.processor]

theorem putProcessor_of_ne (hnode : ∀ i, node i = s.processor channelId i) {c : Int} {i : ProxyPriority}
    (hne : ¬ (c = channelId ∧ i = index)) :
    (s.putProcessor channelId node index r).processor c i = s.processor c i ∧
      (s.putProcessor channelId node index r).history c i = s.history c i := by
  by_cases hc : c = channelId
  · subst hc
    have hi : i ≠ index := fun h => hne ⟨rfl, h⟩
    rw [← hnode]
    simp [ProxyState.putProcessor, ProxyState.processor, hi]
  · simp [ProxyState.putProcessor, ProxyState.processor, hc]

end

theorem sliceTimer_processor (s : ProxyState) (channelId : Int) (index : ProxyPriority) :
    (clientTransProxySliceTimerProc s).processor channelId index = (s.processor channelId index).tick.1 := by
  simp only [clientTransProxySliceTimerProc, ProxyState.processor]
  cases s.channelSliceProcessorList channelId <;> rfl

theorem sliceTimer_history (s : ProxyState) (channelId : Int) (index : ProxyPriority) :
    (clientTransProxySliceTimerProc s).history channelId index =
      s.history channelId index ++ (s.processor channelId index).tick.2 := by
  simp only [clientTransProxySliceTimerProc, ProxyState.processor]
  cases s.channelSliceProcessorList channelId
  · exact (List.append_nil _).symm
  · rfl

def ProxyInv (s : ProxyState) : Prop :=
  ∀ channelId index, ProcessorInv (s.processor channelId index) (s.history channelId index)

theorem proxyInv_put {s : ProxyState} (hs : ProxyInv s) {channelId : Int} {node : ChannelSliceProcessor}
    (hnode : ∀ i, node i = s.processor channelId i) (index : ProxyPriority) (r : SliceResult)
    (hr : ProcessorInv r.processor (s.history channelId index ++ r.steps)) :
    ProxyInv (s.putProcessor channelId node index r) := by
  intro c i
  by_cases h : c = channelId ∧ i = index
  · obtain ⟨rfl, rfl⟩ := h
    have := putProcessor_self s c node i r
    rw [this.1, this.2]
    exact hr
  · have := putProcessor_of_ne s channelId node index r hnode h
    rw [this.1, this.2]
    exact hs c i

theorem checkSliceHead_ok {head : SliceHead} (h : clientTransProxyCheckSliceHead head = .ok)
    (hnum : head.sliceNum ≠ 1) : head.sliceSeq < head.sliceNum := by
  unfold clientTransProxyCheckSliceHead at h
  split_ifs at h
  omega

theorem subPacketProc_inv (env : ProxyEnv) {s : ProxyState} (hs : ProxyInv s) (mem : ProxyMem) (channelId : Int)
    {head : SliceHead} (data : List UInt8) (hnum : head.sliceNum ≠ 1) (hseq : head.sliceSeq < head.sliceNum)
    (hlt : head.sliceNum < 2147483648) :
    ProxyInv (clientTransProxySubPacketProc env s mem channelId head data).state := by
  unfold clientTransProxySubPacketProc
  split
  · next node index hget hindex =>
    have hnode := getNode_processor hget
    have hi := hs channelId index
    rw [← hnode index] at hi
    dsimp only
    split
    · next hfirst =>
      exact proxyInv_put hs hnode _ _ (hi.first env mem data hfirst (by omega) hlt)
    · next hfirst =>
      split
      · next hlast => exact proxyInv_put hs hnode _ _ (hi.last env _ mem data channelId hlast)
      · next hlast => exact proxyInv_put hs hnode _ _ (hi.normal data (by omega))
  · exact hs

theorem readInt32_lt (l : List UInt8) : readInt32 l < 2147483648 := by
  unfold readInt32 int32
  omega

theorem sliceProc_inv (env : ProxyEnv) {s : ProxyState} (hs : ProxyInv s) (mem : ProxyMem) (channelId : Int)
    (data : List UInt8) : ProxyInv (clientTransProxySliceProc env s mem channelId data).state := by
  unfold clientTransProxySliceProc
  split
  · exact hs
  dsimp only
  split
  · exact hs
  · next hchk =>
    split
    · exact hs
    · next hnum =>
      exact subPacketProc_inv env hs mem channelId _ hnum (checkSliceHead_ok (not_not.mp hchk) hnum)
        (readInt32_lt _)

theorem proxyInv_next (env : ProxyEnv) {s : ProxyState} (hs : ProxyInv s) (e : ProxyEvent) :
    ProxyInv (s.next env e) := by
  cases e with
  | onDataReceived channelId data mem =>
    simp only [ProxyState.next, ProxyState.handle, clientTransProxyOnDataReceived]
    split
    · exact hs
    · next info channels _ =>
      have hs' : ProxyInv { s with channelInfoList := channels } := hs
      split
      · exact hs'
      · exact sliceProc_inv env hs' mem channelId data
  | sliceProc channelId data mem => exact sliceProc_inv env hs mem channelId data
  | sliceTimer =>
    intro c i
    simp only [ProxyState.next, ProxyState.handle]
    rw [sliceTimer_processor, sliceTimer_history]
    exact (hs c i).tick
  | delSliceProcessor channelId =>
    intro c i
    have hi := hs c i
    simp only [ProxyState.next, ProxyState.handle, transProxyDelSliceProcessorByChannelId]
    split
    · by_cases hc : c = channelId
      · subst hc
        simpa [ProxyState.processor] using hi.clear
      · simpa [ProxyState.processor, hc] using hi
    · exact hi

theorem proxyInv_init (channels : ProxyChannelInfoList) : ProxyInv (.init channels) := fun _ _ =>
  ⟨.inl rfl, fun before _ after h => by simp [ProxyState.init] at h⟩

/-- In every state of every run, each slice processor is well formed, and each
buffer it handed on is the concatenation of slices `0, …, n - 1` of a series
announced as `n` slices. These were the last `n` things that happened to the
processor: it accepted them one after the other, with no restart, rejected
slice, timeout or deletion between them. -/
theorem slice_reassembly_sound (env : ProxyEnv) (channels : ProxyChannelInfoList) (l : List ProxyEvent) :
    (∀ channelId node index,
      (Run.final (ProxyState.next env) (.init channels) l).channelSliceProcessorList channelId = some node →
        (node index).WellFormed) ∧
    ∀ channelId index before buffer after,
      (Run.final (ProxyState.next env) (.init channels) l).history channelId index =
        before ++ .handed buffer :: after →
      ∃ earlier bodies, before = earlier ++ acceptedSeries bodies.length bodies ∧
        buffer = bodies.flatten := by
  have hinv : ProxyInv (Run.final (ProxyState.next env) (.init channels) l) :=
    Run.inv_final_of_step (I := ProxyInv) (fun _ e hs => proxyInv_next env hs e) l (proxyInv_init channels)
  refine ⟨fun channelId node index hnode => ?_, fun channelId index => (hinv channelId index).handed⟩
  have := (hinv channelId index).wellFormed
  simpa [ProxyState.processor, hnode] using this

/-- A slice head names no message: slice `0` of one message and slice `1` of
another, both of two slices, are put together. -/
theorem slices_of_two_messages_mixed :
    let env : ProxyEnv := ⟨.standard, fun _ _ _ => none, fun _ _ _ => none, fun _ _ _ => .ok, fun _ _ => .ok,
      fun _ _ _ => .ok, fun _ => 0⟩
    let mem : ProxyMem := ⟨true, true, true⟩
    let slice (message : List (List UInt8)) (i : Nat) : List UInt8 :=
      clientPackSliceHead ⟨ProxyPriority.bytes.toInt, message.length, i, 0⟩ ++ message.getD i []
    let messageA := [[0xA0], [0xA1]]
    let messageB := [[0xB0], [0xB1]]
    (Run.final (ProxyState.next env) (.init fun _ => none)
      [.sliceProc 7 (slice messageA 0) mem, .sliceProc 7 (slice messageB 1) mem]).history 7 .bytes =
        [.cleared, .accepted 2 0 [0xA0], .accepted 2 1 [0xB1], .handed [0xA0, 0xB1], .cleared] ∧
      [0xA0, 0xB1] ≠ messageA.flatten ∧ [0xA0, 0xB1] ≠ messageB.flatten := by
  decide

end SoftBus
