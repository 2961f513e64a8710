import SoftBus.FileSend
import SoftBus.Lib.Run

/-!
# The bitmap of an acknowledgement

The receiver notes the frames of the current window in the lower half of
`seqResult`. The mask of the last frame of a window fills the upper half, and
the shift at the acknowledgement makes that half the start of the next window.
So the next acknowledgement is right exactly when this frame was missing, or
when nothing is missing in the next window.
-/

namespace SoftBus

open Word BlockFile

/-! ## What an accepted data frame does -/

theorem noted_of_ok {io : FrameIo} {t : SessionPktType} {d : DataFrame} {f f' : SingleFileInfo}
    (h : processOneFrameCRC io t d f = .ok f') :
    1 ≤ d.seq ∧ d.seq < (f.startSeq + 32) % 4294967296 ∧ f'.startSeq = f.startSeq ∧
      f'.seqResult = if f.startSeq ≤ d.seq
        then f.seqResult ||| (BitVec.twoPow 32 (frameBit d.seq)).signExtend 64 else f.seqResult := by
  obtain ⟨⟨hlo, hhi⟩, ⟨hnew, h⟩ | ⟨hold, h⟩⟩ := processOneFrameCRC_ok h
  · obtain ⟨⟨sum, rfl⟩, -⟩ := processNewFrame_ok h
    obtain ⟨content, hempty⟩ := writeEmptyFrame_eq (seqDiff d.seq f).toNat f
    rw [hempty, if_pos hnew]
    exact ⟨hlo, hhi, rfl, rfl⟩
  · rw [pwriteFrame_ok h, if_neg (by omega)]
    exact ⟨hlo, hhi, rfl, rfl⟩

/-! ## Masks -/

theorem frameBit_eq {startSeq seq : Nat} (hs : startSeq % 32 = 1) (h₁ : startSeq ≤ seq) (h₂ : seq < startSeq + 32) :
    frameBit seq = seq - startSeq := by
  simp only [frameBit, show fileSendAckInterval = 32 from rfl]
  split <;> omega

theorem getLsbD_frameMask {b : Nat} (hb : b < 32) {i : Nat} (hi : i < 64) :
    ((BitVec.twoPow 32 b).signExtend 64).getLsbD i = decide (i = b ∨ 32 ≤ i ∧ b = 31) := by
  rw [BitVec.getLsbD_signExtend, BitVec.getLsbD_twoPow, BitVec.msb_twoPow]
  by_cases h : i < 32
  · simp only [hi, hb, h, decide_true, Bool.true_and, if_true]
    exact decide_eq_decide.mpr (by omega)
  · simp only [hi, hb, h, decide_true, Bool.true_and, if_false]
    exact decide_eq_decide.mpr (by omega)

/-! ## Runs of the receiver -/

inductive RecvEvent where
  | data (io : FrameIo) (frame : FileFrame)
  | ackRequest (frame : FileFrame)

/-- The receiver of one file, with the numbers of the data frames it accepted: all of them,
those of the current window, those of the window before. -/
structure AckRun where
  rx : Option FileRecipientInfo
  received : List Nat := []
  current : List Nat := []
  previous : List Nat := []

def AckRun.accept (s : AckRun) (startSeq seq : Nat) (rx : Option FileRecipientInfo) : AckRun :=
  { s with
    rx := rx
    received := seq :: s.received
    current := if startSeq ≤ seq then seq :: s.current else s.current }

def AckRun.next (s : AckRun) : RecvEvent → AckRun
  | .data io frame =>
    let out := writeFrameToFile io s.rx frame
    match out.ret, s.rx, unpackFileDataFrame true frame.data with
    | .ok, some r, .ok d => s.accept r.recvFileInfo.startSeq d.seq out.recipient
    | _, _, _ => { s with rx := out.recipient }
  | .ackRequest frame =>
    let out := processFileAckRequest s.rx frame
    if out.ret = .ok then { s with rx := out.recipient, current := [], previous := s.current }
    else { s with rx := out.recipient }

theorem getRecipientInProcessRef_some {rx : Option FileRecipientInfo} {r : FileRecipientInfo}
    (h : getRecipientInProcessRef rx = some r) :
    ∃ r₀, rx = some r₀ ∧ r = { r₀ with recvState := r.recvState } := by
  cases rx with
  | none => cases h
  | some r₀ =>
    simp only [getRecipientInProcessRef] at h
    split at h
    · cases h
    · cases h
      exact ⟨r₀, rfl, rfl⟩

theorem writeFrameToFile_cases (io : FrameIo) {rx : Option FileRecipientInfo} (hcrc : ∀ r, rx = some r → r.crc = true)
    (frame : FileFrame) :
    (∃ r d f' st, rx = some r ∧ unpackFileDataFrame true frame.data = .ok d ∧
        processOneFrameCRC io frame.frameType d r.recvFileInfo = .ok f' ∧
        writeFrameToFile io rx frame =
          ⟨.ok, some { r with recvState := st, recvFileInfo := { f' with timeOut := 0 } }, []⟩) ∨
      (writeFrameToFile io rx frame).ret ≠ .ok ∧
        ((writeFrameToFile io rx frame).recipient = rx ∨ (writeFrameToFile io rx frame).recipient = none) := by
  unfold writeFrameToFile
  cases hget : getRecipientInProcessRef rx with
  | none => exact .inr ⟨by simp, .inl rfl⟩
  | some r =>
    obtain ⟨r₀, rfl, hr⟩ := getRecipientInProcessRef_some hget
    have hc : r.crc = true := by rw [hr]; exact hcrc r₀ rfl
    have hfile : r.recvFileInfo = r₀.recvFileInfo := by rw [hr]
    simp only [hc, processOneFrame, hfile]
    cases hu : unpackFileDataFrame true frame.data with
    | error e => exact .inr ⟨by simp, .inr rfl⟩
    | ok d =>
      simp only
      by_cases herr : r₀.recvFileInfo.fileStatus = .err
      · rw [if_pos herr]
        exact .inr ⟨by simp, .inr rfl⟩
      · rw [if_neg herr, if_pos trivial]
        cases hp : processOneFrameCRC io frame.frameType d r₀.recvFileInfo with
        | error e => exact .inr ⟨by simp, .inr rfl⟩
        | ok f' =>
          left
          refine ⟨r₀, d, f', r.recvState, rfl, rfl, hp, ?_⟩
          simp only [Bool.true_eq_false, false_and, if_false, hcrc r₀ rfl]

theorem processFileAckRequest_cases (rx : Option FileRecipientInfo) (frame : FileFrame) :
    (∃ r st v, rx = some r ∧ unpackAckReqAndResData frame.data = .ok (r.recvFileInfo.startSeq, v) ∧
        processFileAckRequest rx frame =
          ⟨.ok, some { r with
              recvState := st, recvFileInfo := ackRequestFile r.recvFileInfo.startSeq r.recvFileInfo },
            [⟨.fileAckResponseSent, packAckReqAndResData r.recvFileInfo.startSeq
              (r.recvFileInfo.seqResult.setWidth 32).toNat⟩]⟩) ∨
      (processFileAckRequest rx frame).ret ≠ .ok ∧ (processFileAckRequest rx frame).sent = [] ∧
        ∀ r', (processFileAckRequest rx frame).recipient = some r' →
          ∃ r, rx = some r ∧ r' = { r with recvState := r'.recvState } := by
  unfold processFileAckRequest
  cases hget : getRecipientInProcessRef rx with
  | none => exact .inr ⟨by simp, rfl, fun r' h => ⟨r', h, rfl⟩⟩
  | some r =>
    obtain ⟨r₀, rfl, hr⟩ := getRecipientInProcessRef_some hget
    have hfile : r.recvFileInfo = r₀.recvFileInfo := by rw [hr]
    have hkeep : ∀ r', some r = some r' → ∃ r₁, some r₀ = some r₁ ∧ r' = { r₁ with recvState := r'.recvState } := by
      intro r' h
      cases h
      exact ⟨r₀, rfl, hr⟩
    simp only [hfile]
    cases hu : unpackAckReqAndResData frame.data with
    | error e => exact .inr ⟨by simp, rfl, hkeep⟩
    | ok p =>
      obtain ⟨startSeq, v⟩ := p
      simp only
      by_cases hs : startSeq = r₀.recvFileInfo.startSeq
      · subst hs
        left
        refine ⟨r₀, r.recvState, v, rfl, rfl, ?_⟩
        rw [if_neg (fun h => h rfl), hr]
      · rw [if_pos hs]
        exact .inr ⟨by simp, rfl, hkeep⟩

/-! ## The bitmap invariant -/

/-- What `seqResult` says about the frames of the current and of the previous window. -/
structure Bitmap (s : AckRun) (f : SingleFileInfo) : Prop where
  start_mod : f.startSeq % 32 = 1
  start_lt : f.startSeq < 4294967296
  current_range : ∀ x ∈ s.current, f.startSeq ≤ x ∧ x < f.startSeq + 32 ∧ x < 4294967296
  current_received : ∀ x ∈ s.current, x ∈ s.received
  previous_range : ∀ x ∈ s.previous, 1 ≤ x ∧ x < 4294967296
  low : ∀ i < 32, f.seqResult.getLsbD i = decide (f.startSeq - 1 ∈ s.previous ∨ f.startSeq + i ∈ s.current)
  high : ∀ i, 32 ≤ i → i < 64 → f.seqResult.getLsbD i = decide (f.startSeq + 31 ∈ s.current)

def AckRun.Inv (s : AckRun) : Prop := ∀ r, s.rx = some r → r.crc = true ∧ Bitmap s r.recvFileInfo

section
variable {s : AckRun} {f f' : SingleFileInfo} {io : FrameIo} {t : SessionPktType} {d : DataFrame}

theorem Bitmap.accept (h : Bitmap s f) (hok : processOneFrameCRC io t d f = .ok f') (rx : Option FileRecipientInfo) :
    Bitmap (s.accept f.startSeq d.seq rx) { f' with timeOut := 0 } := by
  obtain ⟨hlo, hhi, hstart, hres⟩ := noted_of_ok hok
  have hlt := h.start_lt
  have hmod := h.start_mod
  by_cases hnew : f.startSeq ≤ d.seq
  · have hbit := frameBit_eq hmod hnew (show d.seq < f.startSeq + 32 by omega)
    have hb : frameBit d.seq < 32 := by omega
    rw [if_pos hnew] at hres
    have hcur : (s.accept f.startSeq d.seq rx).current = d.seq :: s.current := if_pos hnew
    refine ⟨by rw [hstart]; exact hmod, by rw [hstart]; exact hlt, ?_, ?_, h.previous_range, ?_, ?_⟩
    · rw [hcur, hstart]
      intro x hx
      rcases List.mem_cons.mp hx with rfl | hx
      · exact ⟨hnew, by omega, by omega⟩
      · exact h.current_range x hx
    · rw [hcur]
      intro x hx
      rcases List.mem_cons.mp hx with rfl | hx
      · exact List.mem_cons_self
      · exact List.mem_cons_of_mem _ (h.current_received x hx)
    · intro i hi
      have hseq : (i = frameBit d.seq ∨ 32 ≤ i ∧ frameBit d.seq = 31) ↔ f.startSeq + i = d.seq := by omega
      simp only [hres, BitVec.getLsbD_or, h.low i hi, getLsbD_frameMask hb (show i < 64 by omega), hcur, hstart,
        List.mem_cons, ← Bool.decide_or, hseq, or_assoc]
      exact decide_eq_decide.mpr (or_congr_right or_comm)
    · intro i hi₁ hi₂
      have hseq : (i = frameBit d.seq ∨ 32 ≤ i ∧ frameBit d.seq = 31) ↔ f.startSeq + 31 = d.seq := by omega
      simp only [hres, BitVec.getLsbD_or, h.high i hi₁ hi₂, getLsbD_frameMask hb hi₂, hcur, hstart,
        List.mem_cons, ← Bool.decide_or, hseq]
      exact decide_eq_decide.mpr or_comm
  · rw [if_neg hnew] at hres
    have hcur : (s.accept f.startSeq d.seq rx).current = s.current := if_neg hnew
    refine ⟨by rw [hstart]; exact hmod, by rw [hstart]; exact hlt, ?_, ?_, h.previous_range, ?_, ?_⟩
    · rw [hcur, hstart]; exact h.current_range
    · rw [hcur]
      intro x hx
      exact List.mem_cons_of_mem _ (h.current_received x hx)
    · rw [hcur, hstart, hres]; exact h.low
    · rw [hcur, hstart, hres]; exact h.high

theorem Bitmap.ackRequest (h : Bitmap s f) (rx : Option FileRecipientInfo) :
    Bitmap { s with rx := rx, current := [], previous := s.current } (ackRequestFile f.startSeq f) := by
  have hlt := h.start_lt
  have hmod := h.start_mod
  have hstart : (ackRequestFile f.startSeq f).startSeq = (f.startSeq + 32) % 4294967296 := rfl
  have hres : (ackRequestFile f.startSeq f).seqResult = f.seqResult >>> 32 := rfl
  -- where the number wraps, frame `startSeq + 31` does not exist
  have hlast : (ackRequestFile f.startSeq f).startSeq - 1 ∈ s.current ↔ f.startSeq + 31 ∈ s.current := by
    by_cases hwrap : f.startSeq + 32 < 4294967296
    · rw [hstart, Nat.mod_eq_of_lt hwrap, Nat.add_sub_assoc (by omega)]
    · constructor
      · intro hx
        have := h.current_range _ hx
        omega
      · intro hx
        have := h.current_range _ hx
        omega
  refine ⟨by rw [hstart]; omega, by rw [hstart]; omega, by simp, by simp, ?_, ?_, ?_⟩
  · intro x hx
    have := h.current_range x hx
    omega
  · intro i hi
    rw [hres, BitVec.getLsbD_ushiftRight, h.high (32 + i) (by omega) (by omega)]
    refine decide_eq_decide.mpr ?_
    rw [hlast]
    simp
  · intro i hi₁ hi₂
    rw [hres, BitVec.getLsbD_ushiftRight, BitVec.getLsbD_of_ge _ _ (by omega)]
    simp

end

theorem AckRun.inv_next (s : AckRun) (e : RecvEvent) (hs : s.Inv) : (s.next e).Inv := by
  cases e with
  | data io frame =>
    rcases writeFrameToFile_cases io (fun r hr => (hs r hr).1) frame with
      ⟨r, d, f', st, hrx, hu, hp, hout⟩ | ⟨hret, hrx⟩
    · have hnext : s.next (.data io frame) = s.accept r.recvFileInfo.startSeq d.seq
          (some { r with recvState := st, recvFileInfo := { f' with timeOut := 0 } }) := by
        simp only [AckRun.next, hout, hu]
        simp only [hrx]
      rw [hnext]
      intro r' hr'
      cases hr'
      exact ⟨(hs r hrx).1, (hs r hrx).2.accept hp _⟩
    · have hnext : s.next (.data io frame) = { s with rx := (writeFrameToFile io s.rx frame).recipient } := by
        simp only [AckRun.next]
        split
        · contradiction
        · rfl
      rw [hnext]
      intro r' hr'
      rcases hrx with hrx | hrx
      · have hr : s.rx = some r' := hrx ▸ hr'
        obtain ⟨hc, hb⟩ := hs r' hr
        exact ⟨hc, ⟨hb.1, hb.2, hb.3, hb.4, hb.5, hb.6, hb.7⟩⟩
      · rw [hrx] at hr'; cases hr'
  | ackRequest frame =>
    rcases processFileAckRequest_cases s.rx frame with ⟨r, st, v, hrx, hu, hout⟩ | ⟨hret, -, hkeep⟩
    · intro r' hr'
      simp only [AckRun.next, hout, if_true] at hr' ⊢
      cases hr'
      exact ⟨(hs r hrx).1, (hs r hrx).2.ackRequest _⟩
    · intro r' hr'
      simp only [AckRun.next, if_neg hret] at hr' ⊢
      obtain ⟨r, hr, hrr⟩ := hkeep r' hr'
      obtain ⟨hc, hb⟩ := hs r hr
      rw [hrr]
      exact ⟨hc, ⟨hb.1, hb.2, hb.3, hb.4, hb.5, hb.6, hb.7⟩⟩

/-! ## Retransmission -/

def retransFrame (info : SendListenerInfo) (seq : Nat) : FileFrame :=
  ⟨frameIndexToType seq info.frameNum, packFileDataFrame seq (frameData info.fd seq)⟩

structure SendListenerInfo.Asks (info : SendListenerInfo) (startSeq : Nat) : Prop where
  crc : info.crc = true
  fileSize : info.fileSize = info.fd.length
  size_le : info.fileSize ≤ maxFileSize
  frameNum : info.frameNum = getFrameNum info.fileSize true
  ongoing : startSeq + 31 < info.frameNum - 1

theorem asks_ofFile {channelId : Int} {src : List UInt8} {startSeq : Nat} (hsize : src.length ≤ maxFileSize)
    (h : startSeq + 31 < getFrameNum src.length true - 1) :
    (SendListenerInfo.ofFile channelId true src).Asks startSeq :=
  ⟨rfl, rfl, hsize, rfl, h⟩

theorem frame_in_file {src : List UInt8} {seq : Nat} (h : seq < getFrameNum src.length true) (hseq : 1 ≤ seq) :
    (seq - 1) * 958 < src.length := by
  simp only [getFrameNum, frameDataSize_true] at h
  split at h <;> omega

theorem length_frameData (src : List UInt8) (seq : Nat) :
    (frameData src seq).length = min 958 (src.length - (seq - 1) * 958) := by
  simp [frameData, frameDataSize_true]

section
variable {info : SendListenerInfo}

theorem retransFileFrameBySeq_eq (hcrc : info.crc = true) (hsize : info.fileSize = info.fd.length) {seq : Nat}
    (hseq : 1 ≤ seq) (hlt : seq < 2147483648) (hin : (seq - 1) * 958 < info.fd.length) :
    retransFileFrameBySeq info seq = .ok [retransFrame info seq] := by
  have hint : int32 seq = seq := int32_of_bounds (by omega) (by omega)
  have hread : pread info.fd (min (info.fileSize - 958 * (seq - 1)) 958) (958 * (seq - 1)) = frameData info.fd seq := by
    rw [frameData, frameDataSize_true, pread, pread, Nat.mul_comm 958, hsize, ← List.length_drop,
      List.take_eq_take_min, List.take_eq_take_min (i := 958), Nat.min_right_comm, Nat.min_self, Nat.min_comm]
  have hlen := length_frameData info.fd seq
  have hpack : packReadFileRetransData info seq (min (info.fileSize - 958 * (seq - 1)) 958) (958 * (seq - 1)) =
      .ok (retransFrame info seq) := by
    obtain ⟨h₁, h₂, h₃⟩ := frame_consts
    have h₄ : proxyMaxPacketSize = 976 := rfl
    simp only [packReadFileRetransData, hread]
    rw [if_neg (by omega), if_neg (by omega)]
    rfl
  unfold retransFileFrameBySeq
  simp only [frameDataSize_true, hint, hcrc]
  rw [if_neg (by simp), if_neg (by omega), if_neg (by omega), hpack]
  rfl

theorem retransMissing_eq (hcrc : info.crc = true) (hsize : info.fileSize = info.fd.length) {a : AckResponseData}
    (hstart : 1 ≤ a.startSeq) : ∀ bits : List Nat,
    (∀ i ∈ bits, a.startSeq + i < 2147483648 ∧ (a.startSeq + i - 1) * 958 < info.fd.length) →
    retransMissing info a bits =
      (.ok, (bits.filter fun i => !a.seqResult.getLsbD i).map fun i => retransFrame info (a.startSeq + i))
  | [], _ => rfl
  | i :: bits, h => by
    obtain ⟨hlt, hin⟩ := h i List.mem_cons_self
    have ih := retransMissing_eq hcrc hsize hstart bits fun j hj => h j (List.mem_cons_of_mem _ hj)
    by_cases hbit : a.seqResult.getLsbD i = true
    · rw [retransMissing, if_pos hbit, ih, List.filter_cons_of_neg (by simp [hbit])]
    · have hmod : (a.startSeq + i) % 2 ^ 32 = a.startSeq + i := Nat.mod_eq_of_lt (by omega)
      rw [retransMissing, if_neg hbit, hmod, retransFileFrameBySeq_eq hcrc hsize (by omega) hlt hin, ih,
        List.filter_cons_of_pos (by simp [hbit])]
      rfl

theorem ackResponseDataHandle_eq {a : AckResponseData} (h : info.Asks a.startSeq) (hstart : 1 ≤ a.startSeq) :
    ackResponseDataHandle info a =
      (.ok, ((List.range 32).filter fun i => !a.seqResult.getLsbD i).map fun i => retransFrame info (a.startSeq + i)) := by
  unfold ackResponseDataHandle
  by_cases hall : a.seqResult = fileSendAckResultSuccess
  · have hnone : ((List.range 32).filter fun i => !a.seqResult.getLsbD i) = [] := by
      rw [hall]
      decide
    rw [if_pos hall, hnone]
    rfl
  · rw [if_neg hall]
    refine retransMissing_eq h.crc h.fileSize hstart _ fun i hi => ?_
    have hi32 : i < 32 := List.mem_range.mp hi
    have hmax : maxFileSize = 5242880 := rfl
    have hsize := h.fileSize
    have hle := h.size_le
    have hin : (a.startSeq + i - 1) * 958 < info.fd.length := by
      apply frame_in_file
      · have := h.frameNum
        rw [hsize] at this
        have := h.ongoing
        omega
      · omega
    exact ⟨by omega, hin⟩

end

/-! ## Honest acknowledgements -/

def ackResponse (out : RecvResult) : Option AckResponseData :=
  match out.sent with
  | [frame] =>
    match unpackAckReqAndResData frame.data with
    | .ok (startSeq, value) => some ⟨startSeq, BitVec.ofNat 32 value⟩
    | .error _ => none
  | _ => none

def AckResponseData.Honest (a : AckResponseData) (received : List Nat) : Prop :=
  ∀ i < 32, a.seqResult.getLsbD i = true → a.startSeq + i ∈ received

def AckResponseData.Repaired (a : AckResponseData) (info : SendListenerInfo) (received : List Nat) : Prop :=
  ∀ i < 32, a.startSeq + i ∉ received →
    ∃ frame ∈ (ackResponseDataHandle info a).2, ∃ d, unpackFileDataFrame true frame.data = .ok d ∧
      d.seq = a.startSeq + i

theorem getFileInfoByStartFrame_ok {env : RecvEnv} {frame : List UInt8} {f : SingleFileInfo}
    (h : getFileInfoByStartFrame env true frame = .ok f) :
    ∃ oneFrameLen fileSize path,
      f = { oneFrameLen, fileSize, startSeq := 1, preStartSeq := 1, filePath := path } := by
  unfold getFileInfoByStartFrame at h
  split at h
  · cases h
  · cases hu : unpackFileTransStartInfo true frame with
    | error e => rw [hu] at h; cases h
    | ok info =>
      simp only [hu] at h
      split at h
      · cases h
      · split at h
        · cases h
        · cases hp : env.createDirAndGetAbsPath (getFullRecvPath (cString (SingleFileInfo.ofStartInfo info).filePath)
              env.rootDir) with
          | none => rw [hp] at h; cases h
          | some path =>
            rw [hp] at h
            cases h
            obtain ⟨p, hsizes⟩ : ∃ p, info.sizes = some p := by
              simp only [unpackFileTransStartInfo, if_true] at hu
              split at hu
              · cases hu
              · split at hu
                · cases hu
                · split at hu
                  · cases hu
                  · split at hu
                    · cases hu
                    · cases hu
                      exact ⟨_, rfl⟩
            refine ⟨p.1, p.2, path, ?_⟩
            simp only [SingleFileInfo.ofStartInfo, hsizes]

theorem createFileFromFrame_inv {env : RecvEnv} {rx : Option FileRecipientInfo} {frame : List UInt8}
    {r : FileRecipientInfo} (hok : (createFileFromFrame env rx frame).ret = .ok)
    (hr : (createFileFromFrame env rx frame).recipient = some r) (hcrc : r.crc = true) :
    AckRun.Inv { rx := some r } := by
  unfold createFileFromFrame at hok hr
  cases hget : getRecipientInCreateFileRef env rx with
  | none => rw [hget] at hok; cases hok
  | some r₀ =>
    simp only [hget] at hok hr
    cases hfile : getFileInfoByStartFrame env r₀.crc frame with
    | error e => rw [hfile] at hok; cases hok
    | ok f =>
      simp only [hfile, Except.bind] at hok hr
      cases hput : putToRecvFileList env r₀ f with
      | error e => rw [hput] at hok; cases hok
      | ok r₁ =>
        simp only [hput, Option.some.injEq] at hr
        subst hr
        unfold putToRecvFileList at hput
        split at hput
        · cases hput
        · split at hput
          · cases hput
          · split at hput
            · cases hput
            · cases hput
              simp only at hcrc
              rw [hcrc] at hfile
              obtain ⟨oneFrameLen, fileSize, path, rfl⟩ := getFileInfoByStartFrame_ok hfile
              intro r' hr'
              cases hr'
              exact ⟨hcrc, rfl, by dsimp only; omega, by simp, by simp, by simp, by simp, by simp⟩

theorem ackResponse_of_inv {s : AckRun} (hs : s.Inv) {frame : FileFrame} {a : AckResponseData}
    (h : ackResponse (processFileAckRequest s.rx frame) = some a) :
    1 ≤ a.startSeq ∧ (∀ x ∈ s.current, x ∈ s.received) ∧
      ∀ i < 32, a.seqResult.getLsbD i = decide (a.startSeq - 1 ∈ s.previous ∨ a.startSeq + i ∈ s.current) := by
  rcases processFileAckRequest_cases s.rx frame with ⟨r, st, v, hrx, hu, hout⟩ | ⟨-, hsent, -⟩
  · obtain ⟨-, hb⟩ := hs r hrx
    have hlt := hb.start_lt
    have hmod := hb.start_mod
    have hval : (r.recvFileInfo.seqResult.setWidth 32).toNat < 4294967296 := BitVec.isLt _
    simp only [ackResponse, hout, unpack_packAckReqAndResData hlt hval, Option.some.injEq] at h
    subst h
    refine ⟨by dsimp only; omega, hb.current_received, fun i hi => ?_⟩
    rw [← hb.low i hi, BitVec.ofNat_toNat, BitVec.setWidth_eq, BitVec.getLsbD_setWidth]
    simp [hi]
  · simp [ackResponse, hsent] at h

section
variable {s : AckRun} {frame : FileFrame} {a : AckResponseData}

theorem honest_iff (hs : s.Inv) (h : ackResponse (processFileAckRequest s.rx frame) = some a) :
    a.Honest s.received ↔ a.startSeq - 1 ∉ s.previous ∨ ∀ i < 32, a.startSeq + i ∈ s.received := by
  obtain ⟨-, hsub, hbits⟩ := ackResponse_of_inv hs h
  constructor
  · intro hh
    by_cases hp : a.startSeq - 1 ∈ s.previous
    · refine .inr fun i hi => hh i hi ?_
      rw [hbits i hi]
      exact decide_eq_true (.inl hp)
    · exact .inl hp
  · rintro (hp | hall) i hi hset
    · rw [hbits i hi] at hset
      rcases of_decide_eq_true hset with h | h
      · exact absurd h hp
      · exact hsub _ h
    · exact hall i hi

theorem repaired_of_honest (hs : s.Inv) (h : ackResponse (processFileAckRequest s.rx frame) = some a)
    {info : SendListenerInfo} (hinfo : info.Asks a.startSeq) (hh : a.Honest s.received) :
    a.Repaired info s.received := by
  obtain ⟨hstart, -, -⟩ := ackResponse_of_inv hs h
  intro i hi hmiss
  have hclear : a.seqResult.getLsbD i = false := by
    by_contra hset
    exact hmiss (hh i hi (by simpa using hset))
  have hin : (a.startSeq + i - 1) * 958 < info.fd.length := by
    apply frame_in_file
    · have h₁ := hinfo.frameNum
      rw [hinfo.fileSize] at h₁
      have h₂ := hinfo.ongoing
      omega
    · omega
  have hmax : maxFileSize = 5242880 := rfl
  have hle := hinfo.size_le
  have hsize := hinfo.fileSize
  have hlen := length_frameData info.fd (a.startSeq + i)
  rw [ackResponseDataHandle_eq hinfo hstart]
  refine ⟨retransFrame info (a.startSeq + i), List.mem_map.mpr ⟨i, ?_, rfl⟩,
    ⟨a.startSeq + i, rtuCrc (frameData info.fd (a.startSeq + i)), frameData info.fd (a.startSeq + i)⟩, ?_, rfl⟩
  · exact List.mem_filter.mpr ⟨List.mem_range.mpr hi, by simp [hclear]⟩
  · exact unpack_packFileDataFrame (by omega) (List.ne_nil_of_length_pos (by omega)) (by omega)

end

/-! ## A file of 40000 bytes -/

def openEnv : RecvEnv where
  crc := some true
  rootDir := [0x2F, 0x64]
  createDirAndGetAbsPath := some
  checkRecvFileExist := fun _ => false
  openFile := fun _ => true

def openRecipient : FileRecipientInfo where
  crc := true
  recvState := .start
  recvFileInfo :=
    { fileStatus := .busy, oneFrameLen := 958, startSeq := 1, preStartSeq := 1, fileSize := 40000
      filePath := [0x2F, 0x64, 0x2F, 0x66] }

def dataEvent (seq : Nat) : RecvEvent := .data .ok ⟨.fileOngoineFrame, packFileDataFrame seq [0x2A]⟩

def ackEvent (startSeq : Nat) : RecvEvent :=
  .ackRequest ⟨.fileAckRequestSent, packAckReqAndResData startSeq (startSeq + 31)⟩

theorem openRecipient_created :
    (createFileFromFrame openEnv none (packStartFrame [0x66] 40000)).ret = .ok ∧
      (createFileFromFrame openEnv none (packStartFrame [0x66] 40000)).recipient = some openRecipient := by
  decide +kernel

/-! ## Honesty over runs -/

/-- **Ack bitmap honesty.** In every run of a transfer with checksums, an acknowledgement is
honest, and the sender repeats every frame that is missing in its window, exactly when the last
frame of the window before was not there in time or no frame of the window is missing. -/
theorem ack_honest_iff {env : RecvEnv} {rx : Option FileRecipientInfo} {start : List UInt8} {r : FileRecipientInfo}
    (hok : (createFileFromFrame env rx start).ret = .ok)
    (hr : (createFileFromFrame env rx start).recipient = some r) (hcrc : r.crc = true)
    (run : List RecvEvent) (frame : FileFrame) (a : AckResponseData)
    (ha : ackResponse (processFileAckRequest (Run.final AckRun.next { rx := some r } run).rx frame) = some a) :
    let s := Run.final AckRun.next { rx := some r } run
    (a.Honest s.received ↔ a.startSeq - 1 ∉ s.previous ∨ ∀ i < 32, a.startSeq + i ∈ s.received) ∧
      ∀ info : SendListenerInfo, info.Asks a.startSeq →
        (a.Honest s.received ∧ a.Repaired info s.received ↔
          a.startSeq - 1 ∉ s.previous ∨ ∀ i < 32, a.startSeq + i ∈ s.received) := by
  intro s
  have hs : s.Inv := Run.inv_final_of_step AckRun.inv_next run (createFileFromFrame_inv hok hr hcrc)
  have hiff := honest_iff hs ha
  refine ⟨hiff, fun info hinfo => ⟨fun h => hiff.mp h.1, fun h => ?_⟩⟩
  have hh := hiff.mpr h
  exact ⟨hh, repaired_of_honest hs ha hinfo hh⟩

/-- Two frames of the first window arrive, the other thirty are sent again. -/
theorem ack_honest_first_window :
    let s := Run.final AckRun.next { rx := some openRecipient } [dataEvent 1, dataEvent 2]
    let info := SendListenerInfo.ofFile 1 true (List.replicate 40000 0x2A)
    ackResponse (processFileAckRequest s.rx ⟨.fileAckRequestSent, packAckReqAndResData 1 32⟩) = some ⟨1, 3#32⟩ ∧
      AckResponseData.Honest ⟨1, 3#32⟩ s.received ∧ AckResponseData.Repaired ⟨1, 3#32⟩ info s.received := by
  intro s info
  have ha : ackResponse (processFileAckRequest s.rx ⟨.fileAckRequestSent, packAckReqAndResData 1 32⟩) =
      some ⟨1, 3#32⟩ := by decide +kernel
  have hlen : (List.replicate 40000 (0x2A : UInt8)).length = 40000 := List.length_replicate
  have hasks : info.Asks 1 := asks_ofFile (by rw [hlen]; decide) (by rw [hlen]; decide)
  have hfirst : 1 - 1 ∉ s.previous := by decide +kernel
  exact ⟨ha, ((ack_honest_iff openRecipient_created.1 openRecipient_created.2 rfl _ _ _ ha).2 info hasks).mpr
    (.inl hfirst)⟩

/-- The first window arrives whole, the second not at all, and is reported as received. -/
theorem lost_window_reported_received :
    let s := Run.final AckRun.next { rx := some openRecipient }
      (((List.range 32).map fun k => dataEvent (k + 1)) ++ [ackEvent 1])
    ∃ a, ackResponse (processFileAckRequest s.rx ⟨.fileAckRequestSent, packAckReqAndResData 33 64⟩) = some a ∧
      a.seqResult = fileSendAckResultSuccess ∧ 33 ∉ s.received ∧ ¬ a.Honest s.received := by
  intro s
  have h : ackResponse (processFileAckRequest s.rx ⟨.fileAckRequestSent, packAckReqAndResData 33 64⟩) =
      some ⟨33, fileSendAckResultSuccess⟩ ∧ 33 ∉ s.received := by decide +kernel
  refine ⟨⟨33, fileSendAckResultSuccess⟩, h.1, rfl, h.2, fun hh => h.2 ?_⟩
  exact hh 0 (by decide) (by decide)

end SoftBus
