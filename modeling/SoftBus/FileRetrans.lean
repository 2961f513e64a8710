import SoftBus.AckBitmap

/-!
# Frames that are sent again

`FileToFrame` reads a file from front to back, `RetransFileFrameBySeq` computes the place of a frame from its number. Both
build the same frame. The frames `FileToFrame` sends are collected along its loop.
-/

namespace SoftBus

open BlockFile

def getAndCheckFileSize (fileSize : Nat) (crc : Bool) : Except SoftbusRet (Nat × Nat) :=
  if maxFileSize < fileSize then .error .fileErr else .ok (fileSize, getFrameNum fileSize crc)

def sendFramesLog (ch : FileChannel) (destFile : List UInt8) :
    (n index fileOffset remainedSendSize : Nat) → FileLink → List (Nat × FileFrame) × Except FileLink FileLink
  | 0, _, _, _, l => ([], .ok l)
  | n + 1, index, fileOffset, remainedSendSize, l =>
    let frameType := frameIndexToType index l.tx.frameNum
    if index = 0 then
      match packFileTransStartInfo l.tx destFile with
      | .error _ => ([], .error l)
      | .ok data =>
        match sendOneFrame ch index ⟨frameType, data⟩ l with
        | .error l' => ([(index, ⟨frameType, data⟩)], .error l')
        | .ok l' =>
          let rest := sendFramesLog ch destFile n (index + 1) fileOffset remainedSendSize l'
          ((index, ⟨frameType, data⟩) :: rest.1, rest.2)
    else
      match packReadFileData l.tx (min remainedSendSize (frameDataSize l.tx.crc)) fileOffset with
      | .error _ => ([], .error l)
      | .ok (data, len, tx) =>
        match sendOneFrame ch index ⟨frameType, data⟩ { l with tx := tx } with
        | .error l' => ([(index, ⟨frameType, data⟩)], .error l')
        | .ok l' =>
          let rest := sendFramesLog ch destFile n (index + 1) (fileOffset + len) (remainedSendSize - len) l'
          ((index, ⟨frameType, data⟩) :: rest.1, rest.2)

/-! ## The data frames of a file -/

def dataFrames (src : List UInt8) : Nat := getFrameNum src.length true - 1

theorem frameData_eq (src : List UInt8) (seq : Nat) : frameData src seq = pread src 958 ((seq - 1) * 958) := by
  rw [frameData, frameDataSize_true]

section
variable {src : List UInt8} {n s : Nat}

theorem dataFrames_bounds (h : s ≤ dataFrames src) (hs : 1 ≤ s) : (s - 1) * 958 < src.length := by
  apply frame_in_file _ hs
  simp only [dataFrames] at h
  omega

theorem dataFrames_le (hsize : src.length ≤ maxFileSize) : dataFrames src ≤ 5473 := by
  have hmax : maxFileSize = 5242880 := rfl
  simp only [dataFrames, getFrameNum, frameDataSize_true]
  split <;> omega

theorem frame_end (h : s ≤ dataFrames src) (hs : 1 ≤ s) :
    (s - 1) * 958 + (frameData src s).length = min (s * 958) src.length := by
  have hin := dataFrames_bounds h hs
  rw [length_frameData]
  omega

theorem frameData_ne_nil (h : s ≤ dataFrames src) (hs : 1 ≤ s) : frameData src s ≠ [] := by
  have hin := dataFrames_bounds h hs
  have hlen := length_frameData src s
  exact List.ne_nil_of_length_pos (by omega)

theorem pread_min (f : List UInt8) (len off : Nat) : pread f (min (f.length - off) len) off = pread f len off := by
  rw [pread, pread, ← List.length_drop, List.take_eq_take_min, List.take_eq_take_min (i := len),
    Nat.min_right_comm, Nat.min_self, Nat.min_comm]

theorem packReadFileData_eq {info : SendListenerInfo} (hcrc : info.crc = true) (hfd : info.fd = src)
    (hn : n + 1 ≤ dataFrames src) :
    packReadFileData info (min (src.length - min (n * 958) src.length) 958) (min (n * 958) src.length) =
      .ok (packFileDataFrame ((info.seq + 1) % 2 ^ 32) (frameData src (n + 1)), (frameData src (n + 1)).length,
        { info with
          seq := (info.seq + 1) % 2 ^ 32
          checkSumCRC := (info.checkSumCRC + rtuCrc (frameData src (n + 1))) % 2 ^ 64 }) := by
  have hin := dataFrames_bounds hn (by omega)
  rw [Nat.add_sub_cancel] at hin
  have hlen := length_frameData src (n + 1)
  have hpos := List.length_pos_iff.mpr (frameData_ne_nil hn (by omega))
  have hread : pread src (min (src.length - n * 958) 958) (n * 958) = frameData src (n + 1) := by
    rw [pread_min, frameData_eq, Nat.add_sub_cancel]
  obtain ⟨h₁, h₂, h₃⟩ := frame_consts
  have h₄ : proxyMaxPacketSize = 976 := rfl
  rw [Nat.min_eq_left hin.le]
  unfold packReadFileData
  simp only [hfd, hread]
  rw [if_neg (by omega), if_pos hcrc, if_neg (by omega)]

theorem frameNum_eq (src : List UInt8) : getFrameNum src.length true = dataFrames src + 1 := by
  simp only [dataFrames, getFrameNum]
  omega

end

/-! ## What sending leaves as it is -/

structure SendListenerInfo.Reads (info : SendListenerInfo) (src : List UInt8) (n : Nat) : Prop where
  crc : info.crc = true
  fd : info.fd = src
  fileSize : info.fileSize = src.length
  frameNum : info.frameNum = getFrameNum src.length true
  seq : info.seq = n

section
variable {src : List UInt8} {n : Nat} {l l' : FileLink} {ch : FileChannel}

theorem receive_reads (h : l.tx.Reads src n) (frame : FileFrame) : (l.receive frame).tx.Reads src n := by
  unfold FileLink.receive
  split
  · split
    · exact h
    · exact h
  · split
    · exact h
    · split
      · exact { h with }
      · exact h
  · exact h

theorem transmit_reads (h : l.tx.Reads src n) (frame : FileFrame) : (l.transmit ch frame).tx.Reads src n := by
  have hfold : ∀ (frames : List FileFrame) {l : FileLink}, l.tx.Reads src n →
      (frames.foldl FileLink.receive l).tx.Reads src n := by
    intro frames
    induction frames with
    | nil => exact fun h => h
    | cons frame frames ih => exact fun h => ih (receive_reads h frame)
  exact hfold _ h

theorem foldl_transmit_reads : ∀ (frames : List FileFrame) {l : FileLink}, l.tx.Reads src n →
    (frames.foldl (FileLink.transmit ch) l).tx.Reads src n
  | [], _, h => h
  | frame :: frames, _, h => foldl_transmit_reads frames (transmit_reads h frame)

theorem sendOneFrameRear_reads {index : Nat} {frameType : SessionPktType} (h : l.tx.Reads src n)
    (hok : sendOneFrameRear ch index frameType l = .ok l') : l'.tx.Reads src n := by
  unfold sendOneFrameRear at hok
  split at hok
  · exact Except.ok.inj hok ▸ h
  split at hok
  · split at hok
    · exact Except.ok.inj hok ▸ h
    · exact nomatch hok
  split at hok
  · exact Except.ok.inj hok ▸ h
  split at hok
  · next data _ =>
    dsimp only at hok
    split at hok
    · rw [← Except.ok.inj hok]
      exact { foldl_transmit_reads (ackResponseDataHandle l.tx data).2 h with }
    · exact nomatch hok
  · split at hok
    · rw [← Except.ok.inj hok]
      exact { h with }
    · exact nomatch hok

theorem sendOneFrame_reads {index : Nat} {frame : FileFrame} (h : l.tx.Reads src n)
    (hok : sendOneFrame ch index frame l = .ok l') : l'.tx.Reads src n := by
  have hfront : (sendOneFrameFront frame.frameType l).tx.Reads src n := by
    unfold sendOneFrameFront
    split
    · exact { h with }
    · exact h
  unfold sendOneFrame at hok
  dsimp only at hok
  generalize hsent : (if index ≠ 0 ∧ ch.lost index then sendOneFrameFront frame.frameType l
    else (sendOneFrameFront frame.frameType l).transmit ch frame) = sent at hok
  have hreads : sent.tx.Reads src n := by
    rw [← hsent]
    split
    · exact hfront
    · exact transmit_reads hfront frame
  have hmiddle : (sendOneFrameMiddle ch frame.frameType sent).tx.Reads src n := by
    unfold sendOneFrameMiddle
    split
    · refine transmit_reads ?_ _
      exact { hreads with }
    · exact hreads
  cases hrear : sendOneFrameRear ch index frame.frameType (sendOneFrameMiddle ch frame.frameType sent) with
  | error => exact nomatch (by rwa [hrear] at hok : Except.error _ = Except.ok l')
  | ok l'' =>
    have hreads' := sendOneFrameRear_reads hmiddle hrear
    rw [hrear] at hok
    simp only [Except.bind] at hok
    split at hok
    · exact nomatch hok
    · exact Except.ok.inj hok ▸ hreads'

end

/-! ## The frames of a file -/

def dataFrameOf (src : List UInt8) (s : Nat) : FileFrame :=
  ⟨frameIndexToType s (getFrameNum src.length true), packFileDataFrame s (frameData src s)⟩

section
variable {src : List UInt8} {n : Nat} {info : SendListenerInfo}

theorem retransFileFrameBySeq_of_reads (h : info.Reads src n) (hsize : src.length ≤ maxFileSize) {s : Nat} (hs : 1 ≤ s)
    (hlt : s < getFrameNum src.length true) : retransFileFrameBySeq info s = .ok [dataFrameOf src s] := by
  have hmax := dataFrames_le hsize
  rw [frameNum_eq] at hlt
  have hin := dataFrames_bounds (Nat.le_of_lt_succ hlt) hs
  rw [retransFileFrameBySeq_eq h.crc (h.fileSize.trans (by rw [h.fd])) hs (by omega) (by rw [h.fd]; exact hin)]
  unfold retransFrame dataFrameOf
  rw [h.fd, h.frameNum]

theorem packReadFileData_of_reads (h : info.Reads src n) (hsize : src.length ≤ maxFileSize) (hn : n + 1 ≤ dataFrames src) :
    ∃ info', packReadFileData info (min (src.length - min (n * 958) src.length) 958) (min (n * 958) src.length) =
      .ok (packFileDataFrame (n + 1) (frameData src (n + 1)), (frameData src (n + 1)).length, info') ∧
      info'.Reads src (n + 1) := by
  have hmax := dataFrames_le hsize
  have hseq : (n + 1) % 2 ^ 32 = n + 1 := Nat.mod_eq_of_lt (by omega)
  rw [packReadFileData_eq h.crc h.fd hn, h.seq, hseq]
  exact ⟨_, rfl, ⟨h.crc, h.fd, h.fileSize, h.frameNum, rfl⟩⟩

theorem sendFramesLog_data {ch : FileChannel} {destFile : List UInt8} (hsize : src.length ≤ maxFileSize) :
    ∀ (k n : Nat) {l : FileLink}, l.tx.Reads src n → n + k ≤ dataFrames src →
      ∀ log, log = sendFramesLog ch destFile k (n + 1) (min (n * 958) src.length)
        (src.length - min (n * 958) src.length) l →
      (∀ entry ∈ log.1, entry.2 = dataFrameOf src entry.1) ∧
      (log.2.isOk = true → ∀ s, n < s → s ≤ n + k → (s, dataFrameOf src s) ∈ log.1)
  | 0, n, l, _, _, log, hlog => by
    subst hlog
    exact ⟨fun _ hmem => absurd hmem List.not_mem_nil, fun _ s h₁ h₂ => by omega⟩
  | k + 1, n, l, h, hk, log, hlog => by
    obtain ⟨info', hpack, hreads⟩ := packReadFileData_of_reads h hsize (by omega)
    have hle : n + 1 ≤ dataFrames src := by omega
    have hend := frame_end hle (by omega)
    have hin := dataFrames_bounds hle (by omega)
    rw [Nat.add_sub_cancel] at hend hin
    have hframe : (⟨frameIndexToType (n + 1) l.tx.frameNum, packFileDataFrame (n + 1) (frameData src (n + 1))⟩ : FileFrame) =
        dataFrameOf src (n + 1) := by
      rw [h.frameNum]
      rfl
    unfold sendFramesLog at hlog
    dsimp only at hlog
    rw [if_neg (by omega), h.crc, frameDataSize_true, hpack] at hlog
    dsimp only at hlog
    rw [hframe] at hlog
    cases hsend : sendOneFrame ch (n + 1) (dataFrameOf src (n + 1)) { l with tx := info' } with
    | error l' =>
      rw [hsend] at hlog
      subst hlog
      refine ⟨fun entry hmem => ?_, fun hok => nomatch hok⟩
      rw [List.mem_singleton.mp hmem]
    | ok l' =>
      rw [hsend, show min (n * 958) src.length + (frameData src (n + 1)).length = min ((n + 1) * 958) src.length by omega,
        show src.length - min (n * 958) src.length - (frameData src (n + 1)).length =
          src.length - min ((n + 1) * 958) src.length by omega] at hlog
      obtain ⟨heq, hall⟩ := sendFramesLog_data hsize k (n + 1) (sendOneFrame_reads hreads hsend) (by omega) _ rfl
      subst hlog
      refine ⟨fun entry hmem => ?_, fun hok s h₁ h₂ => ?_⟩
      · rcases List.mem_cons.mp hmem with rfl | hmem
        · rfl
        · exact heq entry hmem
      · by_cases hs : s = n + 1
        · subst hs
          exact List.mem_cons_self
        · exact List.mem_cons_of_mem _ (hall hok s (by omega) (by omega))

end

/-- A frame that is sent again is the frame that was sent first, whatever has happened on the channel since then. -/
theorem retrans_eq_original (ch : FileChannel) (destFile : List UInt8) (channelId : Int) (src : List UInt8)
    (rx : Option FileRecipientInfo) (fileSize frameNum : Nat)
    (hcheck : getAndCheckFileSize src.length true = .ok (fileSize, frameNum)) (s : Nat) (hs : 1 ≤ s) (hlt : s < frameNum)
    (info : SendListenerInfo) (n : Nat) (hreads : info.Reads src n) :
    let log := sendFramesLog ch destFile frameNum 0 0 fileSize { tx := .ofFile channelId true src, rx := rx }
    ∃ frame, retransFileFrameBySeq info s = .ok [frame] ∧ (∀ frame', (s, frame') ∈ log.1 → frame' = frame) ∧
      (log.2.isOk = true → (s, frame) ∈ log.1) := by
  unfold getAndCheckFileSize at hcheck
  split at hcheck
  · exact nomatch hcheck
  next hsize =>
  rw [Nat.not_lt] at hsize
  obtain ⟨rfl, rfl⟩ := Prod.mk.inj (Except.ok.inj hcheck)
  refine ⟨dataFrameOf src s, retransFileFrameBySeq_of_reads hreads hsize hs hlt, ?_⟩
  have hfirst : SendListenerInfo.Reads (.ofFile channelId true src) src 0 := ⟨rfl, rfl, rfl, rfl, rfl⟩
  rw [frameNum_eq] at hlt
  generalize hlog : sendFramesLog ch destFile (getFrameNum src.length true) 0 0 src.length
    { tx := .ofFile channelId true src, rx := rx } = log
  rw [frameNum_eq] at hlog
  unfold sendFramesLog at hlog
  dsimp only at hlog
  rw [if_pos rfl] at hlog
  cases hpack : packFileTransStartInfo (.ofFile channelId true src) destFile with
  | error =>
    rw [hpack] at hlog
    subst hlog
    exact ⟨fun _ hmem => absurd hmem List.not_mem_nil, fun hok => nomatch hok⟩
  | ok data =>
    rw [hpack] at hlog
    dsimp only at hlog
    split at hlog
    · subst hlog
      refine ⟨fun frame' hmem => ?_, fun hok => nomatch hok⟩
      have hzero := congrArg Prod.fst (List.mem_singleton.mp hmem)
      dsimp only at hzero
      omega
    · next l' hsend =>
      have hreads' := sendOneFrame_reads hfirst hsend
      obtain ⟨heq, hall⟩ := sendFramesLog_data hsize (dataFrames src) 0 hreads' (by omega) _ rfl
      rw [Nat.zero_mul, Nat.zero_min, Nat.sub_zero] at heq hall
      subst hlog
      refine ⟨fun frame' hmem => ?_, fun hok => List.mem_cons_of_mem _ (hall hok s (by omega) (by omega))⟩
      rcases List.mem_cons.mp hmem with hzero | hmem
      · have hzero := congrArg Prod.fst hzero
        dsimp only at hzero
        omega
      · exact heq _ hmem

/-- A file of 2000 bytes, in three frames: the second one is sent again. -/
theorem retrans_eq_original_short :
    let ch : FileChannel := ⟨openEnv, fun _ => false, fun _ => true⟩
    let src := List.replicate 2000 7
    let log := sendFramesLog ch [0x66] 4 0 0 2000 { tx := .ofFile 1 true src }
    log.2.isOk = true ∧ ∃ frame, retransFileFrameBySeq (.ofFile 1 true src) 2 = .ok [frame] ∧
      (∀ frame', (2, frame') ∈ log.1 → frame' = frame) ∧ (log.2.isOk = true → (2, frame) ∈ log.1) :=
  ⟨by decide +kernel, retrans_eq_original ⟨openEnv, fun _ => false, fun _ => true⟩ [0x66] 1 (List.replicate 2000 7) none
    2000 4 (by decide +kernel) 2 (by decide) (by decide) (.ofFile 1 true (List.replicate 2000 7)) 0 ⟨rfl, rfl, rfl, rfl, rfl⟩⟩

end SoftBus
