import SoftBus.DFileBlock

/-!
# When a received file is complete

`FileInv` ties what the task knows of a file to what it has written; the bytes on
disk are those of the blocks written (`BlockFile.ofBlocks`). A file whose counter is
full is complete unless a block was written twice.
-/

namespace SoftBus

/-! ## Blocks of a file -/

theorem getStandardBlockSize_le {maxFrameLength : Nat} {key : Bool} (h : 0 < getStandardBlockSize maxFrameLength key) :
    getStandardBlockSize maxFrameLength key + fileDataFrameLen + (if key then gcmAddedLen else 0) ≤ maxFrameLength := by
  unfold getStandardBlockSize at h ⊢
  have := Nat.mod_le (maxFrameLength - fileDataFrameLen - gcmAddedLen) 65536
  have := Nat.mod_le (maxFrameLength - fileDataFrameLen) 65536
  by_cases hshort : maxFrameLength ≤ fileDataFrameLen
  · rw [if_pos hshort] at h
    omega
  rw [if_neg hshort] at h ⊢
  cases key with
  | false =>
    simp only [Bool.false_eq_true, ↓reduceIte]
    omega
  | true =>
    simp only [↓reduceIte] at h ⊢
    by_cases htag : maxFrameLength - fileDataFrameLen ≤ gcmAddedLen
    · rw [if_pos htag] at h
      omega
    · rw [if_neg htag]
      omega

def blockCount (size block : Nat) : Nat := size / block + if size % block ≠ 0 then 1 else 0

theorem lt_blockCount_iff {size block : Nat} (hblock : 0 < block) (b : Nat) : b < blockCount size block ↔ b * block < size := by
  unfold blockCount
  by_cases hr : size % block = 0
  · rw [if_neg (not_not.mpr hr), Nat.add_zero, Nat.lt_div_iff_mul_lt' (Nat.dvd_of_mod_eq_zero hr), Nat.mul_comm]
  · rw [if_pos hr, Nat.lt_succ_iff, Nat.le_div_iff_mul_le hblock]
    refine ⟨fun hle => Nat.lt_of_le_of_ne hle fun heq => hr ?_, Nat.le_of_lt⟩
    rw [← heq, Nat.mul_mod_left]

namespace DFileTransfer
variable {α : Type}

structure Valid (p : DFileTransfer α) : Prop where
  block : 0 < p.standardBlockSize
  frame : p.maxFrameLength ≤ nstackxMaxFrameSize
  size : ∀ id, (p.file id).fileSize < 2147483648 * p.standardBlockSize
  -- what `off_t` holds
  data : ∀ id, (p.file id).data.length < 9223372036854775808

variable {p : DFileTransfer α}

theorem Valid.blockSize_le (h : p.Valid) :
    p.standardBlockSize + fileDataFrameLen + (if p.crypt.isSome then gcmAddedLen else 0) ≤ nstackxMaxFrameSize := by
  have := getStandardBlockSize_le h.block
  exact Nat.le_trans this h.frame

theorem Valid.lt_totalBlockNum_iff (h : p.Valid) (id b : Nat) :
    b < (p.fileInfo id).totalBlockNum ↔ b * p.standardBlockSize < (p.file id).fileSize := by
  have hdiv := Nat.div_lt_of_lt_mul (Nat.mul_comm 2147483648 _ ▸ h.size id)
  rw [← lt_blockCount_iff h.block]
  unfold fileInfo FileInfo.add blockCount
  dsimp only
  rw [Nat.mod_eq_of_lt (by split <;> omega)]

theorem totalBlockNum_lt (p : DFileTransfer α) (id : Nat) : (p.fileInfo id).totalBlockNum < 4294967296 :=
  Nat.mod_lt _ (by decide)

theorem Valid.targetLength_eq (h : p.Valid) {id b : Nat} (hb : b < (p.fileInfo id).totalBlockNum) :
    targetLength (p.fileInfo id) b = min p.standardBlockSize ((p.file id).fileSize - b * p.standardBlockSize) := by
  have hlt := (h.lt_totalBlockNum_iff id b).mp hb
  have hnext := h.lt_totalBlockNum_iff id (b + 1)
  have := p.totalBlockNum_lt id
  have := h.blockSize_le
  have hle : p.standardBlockSize ≤ nstackxMaxFrameSize := by omega
  unfold nstackxMaxFrameSize at hle
  rw [Nat.add_mul, Nat.one_mul] at hnext
  unfold targetLength
  rw [show (p.fileInfo id).fileSize = (p.file id).fileSize from rfl,
    show (p.fileInfo id).standardBlockSize = p.standardBlockSize from rfl, Nat.mul_comm p.standardBlockSize b]
  split
  · rw [Nat.mod_eq_of_lt (by omega)]
    omega
  · omega

def plainPayload (p : DFileTransfer α) (payload : List UInt8) : List UInt8 :=
  match p.crypt with
  | none => payload
  | some crypt => crypt.decrypt payload

structure Honest (p : DFileTransfer α) (frame : FileDataFrame) : Prop where
  transId : frame.transId = p.transId
  fileId : 1 ≤ frame.fileId ∧ frame.fileId ≤ p.fileNum
  payload : frame.blockSequence < (p.fileInfo frame.fileId).totalBlockNum →
    frame.length + 8 - fileDataFrameLen = frame.blockPayload.length ∧
    (p.file frame.fileId).startOffset + frame.blockSequence * p.standardBlockSize +
      targetLength (p.fileInfo frame.fileId) frame.blockSequence ≤ (p.file frame.fileId).data.length ∧
    p.plainPayload frame.blockPayload = BlockFile.pread (p.file frame.fileId).data
        (targetLength (p.fileInfo frame.fileId) frame.blockSequence)
      ((p.file frame.fileId).startOffset + frame.blockSequence * p.standardBlockSize)

/-- A block that was read, as the payload of its frame. -/
theorem Valid.honest_frame (h : p.Valid) {id seq : Nat} (hid : ¬ (id = 0 ∨ p.fileNum < id)) {buffer payload : List UInt8}
    (hread : getDataFrame.read p id seq = some buffer) (retran : Bool) (hplain : p.plainPayload payload = buffer)
    (hlength : payload.length ≤ buffer.length + if p.crypt.isSome then gcmAddedLen else 0) :
    p.Honest (getDataFrame.frame p id seq retran payload) := by
  unfold getDataFrame.read readFromFile at hread
  rw [Nat.mul_comm p.standardBlockSize seq] at hread
  split at hread
  case isFalse => cases hread
  case isTrue hlen =>
    obtain rfl := Option.some.inj hread
    refine ⟨rfl, ⟨Nat.pos_of_ne_zero fun h => hid (.inl h), Nat.le_of_not_lt fun h => hid (.inr h)⟩, fun hseq => ?_⟩
    have hseq : seq < (p.fileInfo id).totalBlockNum := hseq
    have hlt := (h.lt_totalBlockNum_iff id seq).mp hseq
    have hB := h.block
    have hmax := h.blockSize_le
    have htarget := h.targetLength_eq hseq
    rw [hlen] at hlength
    have hlen : (BlockFile.pread (p.file id).data (targetLength (p.fileInfo id) seq)
        ((p.file id).startOffset + seq * p.standardBlockSize)).length = targetLength (p.fileInfo id) seq := hlen
    rw [BlockFile.length_pread] at hlen
    refine ⟨?_, ?_, hplain⟩
    · simp only [getDataFrame.frame, fileDataFrameLen, nstackxMaxFrameSize] at hmax ⊢
      omega
    · dsimp only [getDataFrame.frame]
      omega

theorem Valid.honest (h : p.Valid) {id seq iv : Nat} {retran : Bool} {frame : FileDataFrame}
    (hget : p.getDataFrame id seq iv retran = some frame) : p.Honest frame := by
  unfold getDataFrame at hget
  split at hget
  · cases hget
  case isFalse hid =>
    split at hget
    case h_1 crypt hcrypt =>
      split at hget
      · cases hget
      · obtain ⟨buffer, hread, rfl⟩ := Option.map_eq_some_iff.mp hget
        refine h.honest_frame hid hread retran ?_ ?_
        · rw [plainPayload, hcrypt]
          exact crypt.decrypt_encrypt iv buffer
        · rw [hcrypt, crypt.length_encrypt]
          exact Nat.le_refl _
    case h_2 hcrypt =>
      obtain ⟨buffer, hread, rfl⟩ := Option.map_eq_some_iff.mp hget
      exact h.honest_frame hid hread retran (by rw [plainPayload, hcrypt]) (Nat.le_add_right _ _)

end DFileTransfer

/-! ## What a step does to a file -/

namespace RecvTask
variable {α : Type} {p : DFileTransfer α}

def blocksOf (p : DFileTransfer α) (id : Nat) (blocks : List Nat) : Nat → Option UInt8 :=
  BlockFile.ofBlocks (p.file id).data (p.file id).startOffset (p.file id).fileSize p.standardBlockSize blocks

structure FileInv (p : DFileTransfer α) (t : RecvTask α) (id : Nat) : Prop where
  static : t.fileInfo id = { p.fileInfo id with
    receivedBlockNum := (t.written id).length, fd := (t.fileInfo id).fd, errCode := (t.fileInfo id).errCode }
  le : (t.written id).length ≤ (p.fileInfo id).totalBlockNum
  lt : ∀ b ∈ t.written id, b < (p.fileInfo id).totalBlockNum
  src : ∀ b ∈ t.written id, (p.file id).startOffset + b * p.standardBlockSize +
    min p.standardBlockSize ((p.file id).fileSize - b * p.standardBlockSize) ≤ (p.file id).data.length
  opened : (t.fileInfo id).fd = true ∨ t.written id ≠ [] → t.disk (p.file id).fileName = blocksOf p id (t.written id)
  closed : (t.fileInfo id).fd = false → (t.fileInfo id).errCode = false →
    (t.written id).length < (p.fileInfo id).totalBlockNum → t.written id = []
  success : (id, true) ∈ t.msgs → (t.written id).length = (p.fileInfo id).totalBlockNum

structure Inv (p : DFileTransfer α) (t : RecvTask α) : Prop where
  files : ∀ id, 1 ≤ id → id ≤ p.fileNum → FileInv p t id
  queued : ∀ frame ∈ t.recvBlockList, p.Honest frame
  inner : ∀ frame ∈ t.innerRecvBlock, p.Honest frame

variable {t t' : RecvTask α} {id : Nat}

theorem FileInv.congr (h : FileInv p t id) (hinfo : t'.fileInfo id = t.fileInfo id)
    (hwritten : t'.written id = t.written id)
    (hdisk : t'.disk (p.file id).fileName = t.disk (p.file id).fileName) (hmsgs : (id, true) ∈ t'.msgs → (id, true) ∈ t.msgs) :
    FileInv p t' id := by
  refine ⟨?_, ?_, ?_, ?_, ?_, ?_, fun hmem => ?_⟩
  · rw [hinfo, hwritten]
    exact h.static
  · rw [hwritten]
    exact h.le
  · rw [hwritten]
    exact h.lt
  · rw [hwritten]
    exact h.src
  · rw [hinfo, hwritten, hdisk]
    exact h.opened
  · rw [hinfo, hwritten]
    exact h.closed
  · rw [hwritten]
    exact h.success (hmsgs hmem)

theorem FileInv.total (h : FileInv p t id) : (t.fileInfo id).totalBlockNum = (p.fileInfo id).totalBlockNum := by
  rw [h.static]

theorem FileInv.received (h : FileInv p t id) : (t.fileInfo id).receivedBlockNum = (t.written id).length := by
  rw [h.static]

structure Touches (p : DFileTransfer α) (t : RecvTask α) (id : Nat) (t' : RecvTask α) : Prop where
  info : ∀ other ≠ id, t'.fileInfo other = t.fileInfo other
  written : ∀ other ≠ id, t'.written other = t.written other
  disk : ∀ name ≠ (p.file id).fileName, t'.disk name = t.disk name
  msgs : ∀ other ≠ id, (other, true) ∈ t'.msgs → (other, true) ∈ t.msgs
  queued : t'.recvBlockList = t.recvBlockList
  inner : t'.innerRecvBlock = t.innerRecvBlock

theorem Inv.congr (h : Inv p t) (hinfo : t'.fileInfo = t.fileInfo) (hwritten : t'.written = t.written)
    (hdisk : t'.disk = t.disk)
    (hmsgs : t'.msgs = t.msgs) (hqueued : ∀ frame ∈ t'.recvBlockList, p.Honest frame)
    (hinner : ∀ frame ∈ t'.innerRecvBlock, p.Honest frame) : Inv p t' := by
  refine ⟨fun id hpos hle => ?_, hqueued, hinner⟩
  exact (h.files id hpos hle).congr (by rw [hinfo]) (by rw [hwritten]) (by rw [hdisk]) (by rw [hmsgs]; exact fun hmem => hmem)

theorem Touches.refl (t : RecvTask α) (id : Nat) : Touches p t id t :=
  ⟨fun _ _ => rfl, fun _ _ => rfl, fun _ _ => rfl, fun _ _ h => h, rfl, rfl⟩

theorem Touches.trans {t'' : RecvTask α} (h : Touches p t id t') (h' : Touches p t' id t'') : Touches p t id t'' :=
  ⟨fun o ho => (h'.info o ho).trans (h.info o ho), fun o ho => (h'.written o ho).trans (h.written o ho),
    fun n hn => (h'.disk n hn).trans (h.disk n hn), fun o ho hmem => h.msgs o ho (h'.msgs o ho hmem),
    h'.queued.trans h.queued, h'.inner.trans h.inner⟩

def Distinct (p : DFileTransfer α) : Prop :=
  ∀ i j, 1 ≤ i → i ≤ p.fileNum → 1 ≤ j → j ≤ p.fileNum → (p.file i).fileName = (p.file j).fileName → i = j

theorem Inv.touch (h : Inv p t) (hd : Distinct p) (htouch : Touches p t id t') (hid : 1 ≤ id ∧ id ≤ p.fileNum)
    (hfile : FileInv p t' id) : Inv p t' := by
  refine ⟨fun other hpos hle => ?_, htouch.queued ▸ h.queued, htouch.inner ▸ h.inner⟩
  by_cases heq : other = id
  · rw [heq]
    exact hfile
  · refine (h.files other hpos hle).congr (htouch.info other heq) (htouch.written other heq) (htouch.disk _ fun hname => ?_)
      (htouch.msgs other heq)
    exact heq (hd other id hpos hle hid.1 hid.2 hname)

theorem touches_setFile (t : RecvTask α) (id : Nat) (info : FileInfo α) : Touches p t id (t.setFile id info) :=
  ⟨fun _ ho => Function.update_of_ne ho _ _, fun _ _ => rfl, fun _ _ => rfl, fun _ _ h => h, rfl, rfl⟩

theorem FileInv.setErr (h : FileInv p t id) : FileInv p (t.setFile id { t.fileInfo id with errCode := true }) id := by
  have hinfo : (t.setFile id { t.fileInfo id with errCode := true }).fileInfo id = { t.fileInfo id with errCode := true } :=
    Function.update_self ..
  refine ⟨?_, h.le, h.lt, h.src, ?_, ?_, h.success⟩
  · rw [hinfo, h.static]
    rfl
  · rw [hinfo]
    exact h.opened
  · rw [hinfo]
    intro _ herr
    cases herr

theorem touches_fileProcessed (t : RecvTask α) (id : Nat) (success : Bool) :
    Touches p t id (t.fileProcessed id success) := by
  refine ⟨fun _ ho => Function.update_of_ne ho _ _, fun _ _ => rfl, fun _ _ => rfl, fun other ho hmem => ?_, rfl, rfl⟩
  rcases List.mem_append.mp hmem with hmem | hmem
  · exact hmem
  · rw [List.mem_singleton] at hmem
    exact absurd (congrArg Prod.fst hmem) ho

theorem FileInv.fileProcessed (h : FileInv p t id) {success : Bool}
    (hend : (t.fileInfo id).errCode = true ∨ (t.written id).length = (p.fileInfo id).totalBlockNum)
    (hsuccess : success = true → (t.written id).length = (p.fileInfo id).totalBlockNum) :
    FileInv p (t.fileProcessed id success) id := by
  have hinfo : (t.fileProcessed id success).fileInfo id = { t.fileInfo id with fd := false } := Function.update_self ..
  refine ⟨?_, h.le, h.lt, h.src, ?_, ?_, ?_⟩
  · rw [hinfo, h.static]
    rfl
  · rw [hinfo]
    rintro (hfd | hne)
    · cases hfd
    · exact h.opened (.inr hne)
  · rw [hinfo]
    intro _ herr hlt
    rcases hend with hend | hend
    · rw [show (t.fileInfo id).errCode = false from herr] at hend
      cases hend
    · exact absurd hend (Nat.ne_of_lt hlt)
  · intro hmem
    rcases List.mem_append.mp hmem with hmem | hmem
    · exact h.success hmem
    · rw [List.mem_singleton] at hmem
      exact hsuccess (congrArg Prod.snd hmem).symm

theorem FileInv.fileName (h : FileInv p t id) : (t.fileInfo id).fileName = (p.file id).fileName := by
  rw [h.static]
  rfl

theorem FileInv.updateFileListRecvStatus (h : FileInv p t id) {ret : Bool}
    (herr : ret = false → (t.fileInfo id).errCode = true) :
    FileInv p (t.updateFileListRecvStatus id ret) id := by
  unfold RecvTask.updateFileListRecvStatus
  cases ret with
  | false => exact h.fileProcessed (.inl (herr rfl)) (fun hfalse => by cases hfalse)
  | true =>
    simp only [Bool.not_true, Bool.false_eq_true, ↓reduceIte]
    split
    · exact h
    · rename_i hfull
      rw [h.total, h.received] at hfull
      have := h.le
      have hlen : (t.written id).length = (p.fileInfo id).totalBlockNum := by omega
      exact h.fileProcessed (.inr hlen) (fun _ => hlen)

theorem touches_updateFileListRecvStatus (t : RecvTask α) (id : Nat) (ret : Bool) :
    Touches p t id (t.updateFileListRecvStatus id ret) := by
  unfold updateFileListRecvStatus
  split
  · exact touches_fileProcessed t id false
  split
  · exact Touches.refl t id
  · exact touches_fileProcessed t id true

theorem Inv.fileListRefreshFileRecvStatus (hd : Distinct p) (h : Inv p t) :
    ∀ n ≤ p.fileNum, Inv p (t.fileListRefreshFileRecvStatus n)
  | 0, _ => h
  | n + 1, hn => by
    have ih := Inv.fileListRefreshFileRecvStatus hd h n (by omega)
    unfold RecvTask.fileListRefreshFileRecvStatus
    split
    · have hid : 1 ≤ n + 1 ∧ n + 1 ≤ p.fileNum := ⟨by omega, hn⟩
      refine ih.touch hd ?_ hid ?_
      · refine (touches_setFile _ _ _).trans ⟨fun _ _ => rfl, fun _ _ => rfl, fun _ _ => rfl, fun other ho hmem => ?_, rfl, rfl⟩
        simpa [notifyFileMsg] using hmem
      · refine (ih.files (n + 1) (by omega) hn).setErr.congr rfl rfl rfl fun hmem => ?_
        simpa [notifyFileMsg] using hmem
    · exact ih

variable [DecidableEq α]

theorem touches_fileInfoWriteInit (h : FileInv p t id) (io : FileIo) : Touches p t id (t.fileInfoWriteInit id io) := by
  unfold fileInfoWriteInit
  split
  · exact touches_setFile t id _
  · refine ⟨fun _ ho => Function.update_of_ne ho _ _, fun _ _ => rfl, fun name hname => ?_, fun _ _ h => h, rfl, rfl⟩
    rw [h.fileName]
    exact Function.update_of_ne hname _ _

theorem FileInv.fileInfoWriteInit (h : FileInv p t id) (hempty : t.written id = []) {io : FileIo}
    (hio : io ≠ .cantOpen) :
    FileInv p (t.fileInfoWriteInit id io) id ∧ ((t.fileInfoWriteInit id io).fileInfo id).fd = true := by
  unfold RecvTask.fileInfoWriteInit
  rw [if_neg hio]
  have hinfo : (t.setFile id { t.fileInfo id with fd := true }).fileInfo id = { t.fileInfo id with fd := true } :=
    Function.update_self ..
  refine ⟨⟨?_, h.le, h.lt, h.src, fun _ => ?_, fun _ _ _ => hempty, h.success⟩, ?_⟩
  · change (t.setFile id _).fileInfo id = _
    rw [hinfo, h.static]
    rfl
  · change Function.update t.disk (t.fileInfo id).fileName _ _ = blocksOf p id (t.written id)
    rw [h.fileName, Function.update_self, hempty, blocksOf, BlockFile.ofBlocks_nil]
  · change ((t.setFile id _).fileInfo id).fd = true
    rw [hinfo]

theorem touches_writeBlock (h : FileInv p t id) (b : Nat) (payLoad : List UInt8) (io : FileIo) :
    Touches p t id (t.writeBlock id b payLoad io).1 := by
  unfold writeBlock
  split
  · exact Touches.refl t id
  split
  · exact touches_setFile t id _
  · refine ⟨fun _ ho => Function.update_of_ne ho _ _, fun _ ho => Function.update_of_ne ho _ _,
      fun name hname => ?_, fun _ _ h => h, rfl, rfl⟩
    rw [← h.fileName] at hname
    exact Function.update_of_ne hname _ _

structure IsBlock (p : DFileTransfer α) (id b : Nat) (payLoad : List UInt8) : Prop where
  lt : b < (p.fileInfo id).totalBlockNum
  src : (p.file id).startOffset + b * p.standardBlockSize +
    min p.standardBlockSize ((p.file id).fileSize - b * p.standardBlockSize) ≤ (p.file id).data.length
  eq : payLoad = BlockFile.pread (p.file id).data (min p.standardBlockSize ((p.file id).fileSize - b * p.standardBlockSize))
    ((p.file id).startOffset + b * p.standardBlockSize)

theorem FileInv.writeBlock (hp : p.Valid) (h : FileInv p t id) (hfd : (t.fileInfo id).fd = true)
    (hroom : (t.written id).length < (p.fileInfo id).totalBlockNum) {b : Nat} {payLoad : List UInt8}
        (hblock : IsBlock p id b payLoad)
    (io : FileIo) :
    FileInv p (t.writeBlock id b payLoad io).1 id ∧
      ((t.writeBlock id b payLoad io).2 = false → ((t.writeBlock id b payLoad io).1.fileInfo id).errCode = true) := by
  unfold RecvTask.writeBlock
  have hoff := (hp.lt_totalBlockNum_iff id b).mp hblock.lt
  have hne : ¬ ((t.fileInfo id).fileSize = 0 ∨ payLoad = []) := by
    have hsize : (t.fileInfo id).fileSize = (p.file id).fileSize := by rw [h.static]; rfl
    have hlen := congrArg List.length hblock.eq
    have := hp.block
    have := hblock.src
    rw [BlockFile.length_pread] at hlen
    rintro (hzero | hnil)
    · omega
    · rw [hnil, List.length_nil] at hlen
      omega
  rw [if_neg hne]
  split
  · have hinfo : (t.setFile id { t.fileInfo id with errCode := true }).fileInfo id = { t.fileInfo id with errCode := true } :=
      Function.update_self ..
    refine ⟨h.setErr, fun _ => ?_⟩
    dsimp only
    rw [hinfo]
  refine ⟨?_, fun hfalse => by cases hfalse⟩
  have hplace : writeBlock.fileOffset t id b = (p.file id).startOffset + b * p.standardBlockSize := by
    have hdata := hp.data id
    have := hblock.src
    have hbs : (t.fileInfo id).standardBlockSize = p.standardBlockSize := by rw [h.static]; rfl
    have hstart : (t.fileInfo id).startOffset = (p.file id).startOffset := by rw [h.static]; rfl
    rw [writeBlock.fileOffset, hbs, hstart, Nat.mul_comm, Nat.mod_eq_of_lt (by omega), Nat.add_comm]
  constructor
  case static =>
    simp only [setFile, Function.update_self, List.length_cons]
    rw [h.static]
  case le =>
    simp only [Function.update_self, List.length_cons]
    omega
  case lt =>
    simp only [Function.update_self]
    exact List.forall_mem_cons.mpr ⟨hblock.lt, h.lt⟩
  case src =>
    simp only [Function.update_self]
    exact List.forall_mem_cons.mpr ⟨hblock.src, h.src⟩
  case opened =>
    intro _
    simp only [Function.update_self]
    rw [h.fileName, Function.update_self, h.opened (.inl hfd), hplace, hblock.eq]
    exact BlockFile.writeAt_ofBlocks hp.block rfl hblock.src
  case closed =>
    simp only [setFile, Function.update_self]
    rw [hfd]
    intro hfalse
    cases hfalse
  case success =>
    intro hmem
    exact absurd (h.success hmem) (Nat.ne_of_lt hroom)

theorem touches_writeToFile (h : FileInv p t id) (hempty : (t.fileInfo id).fd = false → t.written id = []) (b : Nat)
    (payLoad : List UInt8) (io : FileIo) : Touches p t id (t.writeToFile id b payLoad io).1 := by
  unfold writeToFile
  split
  · exact touches_writeBlock h b payLoad io
  split
  · exact touches_fileInfoWriteInit h io
  · rename_i hfd hio
    obtain ⟨hopen, _⟩ := h.fileInfoWriteInit (hempty (by simpa using hfd)) hio
    exact (touches_fileInfoWriteInit h io).trans (touches_writeBlock hopen b payLoad io)

theorem written_fileInfoWriteInit (t : RecvTask α) (id : Nat) (io : FileIo) :
    (t.fileInfoWriteInit id io).written = t.written := by
  unfold fileInfoWriteInit
  split <;> rfl

theorem FileInv.writeToFile (hp : p.Valid) (h : FileInv p t id) (herr : (t.fileInfo id).errCode = false)
    (hroom : (t.written id).length < (p.fileInfo id).totalBlockNum) {b : Nat} {payLoad : List UInt8}
        (hblock : IsBlock p id b payLoad)
    (io : FileIo) :
    FileInv p (t.writeToFile id b payLoad io).1 id ∧
      ((t.writeToFile id b payLoad io).2 = false → ((t.writeToFile id b payLoad io).1.fileInfo id).errCode = true) := by
  unfold RecvTask.writeToFile
  split
  · rename_i hfd
    exact h.writeBlock hp hfd hroom hblock io
  rename_i hfd
  have hempty := h.closed (by simpa using hfd) herr hroom
  split
  · rename_i hio
    rw [hio, RecvTask.fileInfoWriteInit, if_pos rfl]
    refine ⟨h.setErr, fun _ => ?_⟩
    dsimp only [setFile]
    rw [Function.update_self]
  · rename_i hio
    obtain ⟨hopen, hfd'⟩ := h.fileInfoWriteInit hempty hio
    refine hopen.writeBlock hp hfd' ?_ hblock io
    rw [written_fileInfoWriteInit]
    exact hroom

/-! ## Steps of the task -/

section
variable (hp : p.Valid) (hd : Distinct p)
include hp hd

theorem Inv.writeSingleBlockFrame (h : Inv p t) {frame : FileDataFrame} (hframe : p.Honest frame) (io : FileIo) :
    Inv p (t.writeSingleBlockFrame p frame io) := by
  have hfile := h.files frame.fileId hframe.fileId.1 hframe.fileId.2
  unfold RecvTask.writeSingleBlockFrame
  split
  · exact ⟨fun id hpos hle => (h.files id hpos hle).congr rfl rfl rfl fun hmem => hmem, h.queued, h.inner⟩
  rename_i payloadLength hinfo
  split
  · exact h
  rename_i hgo
  rw [not_or, Bool.not_eq_true] at hgo
  -- a length other than 0 comes from the last line of the header check
  unfold getFrameHearderInfo at hinfo
  split at hinfo
  · cases hinfo
  split at hinfo
  · exact absurd (Option.some.inj hinfo).symm hgo.1
  rename_i hroom
  split at hinfo
  · cases hinfo
  rename_i hseq
  rw [hfile.total, hfile.received] at hroom
  rw [hfile.total, not_or, Nat.not_le] at hseq
  have hroom' := Nat.lt_of_le_of_ne hfile.le hroom
  obtain ⟨hlength, hsrc, hpayload⟩ := hframe.payload hseq.1
  rw [hlength] at hinfo
  rw [hp.targetLength_eq hseq.1] at hsrc hpayload
  rw [← Option.some.inj hinfo, List.take_length]
  have hwrite : ∀ payLoad, IsBlock p frame.fileId frame.blockSequence payLoad →
      Inv p (writeSingleBlockFrame.write t frame io payLoad) := by
    intro payLoad hblock
    obtain ⟨hnext, herr⟩ := hfile.writeToFile hp hgo.2 hroom' hblock io
    refine h.touch hd ?_ hframe.fileId (hnext.updateFileListRecvStatus herr)
    exact (touches_writeToFile hfile (fun hfd => hfile.closed hfd hgo.2 hroom') _ _ _).trans
      (touches_updateFileListRecvStatus _ _ _)
  split
  · rename_i hcrypt
    rw [DFileTransfer.plainPayload, hcrypt] at hpayload
    exact hwrite _ ⟨hseq.1, hsrc, hpayload⟩
  · rename_i crypt hcrypt
    rw [DFileTransfer.plainPayload, hcrypt] at hpayload
    split
    · refine h.touch hd ((touches_setFile t _ _).trans (touches_updateFileListRecvStatus _ _ _)) hframe.fileId
        (hfile.setErr.updateFileListRecvStatus fun _ => ?_)
      dsimp only [setFile]
      rw [Function.update_self]
    · exact hwrite _ ⟨hseq.1, hsrc, hpayload⟩

theorem Inv.generateEmptyFile (h : Inv p t) (hid : 1 ≤ id ∧ id ≤ p.fileNum) (io : FileIo) :
    Inv p (t.generateEmptyFile id io) := by
  have hfile := h.files id hid.1 hid.2
  unfold RecvTask.generateEmptyFile
  split
  · exact h
  rename_i hsize
  have hzero : (p.file id).fileSize = 0 := by
    have : (t.fileInfo id).fileSize = (p.file id).fileSize := by rw [hfile.static]; rfl
    omega
  have htotal : (p.fileInfo id).totalBlockNum = 0 := by
    by_contra hne
    have := (hp.lt_totalBlockNum_iff id 0).mp (Nat.pos_of_ne_zero hne)
    omega
  have hnil : t.written id = [] := List.eq_nil_of_length_eq_zero (by have := hfile.le; omega)
  refine h.touch hd ((touches_writeToFile hfile (fun _ => hnil) _ _ _).trans (touches_fileProcessed _ _ _)) hid ?_
  have hdone : ∀ {t' : RecvTask α}, FileInv p t' id → t'.written id = [] → ∀ success,
      FileInv p (t'.fileProcessed id success) id := by
    intro t' h' hnil' success
    have hlen : (t'.written id).length = (p.fileInfo id).totalBlockNum := by rw [hnil', htotal]; rfl
    exact h'.fileProcessed (.inr hlen) fun _ => hlen
  unfold writeToFile
  split
  · rw [writeBlock, if_pos (.inr rfl)]
    exact hdone hfile hnil true
  split
  · rename_i hio
    rw [hio, fileInfoWriteInit, if_pos rfl]
    exact hdone hfile.setErr hnil false
  · rename_i hio
    rw [writeBlock, if_pos (.inr rfl)]
    obtain ⟨hopen, _⟩ := hfile.fileInfoWriteInit hnil hio
    refine hdone hopen ?_ true
    rw [written_fileInfoWriteInit]
    exact hnil

theorem Inv.generateAllEmptyFiles (h : Inv p t) (io : Nat → FileIo) :
    ∀ n ≤ p.fileNum, Inv p (t.generateAllEmptyFiles io n)
  | 0, _ => h
  | n + 1, hn => (Inv.generateAllEmptyFiles h io n (by omega)).generateEmptyFile hp hd ⟨by omega, hn⟩ (io (n + 1))

end

theorem Inv.step (hp : p.Valid) (hd : Distinct p) (h : Inv p t) (e : RecvTaskEvent) : Inv p (t.next p e) := by
  cases e with
  | fileManagerFileWrite fileId targetSequence iv retran =>
    rw [next]
    split
    · exact h
    split
    · exact h
    · rename_i frame hget
      have hnew := hp.honest hget
      refine h.congr rfl rfl rfl rfl (fun frame' hmem => ?_) h.inner
      dsimp only at hmem
      split at hmem
      · rcases List.mem_cons.mp hmem with rfl | hmem
        · exact hnew
        · exact h.queued frame' hmem
      · rcases List.mem_append.mp hmem with hmem | hmem
        · exact h.queued frame' hmem
        · rw [List.mem_singleton.mp hmem]
          exact hnew
  | generateAllEmptyFiles io =>
    rw [next]
    split
    · exact h
    · have hall := Inv.generateAllEmptyFiles hp hd h io p.fileNum (Nat.le_refl _)
      exact hall.congr rfl rfl rfl rfl hall.queued hall.inner
  | swapRecvBlockListHead =>
    rw [next]
    split
    · exact h
    · exact h.congr rfl rfl rfl rfl (by simp) h.queued
  | writeBlockFrame io =>
    rw [next]
    split
    · exact h
    split
    · exact h
    · rename_i frame rest hinner
      have hmem : ∀ frame' ∈ frame :: rest, p.Honest frame' := hinner ▸ h.inner
      have hpop : Inv p { t with innerRecvBlock := rest } :=
        h.congr rfl rfl rfl rfl h.queued fun frame' hrest => hmem frame' (List.mem_cons_of_mem _ hrest)
      exact hpop.writeSingleBlockFrame hp hd (hmem frame (by simp)) io
  | fileListRefreshFileRecvStatus =>
    rw [next]
    split
    · exact h
    · have hall := Inv.fileListRefreshFileRecvStatus hd h p.fileNum (Nat.le_refl _)
      exact hall.congr rfl rfl rfl rfl hall.queued hall.inner

omit [DecidableEq α] in
theorem inv_create (p : DFileTransfer α) (disk : α → Nat → Option UInt8) : Inv p (create p disk) := by
  refine ⟨fun id _ _ => ⟨rfl, Nat.zero_le _, ?_, ?_, ?_, fun _ _ _ => rfl, ?_⟩, ?_, ?_⟩
  · exact fun b hb => absurd hb List.not_mem_nil
  · exact fun b hb => absurd hb List.not_mem_nil
  · rintro (hfd | hne)
    · cases hfd
    · exact absurd rfl hne
  all_goals simp [create]

/-- Every byte of the range has been written, and is the sender's. -/
def Complete (p : DFileTransfer α) (t : RecvTask α) (id : Nat) : Prop :=
  ∀ off, (p.file id).startOffset ≤ off → off < (p.file id).startOffset + (p.file id).fileSize →
    ∃ b, (p.file id).data[off]? = some b ∧ t.disk (p.file id).fileName off = some b

omit [DecidableEq α] in
theorem FileInv.complete_iff (hp : p.Valid) (h : FileInv p t id)
    (hfull : (t.written id).length = (p.fileInfo id).totalBlockNum) :
    Complete p t id ↔ (t.written id).Nodup := by
  rw [BlockFile.nodup_iff_of_lt hfull h.lt]
  by_cases hnil : t.written id = []
  · rw [hnil, List.length_nil] at hfull
    have hzero : (p.file id).fileSize = 0 := by
      have := hp.lt_totalBlockNum_iff id 0
      omega
    refine iff_of_true (fun off hle hlt => ?_) (fun b hb => ?_)
    · omega
    · omega
  · unfold Complete
    rw [h.opened (.inr hnil), blocksOf, BlockFile.ofBlocks_eq_iff hp.block h.src]
    exact forall_congr' fun b => imp_congr_left (hp.lt_totalBlockNum_iff id b).symm

end RecvTask

/-- A file that was reported as received is complete just when none of its blocks was written twice. -/
theorem dfile_receive_success_iff {α : Type} [DecidableEq α] {p : DFileTransfer α} (hp : p.Valid)
    (hd : RecvTask.Distinct p)
    (disk : α → Nat → Option UInt8) (events : List RecvTaskEvent) {id : Nat} (hid : 1 ≤ id ∧ id ≤ p.fileNum)
    (hsuccess : (id, true) ∈ (Run.final (RecvTask.next p) (.create p disk) events).msgs) :
    RecvTask.Complete p (Run.final (RecvTask.next p) (.create p disk) events) id ↔
      ((Run.final (RecvTask.next p) (.create p disk) events).written id).Nodup := by
  have hinv : RecvTask.Inv p (Run.final (RecvTask.next p) (.create p disk) events) :=
    Run.inv_final_of_step (fun _ e h => h.step hp hd e) events (RecvTask.inv_create p disk)
  have hfile := hinv.files id hid.1 hid.2
  exact hfile.complete_iff hp (hfile.success hsuccess)

/-- Two blocks, the second one first. -/
theorem dfile_receive_success_two_blocks :
    RecvTask.Complete ⟨1, 1, fun _ => ⟨(), List.replicate 60 7, 60, 0⟩, 64, none⟩
      (Run.final (RecvTask.next ⟨1, 1, fun _ => ⟨(), List.replicate 60 7, 60, 0⟩, 64, none⟩)
        (.create ⟨1, 1, fun _ => ⟨(), List.replicate 60 7, 60, 0⟩, 64, none⟩ fun _ _ => none)
        [.fileManagerFileWrite 1 1 0 false, .fileManagerFileWrite 1 0 0 false, .swapRecvBlockListHead, .writeBlockFrame .ok,
          .writeBlockFrame .ok]) 1 :=
  (dfile_receive_success_iff ⟨by decide, by decide, fun _ => (by decide : 60 < 2147483648 * 50),
    fun _ => (by decide : (List.replicate 60 (7 : UInt8)).length < 9223372036854775808)⟩
    (fun i j hi hi' hj hj' _ => (Nat.le_antisymm hi' hi).trans (Nat.le_antisymm hj' hj).symm) _ _ (by decide)
    (by decide +kernel)).mpr (by decide +kernel)

/-- The first block arrives twice and the second one never: the file is reported as received. -/
theorem dfile_receive_success_incomplete :
    (1, true) ∈ (Run.final (RecvTask.next ⟨1, 1, fun _ => ⟨(), List.replicate 60 7, 60, 0⟩, 64, none⟩)
        (.create ⟨1, 1, fun _ => ⟨(), List.replicate 60 7, 60, 0⟩, 64, none⟩ fun _ _ => none)
        [.fileManagerFileWrite 1 0 0 false, .fileManagerFileWrite 1 0 0 true, .swapRecvBlockListHead, .writeBlockFrame .ok,
          .writeBlockFrame .ok]).msgs ∧
    (Run.final (RecvTask.next ⟨1, 1, fun _ => ⟨(), List.replicate 60 7, 60, 0⟩, 64, none⟩)
        (.create ⟨1, 1, fun _ => ⟨(), List.replicate 60 7, 60, 0⟩, 64, none⟩ fun _ _ => none)
        [.fileManagerFileWrite 1 0 0 false, .fileManagerFileWrite 1 0 0 true, .swapRecvBlockListHead, .writeBlockFrame .ok,
          .writeBlockFrame .ok]).disk () 50 = none := by
  decide +kernel

end SoftBus
