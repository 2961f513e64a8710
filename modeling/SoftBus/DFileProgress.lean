import SoftBus.DFileSend

/-!
# The progress of a DFile transfer

`FileListGetBytesTransferred` counts full blocks, and has its own rule for the last one.
-/

namespace SoftBus

section
variable {α : Type}

/-- `FileGetBytesTransferred` of a receiver. The flag `isEndBlockReceived` is set by the block with which the counters become
equal, and none is written after that. -/
def recvBytesTransferred (info : FileInfo α) : Nat :=
  if info.fileSize = 0 then 0
  else if info.receivedBlockNum = 0 ∨ info.receivedBlockNum ≠ info.totalBlockNum then
    min (info.standardBlockSize * info.receivedBlockNum) info.fileSize
  else
    min (info.standardBlockSize * (info.receivedBlockNum - 1) + info.fileSize % info.standardBlockSize) info.fileSize

def sendBytesTransferred (info : FileInfo α) (maxSequenceSend : Int) : Nat :=
  if info.fileSize = 0 then 0
  else if maxSequenceSend < 0 then 0
  else if maxSequenceSend + 1 = info.totalBlockNum then info.fileSize
  else min (info.standardBlockSize * (maxSequenceSend + 1).toNat) info.fileSize

end

/-! ## Sums over the files -/

def fileListSum (fileNum : Nat) (f : Nat → Nat) : Nat := ((List.range' 1 fileNum).map f).sum

theorem sum_map_le {l : List Nat} {f g : Nat → Nat} (h : ∀ i ∈ l, f i ≤ g i) : (l.map f).sum ≤ (l.map g).sum := by
  induction l with
  | nil => exact Nat.le_refl _
  | cons i l ih =>
    rw [List.map_cons, List.map_cons, List.sum_cons, List.sum_cons]
    exact Nat.add_le_add (h i List.mem_cons_self) (ih fun j hj => h j (List.mem_cons_of_mem i hj))

theorem sum_map_eq_iff {l : List Nat} {f g : Nat → Nat} (h : ∀ i ∈ l, f i ≤ g i) :
    (l.map f).sum = (l.map g).sum ↔ ∀ i ∈ l, f i = g i := by
  induction l with
  | nil => simp
  | cons i l ih =>
    have hl := fun j hj => h j (List.mem_cons_of_mem i hj)
    have hi := h i List.mem_cons_self
    have hle := sum_map_le hl
    rw [List.map_cons, List.map_cons, List.sum_cons, List.sum_cons, List.forall_mem_cons, ← ih hl]
    omega

theorem mem_files {fileNum id : Nat} : id ∈ List.range' 1 fileNum ↔ 1 ≤ id ∧ id ≤ fileNum := by
  rw [List.mem_range'_1]
  omega

/-! ## One file -/

section
variable {size block r total : Nat}

theorem mul_lt_of_lt_blockCount (hblock : 0 < block) (h : r < blockCount size block) : block * r < size := by
  rw [Nat.mul_comm]
  exact (lt_blockCount_iff hblock r).mp h

theorem le_mul_blockCount (hblock : 0 < block) (h : blockCount size block ≤ r) : size ≤ block * r := by
  rw [Nat.mul_comm]
  exact Nat.le_of_not_lt fun hlt => absurd ((lt_blockCount_iff hblock r).mpr hlt) (Nat.not_lt.mpr h)

theorem last_rule_iff (hblock : 0 < block) (hpos : 0 < r) (hle : r ≤ blockCount size block) :
    size ≤ block * (r - 1) + size % block ↔ r = blockCount size block ∧ size % block ≠ 0 := by
  have hsplit := Nat.div_add_mod size block
  have hdiv : size ≤ block * (r - 1) + size % block ↔ size / block ≤ r - 1 := by
    have hmul : block * (size / block) ≤ block * (r - 1) ↔ size / block ≤ r - 1 := Nat.mul_le_mul_left_iff hblock
    rw [← hmul]
    omega
  rw [hdiv]
  unfold blockCount at hle ⊢
  split <;> split at hle <;> omega

end

section
variable {α : Type} {info info' : FileInfo α}

theorem recvBytesTransferred_le (info : FileInfo α) : recvBytesTransferred info ≤ info.fileSize := by
  unfold recvBytesTransferred
  repeat' split
  all_goals omega

theorem recvBytesTransferred_eq_iff (hblock : 0 < info.standardBlockSize)
    (htotal : info.totalBlockNum ≤ blockCount info.fileSize info.standardBlockSize)
    (hle : info.receivedBlockNum ≤ info.totalBlockNum) :
    recvBytesTransferred info = info.fileSize ↔ info.fileSize = 0 ∨
      (info.receivedBlockNum = blockCount info.fileSize info.standardBlockSize ∧
        info.fileSize % info.standardBlockSize ≠ 0) := by
  unfold recvBytesTransferred
  by_cases hzero : info.fileSize = 0
  · rw [if_pos hzero]
    exact iff_of_true hzero.symm (.inl hzero)
  rw [if_neg hzero, or_iff_right hzero]
  by_cases hpart : info.receivedBlockNum = 0 ∨ info.receivedBlockNum ≠ info.totalBlockNum
  · -- the blocks before the last one do not make up the file
    have hlt : info.receivedBlockNum < blockCount info.fileSize info.standardBlockSize := by
      have hpos : 0 < blockCount info.fileSize info.standardBlockSize := (lt_blockCount_iff hblock 0).mpr (by omega)
      omega
    have hmul := mul_lt_of_lt_blockCount hblock hlt
    rw [if_pos hpart]
    exact iff_of_false (by omega) (by omega)
  · rw [if_neg hpart, ← last_rule_iff hblock (by omega) (by omega)]
    omega

theorem recvBytesTransferred_mono (hsize : info'.fileSize = info.fileSize)
    (hblocks : info'.standardBlockSize = info.standardBlockSize) (htotal : info'.totalBlockNum = info.totalBlockNum)
    (hle : info.receivedBlockNum < info.totalBlockNum)
    (hsucc : info'.receivedBlockNum = info.receivedBlockNum + 1) :
    recvBytesTransferred info ≤ recvBytesTransferred info' := by
  unfold recvBytesTransferred
  rw [hsize, hblocks, htotal, hsucc]
  split
  · exact Nat.le_refl _
  rw [if_pos (by omega)]
  split
  · rw [Nat.mul_add]
    omega
  · rw [Nat.add_sub_cancel]
    omega

theorem sendBytesTransferred_le (info : FileInfo α) (sequence : Int) : sendBytesTransferred info sequence ≤ info.fileSize := by
  unfold sendBytesTransferred
  repeat' split
  all_goals omega

variable {k : Nat}

theorem sendBytesTransferred_eq_iff (hblock : 0 < info.standardBlockSize)
    (htotal : info.totalBlockNum = blockCount info.fileSize info.standardBlockSize) :
    sendBytesTransferred info (k - 1) = info.fileSize ↔ blockCount info.fileSize info.standardBlockSize ≤ k := by
  unfold sendBytesTransferred
  by_cases hzero : info.fileSize = 0
  · rw [if_pos hzero]
    refine iff_of_true hzero.symm ?_
    rw [blockCount, hzero]
    simp
  have hpos : 0 < blockCount info.fileSize info.standardBlockSize := (lt_blockCount_iff hblock 0).mpr (by omega)
  rw [if_neg hzero, Int.sub_add_cancel, Int.toNat_natCast, htotal]
  split
  · omega
  split
  · exact iff_of_true rfl (by omega)
  · constructor
    · intro heq
      by_contra hlt
      have := mul_lt_of_lt_blockCount hblock (Nat.lt_of_not_le hlt)
      omega
    · intro hle
      have := le_mul_blockCount hblock hle
      omega

theorem sendBytesTransferred_mono (hblock : 0 < info.standardBlockSize)
    (htotal : info.totalBlockNum = blockCount info.fileSize info.standardBlockSize) :
    sendBytesTransferred info (k - 1) ≤ sendBytesTransferred info k := by
  by_cases hle : blockCount info.fileSize info.standardBlockSize ≤ k + 1
  · have hfull := (sendBytesTransferred_eq_iff hblock htotal (k := k + 1)).mpr hle
    rw [Nat.cast_add, Nat.cast_one, Int.add_sub_cancel] at hfull
    rw [hfull]
    exact sendBytesTransferred_le info _
  · unfold sendBytesTransferred
    rw [htotal, Int.sub_add_cancel]
    split
    · exact Nat.le_refl _
    split
    · exact Nat.zero_le _
    · rw [if_neg (by omega), if_neg (by omega), if_neg (by omega), Int.toNat_natCast]
      have : info.standardBlockSize * k ≤ info.standardBlockSize * ((k : Int) + 1).toNat :=
        Nat.mul_le_mul_left _ (by omega)
      omega

end

/-! ## The receiver -/

namespace RecvTask

section
variable {α : Type} {p : DFileTransfer α} {t t' : RecvTask α} {id : Nat}

def counts (t : RecvTask α) (id : Nat) : Nat × Nat × Nat × Nat × List Nat :=
  ((t.fileInfo id).fileSize, (t.fileInfo id).standardBlockSize, (t.fileInfo id).totalBlockNum,
    (t.fileInfo id).receivedBlockNum, t.written id)

def counted (t : RecvTask α) (id b : Nat) : Nat → Nat × Nat × Nat × Nat × List Nat :=
  Function.update t.counts id ((t.fileInfo id).fileSize, (t.fileInfo id).standardBlockSize, (t.fileInfo id).totalBlockNum,
    (t.fileInfo id).receivedBlockNum + 1, b :: t.written id)

theorem counts_setFile {info : FileInfo α} (hsize : info.fileSize = (t.fileInfo id).fileSize)
    (hblock : info.standardBlockSize = (t.fileInfo id).standardBlockSize)
    (htotal : info.totalBlockNum = (t.fileInfo id).totalBlockNum)
    (hreceived : info.receivedBlockNum = (t.fileInfo id).receivedBlockNum) : (t.setFile id info).counts = t.counts := by
  funext i
  by_cases hi : i = id
  · subst hi
    simp [counts, setFile, hsize, hblock, htotal, hreceived]
  · simp [counts, setFile, Function.update_of_ne hi]

theorem counts_fileProcessed (t : RecvTask α) (id : Nat) (success : Bool) : (t.fileProcessed id success).counts = t.counts :=
  counts_setFile (t := t) rfl rfl rfl rfl

theorem counts_updateFileListRecvStatus (t : RecvTask α) (id : Nat) (ret : Bool) :
    (t.updateFileListRecvStatus id ret).counts = t.counts := by
  unfold updateFileListRecvStatus
  repeat' split
  all_goals first | rfl | exact counts_fileProcessed t id _

theorem counts_fileInfoWriteInit [DecidableEq α] (t : RecvTask α) (id : Nat) (io : FileIo) :
    (t.fileInfoWriteInit id io).counts = t.counts := by
  unfold fileInfoWriteInit
  split
  · exact counts_setFile rfl rfl rfl rfl
  · exact counts_setFile (t := t) rfl rfl rfl rfl

theorem counted_congr (h : t'.counts = t.counts) (id b : Nat) : t'.counted id b = t.counted id b := by
  have hid := congrFun h id
  simp only [counts, Prod.mk.injEq] at hid
  unfold counted
  rw [h, hid.1, hid.2.1, hid.2.2.1, hid.2.2.2.1, hid.2.2.2.2]

theorem counts_writeBlock [DecidableEq α] (t : RecvTask α) (id b : Nat) (payLoad : List UInt8) (io : FileIo) :
    (t.writeBlock id b payLoad io).1.counts = t.counts ∨ (t.writeBlock id b payLoad io).1.counts = t.counted id b := by
  unfold writeBlock
  split
  · exact .inl rfl
  split
  · exact .inl (counts_setFile rfl rfl rfl rfl)
  · refine .inr (funext fun i => ?_)
    by_cases hi : i = id
    · subst hi
      simp [counts, counted, setFile]
    · simp [counts, counted, setFile, Function.update_of_ne hi]

theorem counts_writeToFile [DecidableEq α] (t : RecvTask α) (id b : Nat) (payLoad : List UInt8) (io : FileIo) :
    (t.writeToFile id b payLoad io).1.counts = t.counts ∨ (t.writeToFile id b payLoad io).1.counts = t.counted id b := by
  have hinit := counts_fileInfoWriteInit t id io
  unfold writeToFile
  split
  · exact counts_writeBlock t id b payLoad io
  split
  · exact .inl hinit
  · have h := counts_writeBlock (t.fileInfoWriteInit id io) id b payLoad io
    rwa [hinit, counted_congr hinit] at h

def Wrote (t t' : RecvTask α) : Prop :=
  t'.counts = t.counts ∨ ∃ id b, b < (t.fileInfo id).totalBlockNum ∧
    (t.fileInfo id).receivedBlockNum ≠ (t.fileInfo id).totalBlockNum ∧ t'.counts = t.counted id b

theorem wrote_writeSingleBlockFrame [DecidableEq α] (t : RecvTask α) (frame : FileDataFrame) (io : FileIo) :
    Wrote t (t.writeSingleBlockFrame p frame io) := by
  unfold writeSingleBlockFrame
  split
  · exact .inl rfl
  rename_i payloadLength hheader
  split
  · exact .inl rfl
  rename_i hpos
  have hwrite : ∀ payLoad, Wrote t (writeSingleBlockFrame.write t frame io payLoad) := by
    intro payLoad
    unfold getFrameHearderInfo at hheader
    split at hheader
    · cases hheader
    split at hheader
    · cases hheader
      exact absurd (.inl rfl) hpos
    split at hheader
    · cases hheader
    rename_i hfull hbad
    unfold writeSingleBlockFrame.write Wrote
    rw [counts_updateFileListRecvStatus]
    exact (counts_writeToFile t frame.fileId frame.blockSequence payLoad io).imp id fun h =>
      ⟨frame.fileId, frame.blockSequence, by omega, hfull, h⟩
  split
  · exact hwrite _
  split
  · exact .inl ((counts_updateFileListRecvStatus _ _ _).trans (counts_setFile rfl rfl rfl rfl))
  · exact hwrite _

theorem counts_generateEmptyFile [DecidableEq α] (t : RecvTask α) (id : Nat) (io : FileIo) :
    (t.generateEmptyFile id io).counts = t.counts := by
  have hblock : ∀ t : RecvTask α, (t.writeBlock id 0 [] io).1 = t := by
    intro t
    unfold writeBlock
    rw [if_pos (.inr rfl)]
  unfold generateEmptyFile
  split
  · rfl
  · rw [counts_fileProcessed]
    unfold writeToFile
    repeat' split
    · rw [hblock]
    · exact counts_fileInfoWriteInit t id io
    · rw [hblock]
      exact counts_fileInfoWriteInit t id io

theorem counts_generateAllEmptyFiles [DecidableEq α] (t : RecvTask α) (io : Nat → FileIo) :
    ∀ n, (t.generateAllEmptyFiles io n).counts = t.counts
  | 0 => rfl
  | n + 1 => (counts_generateEmptyFile _ _ _).trans (counts_generateAllEmptyFiles t io n)

theorem counts_fileListRefreshFileRecvStatus (t : RecvTask α) : ∀ n, (t.fileListRefreshFileRecvStatus n).counts = t.counts
  | 0 => rfl
  | n + 1 => by
    have ih := counts_fileListRefreshFileRecvStatus t n
    rw [fileListRefreshFileRecvStatus]
    split
    · refine Eq.trans ?_ ih
      exact counts_setFile (t := t.fileListRefreshFileRecvStatus n) rfl rfl rfl rfl
    · exact ih

theorem wrote_next [DecidableEq α] (t : RecvTask α) (e : RecvTaskEvent) : Wrote t (t.next p e) := by
  cases e with
  | fileManagerFileWrite fileId targetSequence iv retran =>
    rw [next]
    repeat' split
    all_goals exact .inl rfl
  | generateAllEmptyFiles io =>
    rw [next]
    split
    · exact .inl rfl
    · exact .inl (counts_generateAllEmptyFiles t io p.fileNum)
  | swapRecvBlockListHead =>
    rw [next]
    split <;> exact .inl rfl
  | writeBlockFrame io =>
    rw [next]
    split
    · exact .inl rfl
    split
    · exact .inl rfl
    · rename_i frame rest _
      exact wrote_writeSingleBlockFrame { t with innerRecvBlock := rest } frame io
  | fileListRefreshFileRecvStatus =>
    rw [next]
    split
    · exact .inl rfl
    · exact .inl (counts_fileListRefreshFileRecvStatus t p.fileNum)

structure Counted (p : DFileTransfer α) (t : RecvTask α) (id : Nat) : Prop where
  size : (t.fileInfo id).fileSize = (p.file id).fileSize
  block : (t.fileInfo id).standardBlockSize = p.standardBlockSize
  total : (t.fileInfo id).totalBlockNum = (p.fileInfo id).totalBlockNum
  received : (t.fileInfo id).receivedBlockNum = (t.written id).length
  le : (t.fileInfo id).receivedBlockNum ≤ (t.fileInfo id).totalBlockNum
  lt : ∀ b ∈ t.written id, b < (t.fileInfo id).totalBlockNum

theorem Counted.congr (h : Counted p t id) (hcounts : t'.counts id = t.counts id) : Counted p t' id := by
  simp only [counts, Prod.mk.injEq] at hcounts
  obtain ⟨hsize, hblock, htotal, hreceived, hwritten⟩ := hcounts
  refine ⟨?_, ?_, ?_, ?_, ?_, ?_⟩
  · rw [hsize, h.size]
  · rw [hblock, h.block]
  · rw [htotal, h.total]
  · rw [hreceived, hwritten, h.received]
  · rw [hreceived, htotal]
    exact h.le
  · rw [hwritten, htotal]
    exact h.lt

theorem Counted.step (h : ∀ id, Counted p t id) (hstep : Wrote t t') (id : Nat) : Counted p t' id := by
  rcases hstep with heq | ⟨id', b, hb, hne, heq⟩
  · exact (h id).congr (congrFun heq id)
  have hid := congrFun heq id
  by_cases hsame : id = id'
  · subst hsame
    simp only [counts, counted, Function.update_self, Prod.mk.injEq] at hid
    obtain ⟨hsize, hblock, htotal, hreceived, hwritten⟩ := hid
    refine ⟨?_, ?_, ?_, ?_, ?_, ?_⟩
    · rw [hsize, (h id).size]
    · rw [hblock, (h id).block]
    · rw [htotal, (h id).total]
    · rw [hreceived, hwritten, (h id).received, List.length_cons]
    · have := (h id).le
      omega
    · rw [hwritten, htotal, List.forall_mem_cons]
      exact ⟨hb, (h id).lt⟩
  · refine (h id).congr (hid.trans ?_)
    rw [counted, Function.update_of_ne hsame]

theorem counted_run [DecidableEq α] (p : DFileTransfer α) (disk : α → Nat → Option UInt8) (es : List RecvTaskEvent) :
    ∀ id, Counted p (Run.final (next p) (create p disk) es) id := by
  refine Run.inv_final_of_step (I := fun t => ∀ id, Counted p t id) (fun t e h => Counted.step h (wrote_next t e)) es ?_
  exact fun id => ⟨rfl, rfl, rfl, rfl, Nat.zero_le _, fun b hb => absurd hb List.not_mem_nil⟩

def progress (p : DFileTransfer α) (t : RecvTask α) : Nat :=
  fileListSum p.fileNum fun id => recvBytesTransferred (t.fileInfo id)

def AllReceived (p : DFileTransfer α) (t : RecvTask α) : Prop :=
  ∀ id, 1 ≤ id ∧ id ≤ p.fileNum → ∀ b < blockCount (p.file id).fileSize p.standardBlockSize, b ∈ t.written id

theorem recvBytesTransferred_congr (h : t'.counts id = t.counts id) :
    recvBytesTransferred (t'.fileInfo id) = recvBytesTransferred (t.fileInfo id) := by
  simp only [counts, Prod.mk.injEq] at h
  unfold recvBytesTransferred
  rw [h.1, h.2.1, h.2.2.1, h.2.2.2.1]

theorem progress_mono (h : ∀ id, Counted p t id) (hstep : Wrote t t') : progress p t ≤ progress p t' := by
  refine sum_map_le fun id _ => ?_
  rcases hstep with heq | ⟨id', b, hb, hne, heq⟩
  · rw [recvBytesTransferred_congr (congrFun heq id)]
  have hid := congrFun heq id
  by_cases hsame : id = id'
  · subst hsame
    simp only [counts, counted, Function.update_self, Prod.mk.injEq] at hid
    have hle := (h id).le
    exact recvBytesTransferred_mono hid.1 hid.2.1 hid.2.2.1 (by omega) hid.2.2.2.1
  · rw [counted, Function.update_of_ne hsame] at hid
    rw [recvBytesTransferred_congr hid]

theorem totalBlockNum_le (p : DFileTransfer α) (id : Nat) :
    (p.fileInfo id).totalBlockNum ≤ blockCount (p.file id).fileSize p.standardBlockSize := Nat.mod_le _ _

theorem Counted.all_iff (h : Counted p t id) :
    (∀ b < blockCount (p.file id).fileSize p.standardBlockSize, b ∈ t.written id) ↔
      (t.written id).length = blockCount (p.file id).fileSize p.standardBlockSize ∧ (t.written id).Nodup := by
  have hle := h.le.trans (h.total.le.trans (totalBlockNum_le p id))
  rw [h.received] at hle
  have hlt : ∀ b ∈ t.written id, b < blockCount (p.file id).fileSize p.standardBlockSize := fun b hb =>
    Nat.lt_of_lt_of_le (h.lt b hb) (h.total.le.trans (totalBlockNum_le p id))
  constructor
  · intro hall
    have hsub : List.range (blockCount (p.file id).fileSize p.standardBlockSize) ⊆ t.written id :=
      fun b hb => hall b (List.mem_range.mp hb)
    have hlen := (List.subperm_of_subset List.nodup_range hsub).length_le
    rw [List.length_range] at hlen
    have heq := Nat.le_antisymm hle hlen
    exact ⟨heq, (BlockFile.nodup_iff_of_lt heq hlt).mpr hall⟩
  · rintro ⟨heq, hnodup⟩
    exact (BlockFile.nodup_iff_of_lt heq hlt).mp hnodup

end

end RecvTask

/-! ## The sender -/

namespace SendTask

section
variable {α : Type} {p : DFileTransfer α} {t : SendTask}

def progress (p : DFileTransfer α) (t : SendTask) : Nat :=
  fileListSum p.fileNum fun id => sendBytesTransferred (p.fileInfo id) (t.maxSequenceSend id)

theorem createSendBlockFrame_cases (hzero : t.newReadOutSet.1 = 0) (iv : Nat) :
    (createSendBlockFrame p iv t).2.newReadOutSet.1 = 0 ∧
      (((createSendBlockFrame p iv t).1 = none ∧ (createSendBlockFrame p iv t).2.maxSequenceSend = t.maxSequenceSend) ∨
        ∃ block id, (createSendBlockFrame p iv t).1 = some block ∧
          keyOf block = (id, ((t.maxSequenceSend id + 1) % 4294967296).toNat) ∧
          (createSendBlockFrame p iv t).2.maxSequenceSend =
            Function.update t.maxSequenceSend id (t.maxSequenceSend id + 1)) := by
  unfold createSendBlockFrame getFileInfo
  rw [takeOutSet_of_zero hzero]
  by_cases hall : p.fileNum ≤ t.sendFileProcessed
  · rw [if_pos hall]
    exact ⟨hzero, .inl ⟨rfl, rfl⟩⟩
  rw [if_neg hall]
  by_cases hskip : t.errCode (t.sendFileProcessed + 1) = true ∨ (p.fileInfo (t.sendFileProcessed + 1)).fileSize = 0
  · rw [if_pos hskip]
    exact ⟨hzero, .inl ⟨rfl, rfl⟩⟩
  rw [if_neg hskip]
  dsimp only
  cases hframe : p.getDataFrame (t.sendFileProcessed + 1)
      ((t.maxSequenceSend (t.sendFileProcessed + 1) + 1) % 4294967296).toNat iv false with
  | none => exact ⟨hzero, .inl ⟨rfl, rfl⟩⟩
  | some frame =>
    obtain ⟨hid, hblock⟩ := getDataFrame_key hframe
    dsimp only
    split
    · exact ⟨hzero, .inr ⟨_, _, rfl, Prod.ext hid hblock, rfl⟩⟩
    · exact ⟨hzero, .inr ⟨_, _, rfl, Prod.ext hid hblock, rfl⟩⟩

theorem emit_sent : ∀ (ivs : List Nat) {t : SendTask}, t.newReadOutSet.1 = 0 → (∀ id, 0 ≤ t.maxSequenceSend id + 1) →
    (emit p t ivs).2.newReadOutSet.1 = 0 ∧ ∀ id, t.maxSequenceSend id ≤ (emit p t ivs).2.maxSequenceSend id ∧
      ∀ b, (id, b) ∈ (emit p t ivs).1.map keyOf ↔
        ∃ j : Int, t.maxSequenceSend id < j ∧ j ≤ (emit p t ivs).2.maxSequenceSend id ∧ (j % 4294967296).toNat = b
  | [], t, hzero, _ => by
    refine ⟨hzero, fun id => ⟨Int.le_refl _, fun b => ⟨fun h => absurd h List.not_mem_nil, ?_⟩⟩⟩
    rintro ⟨j, hlt, hle, -⟩
    exact absurd hle (Int.not_le.mpr hlt)
  | iv :: ivs, t, hzero, hlower => by
    obtain ⟨hzero', hcases⟩ := createSendBlockFrame_cases (p := p) hzero iv
    rcases hcases with ⟨hnone, hsame⟩ | ⟨block, id', hsome, hkey, hupdate⟩
    · have ih := emit_sent ivs hzero' (by rwa [hsame])
      rw [hsame] at ih
      rw [emit, hnone]
      exact ih
    · have hlower' : ∀ id, 0 ≤ (createSendBlockFrame p iv t).2.maxSequenceSend id + 1 := by
        intro id
        rw [hupdate]
        by_cases hid : id = id'
        · subst hid
          rw [Function.update_self]
          have := hlower id
          omega
        · rw [Function.update_of_ne hid]
          exact hlower id
      obtain ⟨hset, ih⟩ := emit_sent ivs hzero' hlower'
      refine ⟨hset, fun id => ?_⟩
      obtain ⟨hle, hiff⟩ := ih id
      rw [emit, hsome]
      simp only [Option.toList_some, List.singleton_append, List.map_cons, List.mem_cons, hkey, Prod.mk.injEq]
      by_cases hid : id = id'
      · subst hid
        rw [hupdate, Function.update_self] at hle hiff
        refine ⟨by omega, fun b => ?_⟩
        rw [hiff]
        constructor
        · rintro (⟨-, rfl⟩ | ⟨j, hlt, hj, hb⟩)
          · exact ⟨t.maxSequenceSend id + 1, by omega, hle, rfl⟩
          · exact ⟨j, by omega, hj, hb⟩
        · rintro ⟨j, hlt, hj, hb⟩
          by_cases heq : j = t.maxSequenceSend id + 1
          · exact .inl ⟨rfl, by rw [← hb, heq]⟩
          · exact .inr ⟨j, by omega, hj, hb⟩
      · rw [hupdate, Function.update_of_ne hid] at hle hiff
        exact ⟨hle, fun b => by rw [hiff]; simp [hid]⟩

end

end SendTask

/-! ## Both sides -/

def totalBytes {α : Type} (p : DFileTransfer α) : Nat := fileListSum p.fileNum fun id => (p.file id).fileSize

def NoFullLastBlock {α : Type} (p : DFileTransfer α) : Prop :=
  ∀ id, 1 ≤ id ∧ id ≤ p.fileNum → (p.file id).fileSize ≠ 0 → (p.file id).fileSize % p.standardBlockSize ≠ 0

/-- If as many blocks have been written as the files have, then no block twice. -/
def NoneTwice {α : Type} (p : DFileTransfer α) (written : Nat → List Nat) : Prop :=
  (∀ id, 1 ≤ id ∧ id ≤ p.fileNum → (written id).length = blockCount (p.file id).fileSize p.standardBlockSize) →
    ∀ id, 1 ≤ id ∧ id ≤ p.fileNum → (written id).Nodup

section
variable {α : Type} {p : DFileTransfer α} (hblock : 0 < p.standardBlockSize)
include hblock

theorem recv_exact_iff {t : RecvTask α} (h : ∀ id, RecvTask.Counted p t id) :
    (t.progress p = totalBytes p ↔ t.AllReceived p) ↔
      (t.AllReceived p → NoFullLastBlock p) ∧ (NoFullLastBlock p → NoneTwice p t.written) := by
  have hprogress : t.progress p = totalBytes p ↔ ∀ id, 1 ≤ id ∧ id ≤ p.fileNum → (p.file id).fileSize = 0 ∨
      ((t.written id).length = blockCount (p.file id).fileSize p.standardBlockSize ∧
        (p.file id).fileSize % p.standardBlockSize ≠ 0) := by
    unfold RecvTask.progress totalBytes fileListSum
    rw [sum_map_eq_iff fun id _ => (h id).size ▸ recvBytesTransferred_le (t.fileInfo id)]
    refine forall_congr' fun id => ?_
    rw [mem_files]
    refine imp_congr_right fun _ => ?_
    have hiff := @recvBytesTransferred_eq_iff _ (t.fileInfo id) (by rw [(h id).block]; exact hblock)
      (by rw [(h id).total, (h id).size, (h id).block]; exact RecvTask.totalBlockNum_le p id) (h id).le
    rwa [(h id).size, (h id).block, (h id).received] at hiff
  have hall : t.AllReceived p ↔ ∀ id, 1 ≤ id ∧ id ≤ p.fileNum →
      (t.written id).length = blockCount (p.file id).fileSize p.standardBlockSize ∧ (t.written id).Nodup :=
    forall_congr' fun id => imp_congr_right fun _ => (h id).all_iff
  have hempty : ∀ id, (p.file id).fileSize = 0 →
      (t.written id).length = blockCount (p.file id).fileSize p.standardBlockSize := by
    intro id hzero
    have hle := (h id).le
    rw [(h id).received, (h id).total] at hle
    have hcount : blockCount (p.file id).fileSize p.standardBlockSize = 0 := by
      rw [blockCount, hzero]
      simp
    exact Nat.le_antisymm (hle.trans (RecvTask.totalBlockNum_le p id)) (by omega)
  rw [hprogress, hall]
  constructor
  · intro hiff
    refine ⟨fun hreceived id hid hne => ((hiff.mpr hreceived id hid).resolve_left hne).2, fun hlast hmany id hid => ?_⟩
    refine (hiff.mp (fun id hid => ?_) id hid).2
    by_cases hzero : (p.file id).fileSize = 0
    · exact .inl hzero
    · exact .inr ⟨hmany id hid, hlast id hid hzero⟩
  · rintro ⟨hlast, hnodup⟩
    constructor
    · intro hfull
      have hmany : ∀ id, 1 ≤ id ∧ id ≤ p.fileNum →
          (t.written id).length = blockCount (p.file id).fileSize p.standardBlockSize :=
        fun id hid => (hfull id hid).elim (hempty id) And.left
      have hshort : NoFullLastBlock p := fun id hid hne => ((hfull id hid).resolve_left hne).2
      exact fun id hid => ⟨hmany id hid, hnodup hshort hmany id hid⟩
    · intro hreceived id hid
      by_cases hzero : (p.file id).fileSize = 0
      · exact .inl hzero
      · exact .inr ⟨(hreceived id hid).1, hlast hreceived id hid hzero⟩

/-- **Progress.** On every run of a receiver the progress is bounded and does not fall, and it is exact just when no last
block of files that are all there is full and, where none is, no block has been written in the place of another. A sender
whose block numbers fit is exact always. -/
theorem dfile_progress [DecidableEq α] :
    (∀ disk es, let t := Run.final (RecvTask.next p) (.create p disk) es
      t.progress p ≤ totalBytes p ∧ (∀ e, t.progress p ≤ (t.next p e).progress p) ∧
        ((t.progress p = totalBytes p ↔ t.AllReceived p) ↔
          (t.AllReceived p → NoFullLastBlock p) ∧ (NoFullLastBlock p → NoneTwice p t.written))) ∧
    ((∀ id, blockCount (p.file id).fileSize p.standardBlockSize < 4294967296) →
      ∀ ivs iv, let t := (SendTask.emit p {} ivs).2
        t.progress p ≤ totalBytes p ∧ t.progress p ≤ (SendTask.createSendBlockFrame p iv t).2.progress p ∧
          (t.progress p = totalBytes p ↔ ∀ id, 1 ≤ id ∧ id ≤ p.fileNum →
            ∀ b < blockCount (p.file id).fileSize p.standardBlockSize,
              (id, b) ∈ (SendTask.emit p {} ivs).1.map SendTask.keyOf)) := by
  constructor
  · intro disk es t
    have h := RecvTask.counted_run p disk es
    refine ⟨sum_map_le fun id _ => (h id).size ▸ recvBytesTransferred_le _, fun e => ?_, recv_exact_iff hblock h⟩
    exact RecvTask.progress_mono h (RecvTask.wrote_next t e)
  · intro hcount ivs iv t
    have htotal : ∀ id, (p.fileInfo id).totalBlockNum = blockCount (p.fileInfo id).fileSize (p.fileInfo id).standardBlockSize :=
      fun id => Nat.mod_eq_of_lt (hcount id)
    obtain ⟨hzero, hsent⟩ := SendTask.emit_sent (p := p) ivs (t := {}) rfl fun _ => Int.le_refl _
    have hk : ∀ id, ∃ k : Nat, t.maxSequenceSend id = (k : Int) - 1 := by
      intro id
      have hlower : -1 ≤ t.maxSequenceSend id := (hsent id).1
      exact ⟨(t.maxSequenceSend id + 1).toNat, by omega⟩
    refine ⟨sum_map_le fun id _ => sendBytesTransferred_le _ _, sum_map_le fun id _ => ?_, ?_⟩
    · rcases (SendTask.createSendBlockFrame_cases (p := p) hzero iv).2 with ⟨-, hsame⟩ | ⟨block, id', -, -, hupdate⟩
      · rw [hsame]
      · rw [hupdate]
        by_cases hid : id = id'
        · subst hid
          rw [Function.update_self]
          obtain ⟨k, hk⟩ := hk id
          show sendBytesTransferred _ (t.maxSequenceSend id) ≤ sendBytesTransferred _ (t.maxSequenceSend id + 1)
          rw [hk, Int.sub_add_cancel]
          exact sendBytesTransferred_mono hblock (htotal id)
        · rw [Function.update_of_ne hid]
    · unfold SendTask.progress totalBytes fileListSum
      refine (sum_map_eq_iff fun id _ => sendBytesTransferred_le (p.fileInfo id) _).trans ?_
      refine forall_congr' fun id => ?_
      rw [mem_files]
      refine imp_congr_right fun _ => ?_
      obtain ⟨k, hk⟩ := hk id
      rw [hk]
      refine (sendBytesTransferred_eq_iff hblock (htotal id)).trans ?_
      have hsent := (hsent id).2
      rw [show (SendTask.emit p {} ivs).2.maxSequenceSend id = (k : Int) - 1 from hk] at hsent
      constructor
      · intro hle b hb
        have : b < k := Nat.lt_of_lt_of_le hb hle
        have := hcount id
        exact (hsent b).mpr ⟨b, by show (-1 : Int) < b; omega, by omega, by omega⟩
      · intro hall
        by_contra hlt
        have hlt := Nat.lt_of_not_le hlt
        obtain ⟨j, hj, hle, hb⟩ := (hsent k).mp (hall k hlt)
        have hj : (-1 : Int) < j := hj
        omega

end

/-- A file of 60 bytes in blocks of 50: its short block is written first, then the other one. -/
theorem dfile_progress_short_block :
    let p : DFileTransfer Unit := ⟨1, 1, fun _ => ⟨(), List.replicate 60 7, 60, 0⟩, 64, none⟩
    let t := Run.final (RecvTask.next p) (.create p fun _ _ => none)
      [.fileManagerFileWrite 1 1 0 false, .fileManagerFileWrite 1 0 0 false, .swapRecvBlockListHead, .writeBlockFrame .ok,
        .writeBlockFrame .ok]
    t.written 1 = [0, 1] ∧ t.progress p = totalBytes p := by
  intro p t
  have hwritten : t.written 1 = [0, 1] := by decide +kernel
  have hone : ∀ {P : Nat → Prop}, P 1 → ∀ id, 1 ≤ id ∧ id ≤ 1 → P id := fun h id hid => (show 1 = id by omega) ▸ h
  have hall : t.AllReceived p := hone (by rw [hwritten]; decide)
  refine ⟨hwritten,
    (((dfile_progress (p := p) (by decide)).1 (fun _ _ => none) _).2.2.mpr ⟨fun _ => ?_, fun _ _ => ?_⟩).mpr hall⟩
  · exact hone (by decide)
  · exact hone (by rw [hwritten]; decide)

/-- A file of one block of 50 bytes: it has been received, and the progress is 0. -/
theorem dfile_progress_full_block :
    (Run.final (RecvTask.next ⟨1, 1, fun _ => ⟨(), List.replicate 50 7, 50, 0⟩, 64, none⟩)
        (.create ⟨1, 1, fun _ => ⟨(), List.replicate 50 7, 50, 0⟩, 64, none⟩ fun _ _ => none)
        [.fileManagerFileWrite 1 0 0 false, .swapRecvBlockListHead, .writeBlockFrame .ok]).msgs = [(1, true)] ∧
    (Run.final (RecvTask.next ⟨1, 1, fun _ => ⟨(), List.replicate 50 7, 50, 0⟩, 64, none⟩)
        (.create ⟨1, 1, fun _ => ⟨(), List.replicate 50 7, 50, 0⟩, 64, none⟩ fun _ _ => none)
        [.fileManagerFileWrite 1 0 0 false, .swapRecvBlockListHead, .writeBlockFrame .ok]).progress
        ⟨1, 1, fun _ => ⟨(), List.replicate 50 7, 50, 0⟩, 64, none⟩ = 0 := by
  decide +kernel

end SoftBus
