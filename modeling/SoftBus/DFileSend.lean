import SoftBus.DFileBlockSound
import SoftBus.Lib.Word

/-!
# The send task of the DFile file manager

`CreateSendBlockFrame` reads one block at each call. Where it stands is kept in three places: the file, the last block of
each file, and the outset that a receiver's request may set anew.
-/

namespace SoftBus

inductive DataFrameFlag where
  | startFlag
  | continueFlag
  | endFlag
deriving DecidableEq, Repr

structure SendTask where
  maxSequenceSend : Nat → Int := fun _ => -1
  -- it is not `FILE_MANAGER_EOK`
  errCode : Nat → Bool := fun _ => false
  sendFileProcessed : Nat := 0
  -- file id and block; the id 0 is for none
  newReadOutSet : Nat × Nat := (0, 0)

namespace SendTask

def nextFile (t : SendTask) : SendTask := { t with sendFileProcessed := t.sendFileProcessed + 1 }

section
variable {α : Type} (p : DFileTransfer α) (t : SendTask)

def takeOutSet : SendTask :=
  if t.newReadOutSet.1 = 0 then t
  else if t.newReadOutSet.1 ≤ p.fileNum ∧ t.newReadOutSet.2 < (p.fileInfo t.newReadOutSet.1).totalBlockNum then
    { t with
      newReadOutSet := (0, 0)
      sendFileProcessed := t.newReadOutSet.1 - 1
      maxSequenceSend := fun i =>
        if i = t.newReadOutSet.1 then t.newReadOutSet.2 - 1
        else if t.newReadOutSet.1 < i then -1
        else t.maxSequenceSend i }
  else { t with newReadOutSet := (0, 0) }

/-- The id of the file to read from. An empty file is passed by, and nothing is read in this call. -/
def getFileInfo : Option Nat × SendTask :=
  if p.fileNum ≤ (t.takeOutSet p).sendFileProcessed then (none, t.takeOutSet p)
  else if (t.takeOutSet p).errCode ((t.takeOutSet p).sendFileProcessed + 1) ∨
      (p.fileInfo ((t.takeOutSet p).sendFileProcessed + 1)).fileSize = 0 then
    (none, (t.takeOutSet p).nextFile)
  else (some ((t.takeOutSet p).sendFileProcessed + 1), t.takeOutSet p)

def isEnd (fileId : Nat) (sequence : Int) : Bool :=
  sequence = Word.int32 (((p.fileInfo fileId).totalBlockNum + 4294967295) % 4294967296 : Nat)

def read (fileId : Nat) (sequence : Int) : SendTask :=
  { t with maxSequenceSend := Function.update t.maxSequenceSend fileId sequence }

def createSendBlockFrame (iv : Nat) (t : SendTask) : Option (FileDataFrame × DataFrameFlag) × SendTask :=
  match t.getFileInfo p with
  | (none, t) => (none, t)
  | (some fileId, t) =>
    let sequence := t.maxSequenceSend fileId + 1
    match p.getDataFrame fileId (sequence % 4294967296).toNat iv false with
    | none => (none, { t with errCode := Function.update t.errCode fileId true }.nextFile)
    | some frame =>
      if isEnd p fileId sequence then (some (frame, .endFlag), (t.read fileId sequence).nextFile)
      else (some (frame, if sequence = 0 then .startFlag else .continueFlag), t.read fileId sequence)

/-- `IsValidOutSet` and `FileManagerResetSendOutSet` -/
def fileManagerResetSendOutSet (fileId blockSequence : Nat) : SendTask :=
  if fileId = 0 ∨ p.fileNum < fileId ∨ (p.fileInfo fileId).totalBlockNum ≤ blockSequence then t
  else { t with newReadOutSet := (fileId, blockSequence) }

/-- `FileManagerIsLastBlockRead`, with the size of `sendRetranList` and `hasUnInsetFrame`. -/
def fileManagerIsLastBlockRead (retranSize : Nat) (hasUnInsetFrame : Bool) : Bool :=
  t.newReadOutSet.1 = 0 && t.sendFileProcessed = p.fileNum && retranSize = 0 && !hasUnInsetFrame

/-- The frames of the next calls, of which each draws a vector. -/
def emit (t : SendTask) : List Nat → List (FileDataFrame × DataFrameFlag) × SendTask
  | [] => ([], t)
  | iv :: ivs =>
    ((createSendBlockFrame p iv t).1.toList ++ (emit (createSendBlockFrame p iv t).2 ivs).1,
      (emit (createSendBlockFrame p iv t).2 ivs).2)

/-! ## The blocks that are to come -/

/-- The blocks of a file from `sequence` on. -/
def fileBlocks (fileId sequence : Nat) : List (Nat × Nat) :=
  (List.range' sequence ((p.fileInfo fileId).totalBlockNum - sequence)).map fun b => (fileId, b)

def laterBlocks (fileId : Nat) : List (Nat × Nat) :=
  (List.range' (fileId + 1) (p.fileNum - fileId)).flatMap fun i => fileBlocks p i 0

def remaining : List (Nat × Nat) :=
  if p.fileNum ≤ (t.takeOutSet p).sendFileProcessed then []
  else
    fileBlocks p ((t.takeOutSet p).sendFileProcessed + 1)
        ((t.takeOutSet p).maxSequenceSend ((t.takeOutSet p).sendFileProcessed + 1) + 1).toNat ++
      laterBlocks p ((t.takeOutSet p).sendFileProcessed + 1)

def keyOf (block : FileDataFrame × DataFrameFlag) : Nat × Nat := (block.1.fileId, block.1.blockSequence)

structure Base (t : SendTask) : Prop where
  noErr : ∀ i, t.errCode i = false
  outSet : t.newReadOutSet.1 = 0 ∨
    (t.newReadOutSet.1 ≤ p.fileNum ∧ t.newReadOutSet.2 < (p.fileInfo t.newReadOutSet.1).totalBlockNum)
  later : ∀ i, t.sendFileProcessed + 1 < i → t.maxSequenceSend i = -1
  processed : t.sendFileProcessed ≤ p.fileNum

structure Inv (t : SendTask) : Prop extends Base p t where
  lower : 0 ≤ t.maxSequenceSend (t.sendFileProcessed + 1) + 1
  upper : t.maxSequenceSend (t.sendFileProcessed + 1) + 1 < (p.fileInfo (t.sendFileProcessed + 1)).totalBlockNum ∨
    t.maxSequenceSend (t.sendFileProcessed + 1) = -1

variable {p} {t : SendTask}

theorem takeOutSet_of_zero (h : t.newReadOutSet.1 = 0) : t.takeOutSet p = t := if_pos h

theorem takeOutSet_fst (t : SendTask) : (t.takeOutSet p).newReadOutSet.1 = 0 := by
  unfold takeOutSet
  split
  · assumption
  · split <;> rfl

theorem Inv.takeOutSet (h : Inv p t) : Inv p (t.takeOutSet p) := by
  unfold SendTask.takeOutSet
  split
  · exact h
  · rename_i hne
    have hset := h.outSet.resolve_left hne
    obtain ⟨n, hn⟩ := Nat.exists_eq_succ_of_ne_zero hne
    rw [if_pos hset]
    rw [hn] at hset ⊢
    refine ⟨⟨h.noErr, .inl rfl, fun i hi => ?_, ?_⟩, ?_, ?_⟩
    all_goals dsimp only [Nat.succ_eq_add_one, Nat.add_one_sub_one] at *
    · rw [if_neg (by omega), if_pos (by omega)]
    · omega
    · rw [if_pos rfl]
      omega
    · rw [if_pos rfl]
      exact .inl (by omega)

theorem fileBlocks_cons {fileId sequence : Nat} (h : sequence < (p.fileInfo fileId).totalBlockNum) :
    fileBlocks p fileId sequence = (fileId, sequence) :: fileBlocks p fileId (sequence + 1) := by
  unfold fileBlocks
  obtain ⟨n, hn⟩ : ∃ n, (p.fileInfo fileId).totalBlockNum - sequence = n + 1 :=
    ⟨(p.fileInfo fileId).totalBlockNum - sequence - 1, by omega⟩
  rw [hn, List.range'_succ, List.map_cons, show (p.fileInfo fileId).totalBlockNum - (sequence + 1) = n by omega]

theorem fileBlocks_eq_nil {fileId sequence : Nat} (h : (p.fileInfo fileId).totalBlockNum ≤ sequence) :
    fileBlocks p fileId sequence = [] := by
  unfold fileBlocks
  rw [Nat.sub_eq_zero_of_le h]
  rfl

theorem laterBlocks_eq {fileId : Nat} (h : fileId < p.fileNum) :
    laterBlocks p fileId = fileBlocks p (fileId + 1) 0 ++ laterBlocks p (fileId + 1) := by
  unfold laterBlocks
  obtain ⟨n, hn⟩ : ∃ n, p.fileNum - fileId = n + 1 := ⟨p.fileNum - fileId - 1, by omega⟩
  rw [hn, List.range'_succ, List.flatMap_cons, show p.fileNum - (fileId + 1) = n by omega]

theorem remaining_of_zero (hzero : t.newReadOutSet.1 = 0) (hlt : t.sendFileProcessed < p.fileNum) :
    remaining p t = fileBlocks p (t.sendFileProcessed + 1) (t.maxSequenceSend (t.sendFileProcessed + 1) + 1).toNat ++
      laterBlocks p (t.sendFileProcessed + 1) := by
  unfold remaining
  rw [takeOutSet_of_zero hzero, if_neg (by omega)]

theorem Base.nextFile (h : Base p t) (hlt : t.sendFileProcessed < p.fileNum) : Inv p t.nextFile := by
  have hlater := h.later (t.sendFileProcessed + 1 + 1) (Nat.lt_succ_self _)
  refine ⟨⟨h.noErr, h.outSet, fun i hi => h.later i (Nat.lt_of_succ_lt hi), hlt⟩, ?_, .inr hlater⟩
  show 0 ≤ t.maxSequenceSend (t.sendFileProcessed + 1 + 1) + 1
  omega

theorem Base.remaining_nextFile (h : Base p t) (hzero : t.newReadOutSet.1 = 0) :
    remaining p t.nextFile = laterBlocks p (t.sendFileProcessed + 1) := by
  by_cases hlt : t.sendFileProcessed + 1 < p.fileNum
  · have hlater := h.later (t.sendFileProcessed + 1 + 1) (Nat.lt_succ_self _)
    rw [remaining_of_zero (t := t.nextFile) hzero hlt, laterBlocks_eq hlt]
    show fileBlocks p _ (t.maxSequenceSend (t.sendFileProcessed + 1 + 1) + 1).toNat ++ _ = _
    rw [hlater]
    rfl
  · have hle : p.fileNum ≤ t.nextFile.sendFileProcessed := Nat.le_of_not_lt hlt
    unfold remaining laterBlocks
    rw [takeOutSet_of_zero (t := t.nextFile) hzero, if_pos hle, Nat.sub_eq_zero_of_le (Nat.le_of_not_lt hlt)]
    rfl

end

/-! ## One call -/

section
variable {α : Type} {p : DFileTransfer α} {t : SendTask}

/-- No read error: the files are as long as their sizes say. -/
def Readable (p : DFileTransfer α) : Prop :=
  ∀ id, 1 ≤ id → id ≤ p.fileNum → (p.file id).startOffset + (p.file id).fileSize ≤ (p.file id).data.length

theorem getDataFrame_key {id b iv : Nat} {retran : Bool} {frame : FileDataFrame}
    (h : p.getDataFrame id b iv retran = some frame) : frame.fileId = id ∧ frame.blockSequence = b := by
  unfold DFileTransfer.getDataFrame at h
  split at h
  · cases h
  split at h
  · split at h
    · cases h
    · obtain ⟨buffer, -, rfl⟩ := Option.map_eq_some_iff.mp h
      exact ⟨rfl, rfl⟩
  · obtain ⟨buffer, -, rfl⟩ := Option.map_eq_some_iff.mp h
    exact ⟨rfl, rfl⟩

theorem getDataFrame_some (hp : p.Valid) (hread : Readable p) {id b : Nat} (hid : 1 ≤ id ∧ id ≤ p.fileNum)
    (hb : b < (p.fileInfo id).totalBlockNum) (iv : Nat) :
    ∃ frame, p.getDataFrame id b iv false = some frame := by
  have hlt := (hp.lt_totalBlockNum_iff id b).mp hb
  have htarget := hp.targetLength_eq hb
  have hB := hp.block
  have hdata := hread id hid.1 hid.2
  have hlen : (BlockFile.pread (p.file id).data (DFileTransfer.targetLength (p.fileInfo id) b)
      ((p.fileInfo id).startOffset + p.standardBlockSize * b)).length = DFileTransfer.targetLength (p.fileInfo id) b := by
    rw [BlockFile.length_pread, htarget, Nat.mul_comm, show (p.fileInfo id).startOffset = (p.file id).startOffset from rfl]
    omega
  have hbuf : ∃ buffer, DFileTransfer.getDataFrame.read p id b = some buffer :=
    ⟨_, if_pos hlen⟩
  obtain ⟨buffer, hbuf⟩ := hbuf
  unfold DFileTransfer.getDataFrame
  rw [if_neg (by omega)]
  cases hcrypt : p.crypt with
  | none => exact ⟨_, by rw [hbuf]; rfl⟩
  | some crypt =>
    dsimp only
    rw [if_neg (by rw [htarget]; omega), hbuf]
    exact ⟨_, rfl⟩

theorem isEnd_iff (hp : p.Valid) {id : Nat} (sequence : Int) (hpos : 0 < (p.fileInfo id).totalBlockNum) :
    isEnd p id sequence = true ↔ sequence + 1 = (p.fileInfo id).totalBlockNum := by
  have hlt := p.totalBlockNum_lt id
  have hle : (p.fileInfo id).totalBlockNum ≤ 2147483648 := by
    by_contra hgt
    have := (hp.lt_totalBlockNum_iff id 2147483648).mp (by omega)
    have := hp.size id
    omega
  have hmod : ((p.fileInfo id).totalBlockNum + 4294967295) % 4294967296 = (p.fileInfo id).totalBlockNum - 1 := by omega
  rw [isEnd, hmod, Word.int32_of_bounds (by omega) (by omega), decide_eq_true_eq]
  omega

structure Good (p : DFileTransfer α) (block : FileDataFrame × DataFrameFlag) : Prop where
  lt : block.1.blockSequence < (p.fileInfo block.1.fileId).totalBlockNum
  frame : ∃ iv, p.getDataFrame block.1.fileId block.1.blockSequence iv false = some block.1
  last : block.2 = .endFlag ↔ block.1.blockSequence + 1 = (p.fileInfo block.1.fileId).totalBlockNum

def weight (p : DFileTransfer α) (t : SendTask) : Nat :=
  (remaining p t).length + (p.fileNum - (t.takeOutSet p).sendFileProcessed)

structure Emits (p : DFileTransfer α) (t : SendTask) (o : Option (FileDataFrame × DataFrameFlag)) (t' : SendTask) : Prop where
  inv : Inv p t'
  remaining : SendTask.remaining p t = o.toList.map keyOf ++ SendTask.remaining p t'
  good : ∀ block ∈ o, Good p block
  weight : weight p t' ≤ weight p t - 1

theorem weight_of_zero (hzero : t.newReadOutSet.1 = 0) :
    SendTask.weight p t = (SendTask.remaining p t).length + (p.fileNum - t.sendFileProcessed) := by
  unfold SendTask.weight
  rw [takeOutSet_of_zero hzero]

theorem emits_emptyFile (h : Inv p t) (hzero : t.newReadOutSet.1 = 0) (hlt : t.sendFileProcessed < p.fileNum)
    (hsize : (p.file (t.sendFileProcessed + 1)).fileSize = 0) : Emits p t none t.nextFile := by
  have htotal : (p.fileInfo (t.sendFileProcessed + 1)).totalBlockNum = 0 := by
    unfold DFileTransfer.fileInfo FileInfo.add
    simp [hsize]
  have hrem : SendTask.remaining p t = SendTask.remaining p t.nextFile := by
    rw [remaining_of_zero hzero hlt, h.remaining_nextFile hzero, fileBlocks_eq_nil (by omega), List.nil_append]
  refine ⟨h.nextFile hlt, hrem, by simp, ?_⟩
  rw [weight_of_zero hzero, weight_of_zero (t := t.nextFile) hzero, ← hrem]
  show _ + (p.fileNum - (t.sendFileProcessed + 1)) ≤ _
  omega

theorem emits_block (h : Inv p t) (hzero : t.newReadOutSet.1 = 0) (hlt : t.sendFileProcessed < p.fileNum)
    {b : Nat} (hb : b < (p.fileInfo (t.sendFileProcessed + 1)).totalBlockNum)
    (hseq : t.maxSequenceSend (t.sendFileProcessed + 1) + 1 = b) {frame : FileDataFrame} {iv : Nat}
    (hframe : p.getDataFrame (t.sendFileProcessed + 1) b iv false = some frame)
    (hid : frame.fileId = t.sendFileProcessed + 1) (hblock : frame.blockSequence = b) (flag : DataFrameFlag) :
    (b + 1 = (p.fileInfo (t.sendFileProcessed + 1)).totalBlockNum →
      Emits p t (some (frame, .endFlag)) (t.read (t.sendFileProcessed + 1) b).nextFile) ∧
    (b + 1 ≠ (p.fileInfo (t.sendFileProcessed + 1)).totalBlockNum → flag ≠ .endFlag →
      Emits p t (some (frame, flag)) (t.read (t.sendFileProcessed + 1) b)) := by
  have hrem := remaining_of_zero (p := p) hzero hlt
  rw [hseq, Int.toNat_natCast, fileBlocks_cons hb] at hrem
  have hread : (t.read (t.sendFileProcessed + 1) b).maxSequenceSend (t.sendFileProcessed + 1) = b :=
    Function.update_self _ _ _
  have hother : ∀ i, t.sendFileProcessed + 1 < i → (t.read (t.sendFileProcessed + 1) b).maxSequenceSend i = -1 := by
    intro i hi
    show Function.update _ _ _ _ = _
    rw [Function.update_of_ne (by omega)]
    exact h.later i hi
  have hgood : ∀ flag, (flag = .endFlag ↔ b + 1 = (p.fileInfo (t.sendFileProcessed + 1)).totalBlockNum) →
      Good p (frame, flag) := by
    intro flag hflag
    refine ⟨?_, ⟨iv, ?_⟩, ?_⟩
    all_goals dsimp only; rw [hid, hblock]
    · exact hb
    · exact hframe
    · exact hflag
  have hbase : Base p (t.read (t.sendFileProcessed + 1) b) := ⟨h.noErr, h.outSet, hother, h.processed⟩
  have hweight := weight_of_zero (p := p) hzero
  constructor
  · intro hend
    have hrem' : SendTask.remaining p (t.read (t.sendFileProcessed + 1) b).nextFile =
        laterBlocks p (t.sendFileProcessed + 1) := hbase.remaining_nextFile hzero
    rw [fileBlocks_eq_nil hend.ge] at hrem
    refine ⟨hbase.nextFile hlt, ?_, ?_, ?_⟩
    · rw [hrem, hrem']
      simp [keyOf, hid, hblock]
    · simpa using hgood .endFlag (by simpa using hend)
    · rw [hweight, weight_of_zero (t := (t.read (t.sendFileProcessed + 1) b).nextFile) hzero, hrem, hrem']
      show _ + (p.fileNum - (t.sendFileProcessed + 1)) ≤ _
      simp only [List.cons_append, List.nil_append, List.length_cons]
      omega
  · intro hmore hflag
    have hrem' : SendTask.remaining p (t.read (t.sendFileProcessed + 1) b) =
        fileBlocks p (t.sendFileProcessed + 1) (b + 1) ++ laterBlocks p (t.sendFileProcessed + 1) := by
      refine (remaining_of_zero (t := t.read (t.sendFileProcessed + 1) b) hzero hlt).trans ?_
      show fileBlocks p _ ((t.read (t.sendFileProcessed + 1) b).maxSequenceSend (t.sendFileProcessed + 1) + 1).toNat ++ _ = _
      rw [hread]
      rfl
    refine ⟨⟨hbase, ?_, .inl ?_⟩, ?_, ?_, ?_⟩
    · show 0 ≤ (t.read (t.sendFileProcessed + 1) b).maxSequenceSend (t.sendFileProcessed + 1) + 1
      omega
    · show (t.read (t.sendFileProcessed + 1) b).maxSequenceSend (t.sendFileProcessed + 1) + 1 < _
      show _ < ((p.fileInfo (t.sendFileProcessed + 1)).totalBlockNum : Int)
      omega
    · rw [hrem, hrem']
      simp [keyOf, hid, hblock]
    · simpa using hgood flag ⟨fun h => absurd h hflag, fun h => absurd h hmore⟩
    · rw [hweight, weight_of_zero (t := t.read (t.sendFileProcessed + 1) b) hzero, hrem, hrem']
      show _ + (p.fileNum - t.sendFileProcessed) ≤ _
      simp only [List.cons_append, List.length_cons]
      omega

theorem createSendBlockFrame_takeOutSet (iv : Nat) (t : SendTask) :
    createSendBlockFrame p iv (t.takeOutSet p) = createSendBlockFrame p iv t := by
  unfold createSendBlockFrame getFileInfo
  rw [takeOutSet_of_zero (takeOutSet_fst t)]

theorem Inv.emits (hp : p.Valid) (hread : Readable p) (h : Inv p t) (iv : Nat) :
    Emits p t (createSendBlockFrame p iv t).1 (createSendBlockFrame p iv t).2 := by
  -- an outset that is waiting is taken first
  have key : ∀ t : SendTask, Inv p t → t.newReadOutSet.1 = 0 →
      Emits p t (createSendBlockFrame p iv t).1 (createSendBlockFrame p iv t).2 := by
    intro t h hzero
    have htake := takeOutSet_of_zero (p := p) hzero
    unfold createSendBlockFrame getFileInfo
    rw [htake]
    by_cases hall : p.fileNum ≤ t.sendFileProcessed
    · rw [if_pos hall]
      refine ⟨h, rfl, by simp, ?_⟩
      unfold SendTask.weight SendTask.remaining
      rw [htake, if_pos hall, Nat.sub_eq_zero_of_le hall]
      exact Nat.le_refl _
    have hlt : t.sendFileProcessed < p.fileNum := Nat.lt_of_not_le hall
    rw [if_neg hall]
    by_cases hsize : (p.file (t.sendFileProcessed + 1)).fileSize = 0
    · rw [if_pos (.inr hsize)]
      exact emits_emptyFile h hzero hlt hsize
    · have hnot : ¬(t.errCode (t.sendFileProcessed + 1) = true ∨ (p.fileInfo (t.sendFileProcessed + 1)).fileSize = 0) := by
        rw [h.noErr]
        exact not_or.mpr ⟨Bool.false_ne_true, hsize⟩
      rw [if_neg hnot]
      have hpos : 0 < (p.fileInfo (t.sendFileProcessed + 1)).totalBlockNum :=
        (hp.lt_totalBlockNum_iff _ 0).mpr (by rw [Nat.zero_mul]; exact Nat.pos_of_ne_zero hsize)
      obtain ⟨b, hseq⟩ := Int.eq_ofNat_of_zero_le h.lower
      have hb : b < (p.fileInfo (t.sendFileProcessed + 1)).totalBlockNum := by
        rcases h.upper with hupper | hstart <;> omega
      have hmod : ((t.maxSequenceSend (t.sendFileProcessed + 1) + 1) % 4294967296).toNat = b := by
        have := p.totalBlockNum_lt (t.sendFileProcessed + 1)
        omega
      obtain ⟨frame, hframe⟩ := getDataFrame_some hp hread ⟨Nat.succ_pos _, hlt⟩ hb iv
      obtain ⟨hid, hblock⟩ := getDataFrame_key hframe
      dsimp only
      rw [hmod, hframe, hseq]
      have hend := isEnd_iff hp b hpos
      have hemits := emits_block h hzero hlt hb hseq hframe hid hblock
      by_cases hlast : b + 1 = (p.fileInfo (t.sendFileProcessed + 1)).totalBlockNum
      · have hend' : isEnd p (t.sendFileProcessed + 1) b = true := hend.mpr (by omega)
        dsimp only
        rw [hend', if_pos rfl]
        exact (hemits .endFlag).1 hlast
      · have hend' : ¬isEnd p (t.sendFileProcessed + 1) b = true := fun h' => hlast (by have := hend.mp h'; omega)
        dsimp only
        rw [if_neg hend']
        refine (hemits _).2 hlast ?_
        split <;> decide
  have h' := key (t.takeOutSet p) h.takeOutSet (takeOutSet_fst t)
  rw [createSendBlockFrame_takeOutSet] at h'
  have hrem : SendTask.remaining p (t.takeOutSet p) = SendTask.remaining p t := by
    unfold SendTask.remaining
    rw [takeOutSet_of_zero (takeOutSet_fst t)]
  have hweight : SendTask.weight p (t.takeOutSet p) = SendTask.weight p t := by
    unfold SendTask.weight
    rw [hrem, takeOutSet_of_zero (takeOutSet_fst t)]
  exact ⟨h'.inv, hrem ▸ h'.remaining, h'.good, hweight ▸ h'.weight⟩

/-! ## All calls -/

theorem Inv.emit (hp : p.Valid) (hread : Readable p) : ∀ (ivs : List Nat) {t : SendTask} (_ : Inv p t),
    Inv p (emit p t ivs).2 ∧ remaining p t = (emit p t ivs).1.map keyOf ++ remaining p (emit p t ivs).2 ∧
      (∀ block ∈ (emit p t ivs).1, Good p block) ∧ weight p (emit p t ivs).2 ≤ weight p t - ivs.length
  | [], t, h => ⟨h, rfl, by simp [SendTask.emit], Nat.le_refl _⟩
  | iv :: ivs, t, h => by
    have hone := h.emits hp hread iv
    obtain ⟨hinv, hrem, hgood, hweight⟩ := Inv.emit hp hread ivs hone.inv
    refine ⟨hinv, ?_, ?_, ?_⟩
    · rw [hone.remaining, hrem, SendTask.emit, List.map_append, List.append_assoc]
    · intro block hblock
      rcases List.mem_append.mp hblock with hblock | hblock
      · exact hone.good block (Option.mem_toList.mp hblock)
      · exact hgood block hblock
    · have := hone.weight
      rw [List.length_cons]
      exact hweight.trans (by omega)

inductive Event where
  | createSendBlockFrame (iv : Nat)
  | resetSendOutSet (fileId blockSequence : Nat)

def next (p : DFileTransfer α) (t : SendTask) : Event → SendTask
  | .createSendBlockFrame iv => (createSendBlockFrame p iv t).2
  | .resetSendOutSet fileId blockSequence => t.fileManagerResetSendOutSet p fileId blockSequence

theorem inv_init (p : DFileTransfer α) : Inv p {} :=
  ⟨⟨fun _ => rfl, .inl rfl, fun _ _ => rfl, Nat.zero_le _⟩, Int.le_refl _, .inr rfl⟩

theorem Inv.resetSendOutSet (h : Inv p t) (fileId blockSequence : Nat) :
    Inv p (t.fileManagerResetSendOutSet p fileId blockSequence) := by
  unfold fileManagerResetSendOutSet
  split
  · exact h
  · exact ⟨⟨h.noErr, .inr ⟨by dsimp only; omega, by dsimp only; omega⟩, h.later, h.processed⟩, h.lower, h.upper⟩

theorem inv_run (hp : p.Valid) (hread : Readable p) (es : List Event) : Inv p (Run.final (next p) {} es) := by
  refine Run.inv_final_of_step (I := Inv p) (fun t e h => ?_) es (inv_init p)
  cases e with
  | createSendBlockFrame iv => exact (h.emits hp hread iv).inv
  | resetSendOutSet fileId blockSequence => exact h.resetSendOutSet fileId blockSequence

theorem remaining_resetSendOutSet {fileId blockSequence : Nat} (hid : 1 ≤ fileId ∧ fileId ≤ p.fileNum)
    (hblock : blockSequence < (p.fileInfo fileId).totalBlockNum) (t : SendTask) :
    remaining p (t.fileManagerResetSendOutSet p fileId blockSequence) =
      fileBlocks p fileId blockSequence ++ laterBlocks p fileId := by
  obtain ⟨n, rfl⟩ := Nat.exists_eq_succ_of_ne_zero (Nat.ne_of_gt hid.1)
  have htake : takeOutSet p { t with newReadOutSet := (n + 1, blockSequence) } =
      { t with
        newReadOutSet := (0, 0)
        sendFileProcessed := n
        maxSequenceSend := fun i =>
          if i = n + 1 then (blockSequence : Int) - 1 else if n + 1 < i then -1 else t.maxSequenceSend i } := by
    unfold takeOutSet
    rw [if_neg (Nat.succ_ne_zero n)]
    exact if_pos ⟨hid.2, hblock⟩
  unfold fileManagerResetSendOutSet
  rw [if_neg (by omega)]
  unfold remaining
  rw [htake, if_neg (Nat.not_le_of_lt hid.2)]
  dsimp only
  rw [if_pos rfl, Int.sub_add_cancel, Int.toNat_natCast]

theorem remaining_init (p : DFileTransfer α) : remaining p {} = laterBlocks p 0 := by
  have h := (inv_init p).toBase
  unfold remaining
  rw [takeOutSet_of_zero rfl]
  split
  · rename_i hle
    unfold laterBlocks
    rw [Nat.sub_eq_zero_of_le hle]
    rfl
  · rename_i hlt
    rw [laterBlocks_eq (Nat.lt_of_not_le hlt)]
    rfl

/-! ## The bytes -/

def blockBytes (p : DFileTransfer α) (key : Nat × Nat) : List UInt8 :=
  BlockFile.pread (p.file key.1).data (DFileTransfer.targetLength (p.fileInfo key.1) key.2)
    ((p.file key.1).startOffset + key.2 * p.standardBlockSize)

theorem Good.bytes (hp : p.Valid) {block : FileDataFrame × DataFrameFlag} (h : Good p block) :
    p.plainPayload block.1.blockPayload = blockBytes p (keyOf block) := by
  obtain ⟨iv, hframe⟩ := h.frame
  exact ((hp.honest hframe).payload h.lt).2.2

theorem flatMap_blockBytes (hp : p.Valid) (id : Nat) : ∀ k ≤ (p.fileInfo id).totalBlockNum,
    (List.range k).flatMap (fun b => blockBytes p (id, b)) =
      BlockFile.pread (p.file id).data (min (k * p.standardBlockSize) (p.file id).fileSize) (p.file id).startOffset
  | 0, _ => by simp [BlockFile.pread]
  | k + 1, hk => by
    have hlt := (hp.lt_totalBlockNum_iff id k).mp hk
    rw [List.range_succ, List.flatMap_append, flatMap_blockBytes hp id k (Nat.le_of_succ_le hk), List.flatMap_singleton,
      blockBytes, hp.targetLength_eq hk]
    have hsum : min ((k + 1) * p.standardBlockSize) (p.file id).fileSize =
        k * p.standardBlockSize + min p.standardBlockSize ((p.file id).fileSize - k * p.standardBlockSize) := by
      rw [Nat.succ_mul]
      omega
    rw [hsum, Nat.min_eq_left hlt.le, BlockFile.pread, BlockFile.pread, BlockFile.pread, List.take_add, List.drop_drop]

theorem filter_fileBlocks (fileId sequence id : Nat) :
    (fileBlocks p fileId sequence).filter (·.1 = id) = if fileId = id then fileBlocks p fileId sequence else [] := by
  unfold fileBlocks
  split
  · rename_i heq
    rw [List.filter_eq_self.mpr]
    intro key hkey
    obtain ⟨b, -, rfl⟩ := List.mem_map.mp hkey
    exact decide_eq_true heq
  · rename_i hne
    rw [List.filter_eq_nil_iff]
    intro key hkey heq
    obtain ⟨b, -, rfl⟩ := List.mem_map.mp hkey
    exact hne (of_decide_eq_true heq)

theorem filter_flatMap_fileBlocks (id : Nat) : ∀ (n start : Nat),
    ((List.range' start n).flatMap fun i => fileBlocks p i 0).filter (·.1 = id) =
      if start ≤ id ∧ id < start + n then fileBlocks p id 0 else []
  | 0, start => by
    rw [if_neg (by omega)]
    rfl
  | n + 1, start => by
    rw [List.range'_succ, List.flatMap_cons, List.filter_append, filter_fileBlocks, filter_flatMap_fileBlocks id n (start + 1)]
    by_cases heq : start = id
    · rw [if_pos heq, if_neg (by omega), if_pos (by omega), heq, List.append_nil]
    · rw [if_neg heq, List.nil_append]
      congr 1
      rw [eq_iff_iff]
      omega

theorem payloads_eq (hp : p.Valid) {blocks : List (FileDataFrame × DataFrameFlag)} (hgood : ∀ block ∈ blocks, Good p block)
    (hall : blocks.map keyOf = laterBlocks p 0) {id : Nat} (hid : 1 ≤ id ∧ id ≤ p.fileNum) :
    (blocks.filter fun block => block.1.fileId = id).flatMap (fun block => p.plainPayload block.1.blockPayload) =
      BlockFile.pread (p.file id).data (p.file id).fileSize (p.file id).startOffset := by
  have hkeys : (blocks.filter fun block => block.1.fileId = id).map keyOf = fileBlocks p id 0 := by
    have hfilter : (blocks.map keyOf).filter (·.1 = id) = (blocks.filter fun block => block.1.fileId = id).map keyOf :=
      List.filter_map
    rw [← hfilter, hall, laterBlocks, filter_flatMap_fileBlocks, if_pos (by omega)]
  have hbytes : ∀ block ∈ blocks.filter fun block => block.1.fileId = id,
      p.plainPayload block.1.blockPayload = blockBytes p (keyOf block) :=
    fun block hblock => (hgood block (List.mem_of_mem_filter hblock)).bytes hp
  have hmin : min ((p.fileInfo id).totalBlockNum * p.standardBlockSize) (p.file id).fileSize = (p.file id).fileSize := by
    have := hp.lt_totalBlockNum_iff id (p.fileInfo id).totalBlockNum
    omega
  have hrange := flatMap_blockBytes hp id _ (Nat.le_refl _)
  rw [hmin] at hrange
  rw [← hrange, List.flatMap_congr hbytes, ← List.flatMap_map, hkeys, fileBlocks, List.flatMap_map, Nat.sub_zero,
    List.range_eq_range']

/-- The frames of the calls from `t` on, of which `blocks` is to come: in order, each once, the right flags. -/
def Sends (p : DFileTransfer α) (t : SendTask) (blocks : List (Nat × Nat)) : Prop :=
  ∀ ivs, (emit p t ivs).1.map keyOf <+: blocks ∧
    (blocks.length + p.fileNum ≤ ivs.length → (emit p t ivs).1.map keyOf = blocks) ∧
    (∀ block ∈ (emit p t ivs).1,
      block.2 = .endFlag ↔ block.1.blockSequence + 1 = (p.fileInfo block.1.fileId).totalBlockNum) ∧
    ∀ retranSize hasUnInsetFrame, (emit p t ivs).2.fileManagerIsLastBlockRead p retranSize hasUnInsetFrame = true →
      (emit p t ivs).1.map keyOf = blocks

theorem Inv.sends (hp : p.Valid) (hread : Readable p) (h : Inv p t) : Sends p t (remaining p t) := by
  intro ivs
  obtain ⟨-, hrem, hgood, hweight⟩ := h.emit hp hread ivs
  have hnil : remaining p (SendTask.emit p t ivs).2 = [] → (SendTask.emit p t ivs).1.map keyOf = remaining p t := by
    intro hnil
    rw [hrem, hnil, List.append_nil]
  refine ⟨⟨_, hrem.symm⟩, fun hlen => hnil ?_, fun block hblock => (hgood block hblock).last, fun _ _ hlast => hnil ?_⟩
  · unfold weight at hweight
    exact List.length_eq_zero_iff.mp (by omega)
  · unfold fileManagerIsLastBlockRead at hlast
    simp only [Bool.and_eq_true, decide_eq_true_eq] at hlast
    unfold remaining
    rw [takeOutSet_of_zero hlast.1.1.1, if_pos hlast.1.1.2.ge]

end

/-- **Sending.** The calls give out all blocks of all files, and of each file its bytes. After every run, an outset that is
taken makes them go on with its block and all that come after it. -/
theorem dfile_sends_every_block {α : Type} {p : DFileTransfer α} (hp : p.Valid) (hread : Readable p) :
    Sends p {} (laterBlocks p 0) ∧
      (∀ ivs id, (laterBlocks p 0).length + p.fileNum ≤ ivs.length → 1 ≤ id ∧ id ≤ p.fileNum →
        ((emit p {} ivs).1.filter fun block => block.1.fileId = id).flatMap
            (fun block => p.plainPayload block.1.blockPayload) =
          BlockFile.pread (p.file id).data (p.file id).fileSize (p.file id).startOffset) ∧
      ∀ es fileId blockSequence, 1 ≤ fileId ∧ fileId ≤ p.fileNum →
        blockSequence < (p.fileInfo fileId).totalBlockNum →
          Sends p ((Run.final (next p) {} es).fileManagerResetSendOutSet p fileId blockSequence)
            (fileBlocks p fileId blockSequence ++ laterBlocks p fileId) := by
  have hinit := (inv_init p).sends hp hread
  rw [remaining_init] at hinit
  refine ⟨hinit, fun ivs id hlen hid => ?_, fun es fileId blockSequence hid hblock => ?_⟩
  · exact payloads_eq hp ((inv_init p).emit hp hread ivs).2.2.1 ((hinit ivs).2.1 hlen) hid
  · have h := ((inv_run hp hread es).resetSendOutSet fileId blockSequence).sends hp hread
    rwa [remaining_resetSendOutSet hid hblock] at h

/-- A file of 60 bytes in blocks of 50, and an empty one. -/
theorem dfile_sends_two_blocks :
    Sends ⟨1, 2, fun id => ⟨id, List.replicate 60 7, if id = 1 then 60 else 0, 0⟩, 64, none⟩ {} [(1, 0), (1, 1)] :=
  (dfile_sends_every_block (p := ⟨1, 2, fun id => ⟨id, List.replicate 60 7, if id = 1 then 60 else 0, 0⟩, 64, none⟩)
    ⟨by decide, by decide, fun id => by
        show (if id = 1 then 60 else 0) < 2147483648 * 50
        split <;> omega,
      fun _ => (by decide : (List.replicate 60 (7 : UInt8)).length < 9223372036854775808)⟩
    fun id _ _ => by
      show 0 + (if id = 1 then 60 else 0) ≤ (List.replicate 60 (7 : UInt8)).length
      rw [List.length_replicate]
      split <;> omega).1

end SendTask

end SoftBus
