import SoftBus.FileFrame
import SoftBus.Lib.BlockFile

/-!
# The receiving side of a file transfer

`CreateFileFromFrame`, `WriteFrameToFile`, `ProcessFileAckRequest` and
`ProcessCrcCheckSumData` of `client_trans_proxy_file_manager.c`, for the
recipient of one session. Locks, listeners and logs are left out; sending a
frame to the peer succeeds.
-/

namespace SoftBus

open Word BlockFile

inductive FileRecvState where
  | idle
  | start
  | process
  | err
deriving DecidableEq, Repr

inductive RecvFileNodeStatus where
  | idle
  | busy
  | err
deriving DecidableEq, Repr

structure SingleFileInfo where
  seq : Nat := 0
  fileStatus : RecvFileNodeStatus := .idle
  fileOffset : Nat := 0
  oneFrameLen : Nat := 0
  startSeq : Nat := 0
  seqResult : BitVec 64 := 0#64
  preStartSeq : Nat := 0
  preSeqResult : BitVec 32 := 0#32
  fileSize : Nat := 0
  timeOut : Nat := 0
  checkSumCRC : Nat := 0
  filePath : List UInt8 := []
  -- The content of the file behind `fileFd`.
  file : List UInt8 := []
deriving DecidableEq, Repr

structure FileRecipientInfo where
  crc : Bool
  recvState : FileRecvState := .idle
  recvFileInfo : SingleFileInfo := {}
deriving DecidableEq, Repr

/-- What the receiver is told by the session and by the file system. -/
structure RecvEnv where
  -- Whether the session supports checksums; none where `CreateNewRecipient` fails.
  crc : Option Bool
  rootDir : List UInt8
  createDirAndGetAbsPath : List UInt8 → Option (List UInt8)
  checkRecvFileExist : List UInt8 → Bool
  -- Opening and locking the destination works.
  openFile : List UInt8 → Bool

/-! ## Paths -/

def pathSeparator : UInt8 := 0x2F

/-- `strstr(s, "..") != NULL` -/
def hasDotDot : List UInt8 → Bool
  | a :: b :: s => a == 0x2E && b == 0x2E || hasDotDot (b :: s)
  | _ => false

def checkDestFilePathValid (destFile : List UInt8) : Bool :=
  if destFile.length = 0 ∨ maxFilePathNameLen < destFile.length ∨ destFile.head? = some pathSeparator then false
  else !hasDotDot destFile

def getFullRecvPath (filePath recvRootDir : List UInt8) : List UInt8 :=
  if filePath.head? = some pathSeparator ∨ recvRootDir.getLast? = some pathSeparator then recvRootDir ++ filePath
  else recvRootDir ++ pathSeparator :: filePath

def isPathValid (filePath : List UInt8) : Bool :=
  if filePath.length = 0 ∨ maxFilePathNameLen - 1 < filePath.length then false
  else filePath.getLast? != some pathSeparator

/-! ## Opening the destination -/

def SingleFileInfo.ofStartInfo (info : StartInfo) : SingleFileInfo :=
  match info.sizes with
  | some (oneFrameLen, fileSize) =>
    { oneFrameLen, fileSize, startSeq := 1, preStartSeq := 1, filePath := info.fileName }
  | none => { seq := info.seq, filePath := info.fileName }

def getFileInfoByStartFrame (env : RecvEnv) (crc : Bool) (frame : List UInt8) : Except SoftbusRet SingleFileInfo :=
  if hasDotDot env.rootDir then .error .err
  else
    match unpackFileTransStartInfo crc frame with
    | .error _ => .error .err
    | .ok info =>
      let file := SingleFileInfo.ofStartInfo info
      let filePath := cString file.filePath
      if !checkDestFilePathValid filePath then .error .err
      else if !isPathValid (getFullRecvPath filePath env.rootDir) then .error .err
      else
        match env.createDirAndGetAbsPath (getFullRecvPath filePath env.rootDir) with
        | none => .error .err
        | some absPath => .ok { file with filePath := absPath }

def putToRecvFileList (env : RecvEnv) (recipient : FileRecipientInfo) (file : SingleFileInfo) :
    Except SoftbusRet FileRecipientInfo :=
  if recipient.recvFileInfo.fileStatus ≠ .idle then .error .err
  else if env.checkRecvFileExist file.filePath then .error .fileErr
  else if !env.openFile file.filePath then .error .fileErr
  else .ok { recipient with
    recvFileInfo := { file with fileStatus := .busy, fileOffset := 0, timeOut := 0, file := [] } }

structure RecvResult where
  ret : SoftbusRet
  recipient : Option FileRecipientInfo
  sent : List FileFrame

/-- `SendFileTransResult` of the receiving side. -/
def recvResultFrame (seq : Nat) (result : SoftbusRet) : FileFrame :=
  ⟨.fileResultFrame, packFileTransResult seq 0 result⟩

def getRecipientInCreateFileRef (env : RecvEnv) : Option FileRecipientInfo → Option FileRecipientInfo
  | none => env.crc.map fun crc => { crc, recvState := .start }
  | some r => if r.recvState ≠ .idle then none else some { r with recvState := .start }

def createFileFromFrame (env : RecvEnv) (recipient : Option FileRecipientInfo) (frame : List UInt8) : RecvResult :=
  match getRecipientInCreateFileRef env recipient with
  | none => ⟨.err, recipient, []⟩
  | some r =>
    match (getFileInfoByStartFrame env r.crc frame).bind (putToRecvFileList env r) with
    | .ok r' => ⟨.ok, some r', if r.crc then [recvResultFrame 0 .ok] else []⟩
    | .error _ => ⟨.err, none, if r.crc then [recvResultFrame 0 .err] else []⟩

/-! ## Data frames -/

inductive FrameIo where
  | ok
  | emptyFails
  | dataFails
deriving DecidableEq, Repr

/-- The write loop of `WriteEmptyFrame`. -/
def writeEmptyFrame (file : SingleFileInfo) : Nat → SingleFileInfo
  | 0 => file
  | count + 1 =>
    writeEmptyFrame
      { file with
        file := pwrite 0 file.file (List.replicate file.oneFrameLen 0) file.fileOffset
        fileOffset := file.fileOffset + file.oneFrameLen }
      count

/-- The size checks and the write of a frame. In this and the next functions an error is
`SOFTBUS_ERR` and carries the file info as the call leaves it. -/
def pwriteFrame (io : FrameIo) (frame : DataFrame) (fileOffset : Nat) (file : SingleFileInfo) :
    Except SingleFileInfo SingleFileInfo :=
  if maxFileSize < frame.data.length then .error file
  else if maxFileSize - frame.data.length < fileOffset then .error file
  else if io = .dataFails then .error file
  else .ok { file with file := pwrite 0 file.file frame.data fileOffset }

def advanceFileOffset (frame : DataFrame) (file : SingleFileInfo) : Except SingleFileInfo SingleFileInfo :=
  let file' := { file with fileOffset := file.fileOffset + frame.data.length }
  if maxFileSize < file'.fileOffset then .error file' else .ok file'

def frameBit (seq : Nat) : Nat :=
  if seq % fileSendAckInterval = 0 then fileSendAckInterval - 1 else seq % fileSendAckInterval - 1

def FrameLoss (frameType : SessionPktType) (seq : Nat) (file : SingleFileInfo) : Prop :=
  ((file.preStartSeq + fileSendAckInterval + waitFrameAckTimeoutCount - 1) % 2 ^ 32 ≤ seq ∨
      frameType = .fileLastFrame ∧ fileSendAckInterval < seq) ∧
    file.preSeqResult ≠ fileSendAckResultSuccess

instance (frameType : SessionPktType) (seq : Nat) (file : SingleFileInfo) :
    Decidable (FrameLoss frameType seq file) :=
  inferInstanceAs (Decidable (_ ∧ _))

def seqDiff (seq : Nat) (file : SingleFileInfo) : Int := int32 ((seq : Int) - file.seq - 1)

/-- A frame of the current window. The byte counts stay far from the limits of `int64_t`. The
mask `0x01 << bit` is an `int`: for bit 31 it sets the whole upper half of the result. -/
def processNewFrame (io : FrameIo) (frameType : SessionPktType) (frame : DataFrame) (file : SingleFileInfo) :
    Except SingleFileInfo SingleFileInfo :=
  let bytesToWrite : Int := seqDiff frame.seq file * file.oneFrameLen
  if (maxFileSize : Int) < bytesToWrite then .error file
  else if (maxFileSize : Int) - bytesToWrite < file.fileOffset then .error file
  else if io = .emptyFails ∧ 0 < seqDiff frame.seq file then .error file
  else
    let file' := writeEmptyFrame file (seqDiff frame.seq file).toNat
    if FrameLoss frameType frame.seq file' then .error file'
    else
      let file'' := { file' with
        seq := frame.seq
        seqResult := file'.seqResult ||| (BitVec.twoPow 32 (frameBit frame.seq)).signExtend 64 }
      ((pwriteFrame io frame file''.fileOffset file'').bind (advanceFileOffset frame)).map fun f =>
        { f with checkSumCRC := (f.checkSumCRC + frame.crc) % 2 ^ 64 }

def processRetransFrame (io : FrameIo) (frame : DataFrame) (file : SingleFileInfo) :
    Except SingleFileInfo SingleFileInfo :=
  pwriteFrame io frame ((frame.seq - 1) * file.oneFrameLen)
    { file with preSeqResult := file.preSeqResult ||| BitVec.twoPow 32 (frameBit frame.seq) }

def processOneFrameCRC (io : FrameIo) (frameType : SessionPktType) (frame : DataFrame) (file : SingleFileInfo) :
    Except SingleFileInfo SingleFileInfo :=
  if frame.seq < 1 ∨ (file.startSeq + fileSendAckInterval) % 2 ^ 32 ≤ frame.seq then .error file
  else if file.startSeq ≤ frame.seq then processNewFrame io frameType frame file
  else processRetransFrame io frame file

def processOneFrame (io : FrameIo) (frameType : SessionPktType) (frame : DataFrame) (crc : Bool)
    (file : SingleFileInfo) : Except SingleFileInfo SingleFileInfo :=
  if file.fileStatus = .err then .error file
  else if crc then processOneFrameCRC io frameType frame file
  else (pwriteFrame io frame file.fileOffset { file with seq := frame.seq }).bind (advanceFileOffset frame)

/-! ## What an accepted data frame does -/

theorem writeEmptyFrame_eq : ∀ (n : Nat) (file : SingleFileInfo), ∃ content,
    writeEmptyFrame file n = { file with file := content, fileOffset := file.fileOffset + n * file.oneFrameLen }
  | 0, file => ⟨file.file, by rw [writeEmptyFrame, Nat.zero_mul, Nat.add_zero]⟩
  | n + 1, file => by
    obtain ⟨content, heq⟩ := writeEmptyFrame_eq n { file with
      file := pwrite 0 file.file (List.replicate file.oneFrameLen 0) file.fileOffset
      fileOffset := file.fileOffset + file.oneFrameLen }
    refine ⟨content, ?_⟩
    rw [writeEmptyFrame, heq, Nat.succ_mul, Nat.add_assoc, Nat.add_comm (n * _)]

section
variable {io : FrameIo} {frameType : SessionPktType} {frame : DataFrame} {file file' : SingleFileInfo} {offset : Nat}

theorem pwriteFrame_ok (h : pwriteFrame io frame offset file = .ok file') :
    file' = { file with file := pwrite 0 file.file frame.data offset } := by
  unfold pwriteFrame at h
  split at h
  · exact nomatch h
  split at h
  · exact nomatch h
  split at h
  · exact nomatch h
  exact (Except.ok.inj h).symm

theorem advanceFileOffset_ok (h : advanceFileOffset frame file = .ok file') :
    file' = { file with fileOffset := file.fileOffset + frame.data.length } ∧ file'.fileOffset ≤ maxFileSize := by
  unfold advanceFileOffset at h
  dsimp only at h
  split at h
  · exact nomatch h
  · next hle =>
    have heq := (Except.ok.inj h).symm
    exact ⟨heq, heq ▸ Nat.not_lt.mp hle⟩

theorem processNewFrame_ok (h : processNewFrame io frameType frame file = .ok file') :
    let filled := writeEmptyFrame file (seqDiff frame.seq file).toNat
    (∃ sum, file' = { filled with
      seq := frame.seq
      seqResult := filled.seqResult ||| (BitVec.twoPow 32 (frameBit frame.seq)).signExtend 64
      file := pwrite 0 filled.file frame.data filled.fileOffset
      fileOffset := filled.fileOffset + frame.data.length
      checkSumCRC := sum }) ∧
    file'.fileOffset ≤ maxFileSize := by
  intro filled
  unfold processNewFrame at h
  dsimp only at h
  split at h
  · exact nomatch h
  split at h
  · exact nomatch h
  split at h
  · exact nomatch h
  split at h
  · exact nomatch h
  cases hwrite : pwriteFrame io frame filled.fileOffset { filled with
      seq := frame.seq
      seqResult := filled.seqResult ||| (BitVec.twoPow 32 (frameBit frame.seq)).signExtend 64 } with
  | error f =>
    rw [hwrite] at h
    exact nomatch h
  | ok f =>
    rw [hwrite] at h
    cases hadvance : advanceFileOffset frame f with
    | error f' =>
      simp only [Except.bind, Except.map, hadvance] at h
      exact nomatch h
    | ok f' =>
      simp only [Except.bind, Except.map, hadvance] at h
      obtain ⟨hf', hle⟩ := advanceFileOffset_ok hadvance
      rw [← Except.ok.inj h]
      exact ⟨⟨_, by rw [hf', pwriteFrame_ok hwrite]⟩, hle⟩

theorem processOneFrameCRC_ok (h : processOneFrameCRC io frameType frame file = .ok file') :
    (1 ≤ frame.seq ∧ frame.seq < (file.startSeq + fileSendAckInterval) % 2 ^ 32) ∧
    (file.startSeq ≤ frame.seq ∧ processNewFrame io frameType frame file = .ok file' ∨
      frame.seq < file.startSeq ∧ processRetransFrame io frame file = .ok file') := by
  unfold processOneFrameCRC at h
  split at h
  · exact nomatch h
  next hseq =>
  refine ⟨by omega, ?_⟩
  split at h
  · next hnew => exact .inl ⟨hnew, h⟩
  · next hold => exact .inr ⟨by omega, h⟩

end

def getRecipientInProcessRef : Option FileRecipientInfo → Option FileRecipientInfo
  | none => none
  | some r =>
    if r.recvState = .idle then none
    else some { r with recvState := if r.recvState = .start then .process else r.recvState }

/-- `SetRecipientRecvState` with the idle state: a recipient in the error state stays in it. -/
def FileRecipientInfo.setIdle (r : FileRecipientInfo) : FileRecipientInfo :=
  if r.recvState = .err then r
  else { r with recvState := .idle, recvFileInfo := { r.recvFileInfo with fileStatus := .idle } }

/-- What `ClearRecipientResources` sends when a recipient in the error state is freed. -/
def clearRecipientResources (crc : Bool) (file : SingleFileInfo) : List FileFrame :=
  if crc then [recvResultFrame file.seq .err] else []

def writeFrameToFile (io : FrameIo) (recipient : Option FileRecipientInfo) (frame : FileFrame) : RecvResult :=
  match getRecipientInProcessRef recipient with
  | none => ⟨.notFind, recipient, []⟩
  | some r =>
    let failed (file : SingleFileInfo) : RecvResult :=
      ⟨.err, none, (if r.crc then [recvResultFrame 0 .err] else []) ++ clearRecipientResources r.crc file⟩
    match unpackFileDataFrame r.crc frame.data with
    | .error _ => failed r.recvFileInfo
    | .ok d =>
      match processOneFrame io frame.frameType d r.crc r.recvFileInfo with
      | .error file => failed file
      | .ok file =>
        let r' := { r with recvFileInfo := { file with timeOut := 0 } }
        -- without checksums the last frame ends the transfer
        ⟨.ok, some (if r.crc = false ∧ (frame.frameType = .fileLastFrame ∨ frame.frameType = .fileOnlyoneFrame)
          then r'.setIdle else r'), []⟩

/-! ## Acknowledgements and the final checksum -/

def ackRequestFile (startSeq : Nat) (file : SingleFileInfo) : SingleFileInfo :=
  { file with
    timeOut := 0
    preStartSeq := startSeq
    startSeq := (startSeq + fileSendAckInterval) % 2 ^ 32
    preSeqResult := file.seqResult.setWidth 32
    seqResult := file.seqResult >>> fileSendAckInterval }

def processFileAckRequest (recipient : Option FileRecipientInfo) (frame : FileFrame) : RecvResult :=
  match getRecipientInProcessRef recipient with
  | none => ⟨.notFind, recipient, []⟩
  | some r =>
    match unpackAckReqAndResData frame.data with
    | .error _ => ⟨.err, some r, []⟩
    | .ok (startSeq, _) =>
      if startSeq ≠ r.recvFileInfo.startSeq then ⟨.err, some r, []⟩
      else
        let value := r.recvFileInfo.seqResult.setWidth 32
        ⟨.ok, some { r with recvFileInfo := ackRequestFile startSeq r.recvFileInfo },
          [⟨.fileAckResponseSent, packAckReqAndResData startSeq value.toNat⟩]⟩

def processCrcCheckSumData (recipient : Option FileRecipientInfo) (frame : FileFrame) : RecvResult :=
  match getRecipientInProcessRef recipient with
  | none => ⟨.notFind, recipient, []⟩
  | some r =>
    let (result, seq) := unpackFileCrcCheckSum r.crc r.recvFileInfo.checkSumCRC frame.data
    if result = .ok then ⟨.ok, some r.setIdle, [recvResultFrame seq .ok]⟩
    else ⟨.err, none, recvResultFrame seq result :: clearRecipientResources r.crc r.recvFileInfo⟩

/-- The part of `ProcessRecvFileFrameData` for the receiving side. The other frame types go to
the sending side or end a whole list of files. -/
def processRecvFileFrameData (env : RecvEnv) (io : FrameIo) (recipient : Option FileRecipientInfo)
    (frame : FileFrame) : RecvResult :=
  if proxyMaxPacketSize < frame.data.length then ⟨.err, recipient, []⟩
  else
    match frame.frameType with
    | .fileFirstFrame => createFileFromFrame env recipient frame.data
    | .fileOngoineFrame | .fileOnlyoneFrame | .fileLastFrame => writeFrameToFile io recipient frame
    | .fileAckRequestSent => processFileAckRequest recipient frame
    | .fileCrcCheckFrame => processCrcCheckSumData recipient frame
    | _ => ⟨.err, recipient, []⟩

end SoftBus
