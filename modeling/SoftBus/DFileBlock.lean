import SoftBus.Lib.BlockFile
import SoftBus.Lib.Run

/-!
# The receive task of the DFile file manager

A file goes over in blocks of one size. The receiver queues the data frames, a
thread writes each block at its place, and a file counts as received when as many
blocks have been written as it has.
-/

namespace SoftBus

/-! ## Blocks and frames -/

/-- `offsetof(FileDataFrame, blockPayload)` -/
def fileDataFrameLen : Nat := 14

def gcmAddedLen : Nat := 28

def nstackxMaxFrameSize : Nat := 14720

/-- `AesGcmEncrypt`, with the vector it draws, and `AesGcmDecrypt`, which gives nothing back on an error. -/
structure DFileCrypt where
  encrypt : Nat → List UInt8 → List UInt8
  decrypt : List UInt8 → List UInt8
  length_encrypt : ∀ iv data, (encrypt iv data).length = data.length + gcmAddedLen
  decrypt_encrypt : ∀ iv data, decrypt (encrypt iv data) = data

/-- `GetStandardBlockSize`; `key` tells whether there is one. -/
def getStandardBlockSize (maxFrameLength : Nat) (key : Bool) : Nat :=
  if maxFrameLength ≤ fileDataFrameLen then 0
  else if key then
    if maxFrameLength - fileDataFrameLen ≤ gcmAddedLen then 0
    else (maxFrameLength - fileDataFrameLen - gcmAddedLen) % 65536
  else (maxFrameLength - fileDataFrameLen) % 65536

structure FileDataFrame where
  transId : Nat
  fileId : Nat
  blockSequence : Nat
  length : Nat
  retran : Bool
  blockPayload : List UInt8
deriving DecidableEq, Repr

structure FileInfo (α : Type) where
  fileName : α
  fileSize : Nat
  startOffset : Nat
  standardBlockSize : Nat
  totalBlockNum : Nat
  receivedBlockNum : Nat := 0
  -- it is open
  fd : Bool := false
  -- it is not `FILE_MANAGER_EOK`
  errCode : Bool := false

/-- The part that `AddSendFileInfo` and `AddRecvFileInfo` share. -/
def FileInfo.add {α : Type} (fileName : α) (fileSize startOffset standardBlockSize : Nat) : FileInfo α where
  fileName := fileName
  fileSize := fileSize
  startOffset := startOffset
  standardBlockSize := standardBlockSize
  totalBlockNum := (fileSize / standardBlockSize + if fileSize % standardBlockSize ≠ 0 then 1 else 0) % 4294967296

/-! ## The sender -/

structure SentFile (α : Type) where
  fileName : α
  -- what the file on the sender's disk holds
  data : List UInt8
  fileSize : Nat
  startOffset : Nat

/-- A transfer between two sides with the same key and the same block size. -/
structure DFileTransfer (α : Type) where
  transId : Nat
  fileNum : Nat
  file : Nat → SentFile α
  maxFrameLength : Nat
  crypt : Option DFileCrypt

namespace DFileTransfer
variable {α : Type} (p : DFileTransfer α)

def standardBlockSize : Nat := getStandardBlockSize p.maxFrameLength p.crypt.isSome

def fileInfo (fileId : Nat) : FileInfo α :=
  .add (p.file fileId).fileName (p.file fileId).fileSize (p.file fileId).startOffset p.standardBlockSize

def targetLength (info : FileInfo α) (targetSequence : Nat) : Nat :=
  if targetSequence = (info.totalBlockNum + 4294967295) % 4294967296 then
    (info.fileSize - info.standardBlockSize * targetSequence) % 65536
  else info.standardBlockSize

def readFromFile (data : List UInt8) (info : FileInfo α) (offset bufferLength : Nat) : Option (List UInt8) :=
  if (BlockFile.pread data bufferLength (info.startOffset + offset)).length = bufferLength then
    some (BlockFile.pread data bufferLength (info.startOffset + offset))
  else none

/-- `GetEncryptedDataFrame` and `GetNoEncryptedDataFrame`. -/
def getDataFrame (fileId targetSequence iv : Nat) (retran : Bool) : Option FileDataFrame :=
  if fileId = 0 ∨ p.fileNum < fileId then none
  else
    match p.crypt with
    | some crypt =>
      if targetLength (p.fileInfo fileId) targetSequence = 0 then none
      else (read fileId targetSequence).map fun buffer => frame fileId targetSequence retran (crypt.encrypt iv buffer)
    | none => (read fileId targetSequence).map (frame fileId targetSequence retran)
where
  read (fileId targetSequence : Nat) : Option (List UInt8) :=
    readFromFile (p.file fileId).data (p.fileInfo fileId) (p.standardBlockSize * targetSequence)
      (targetLength (p.fileInfo fileId) targetSequence)
  frame (fileId targetSequence : Nat) (retran : Bool) (payload : List UInt8) : FileDataFrame :=
    ⟨p.transId, fileId, targetSequence, (fileDataFrameLen + payload.length - 8) % 65536, retran, payload⟩

end DFileTransfer

/-! ## The receiver -/

inductive FileIo where
  | ok
  | cantOpen
  | cantSeek
deriving DecidableEq, Repr

/-- `FileListTask`; the files go by their id. -/
structure RecvTask (α : Type) where
  fileInfo : Nat → FileInfo α
  -- it is not `FILE_MANAGER_EOK`
  errCode : Bool := false
  recvFileProcessed : Nat := 0
  isRecvEmptyFilesCreated : Bool := false
  recvBlockList : List FileDataFrame := []
  innerRecvBlock : List FileDataFrame := []
  -- what has been written into each file on disk since it was last cut to nothing
  disk : α → Nat → Option UInt8 := fun _ _ => none
  -- the messages about files: the id, and whether it is `FILE_MANAGER_RECEIVE_SUCCESS`
  msgs : List (Nat × Bool) := []
  -- the blocks written to each file, the last one first
  written : Nat → List Nat := fun _ => []

namespace RecvTask
variable {α : Type} [DecidableEq α] (t : RecvTask α)

def setFile (fileId : Nat) (info : FileInfo α) : RecvTask α :=
  { t with fileInfo := Function.update t.fileInfo fileId info }

def notifyFileMsg (fileId : Nat) (success : Bool) : RecvTask α :=
  { t with msgs := t.msgs ++ [(fileId, success)] }

/-- `FileInfoWriteInit` with truncation, for a file that is not open. -/
def fileInfoWriteInit (fileId : Nat) (io : FileIo) : RecvTask α :=
  if io = .cantOpen then t.setFile fileId { t.fileInfo fileId with errCode := true }
  else
    { t.setFile fileId { t.fileInfo fileId with fd := true } with
      disk := Function.update t.disk (t.fileInfo fileId).fileName fun _ => none }

/-- The part of `WriteToFile` for a file that is open. -/
def writeBlock (fileId blockSequence : Nat) (payLoad : List UInt8) (io : FileIo) : RecvTask α × Bool :=
  if (t.fileInfo fileId).fileSize = 0 ∨ payLoad = [] then (t, true)
  else if io = .cantSeek then (t.setFile fileId { t.fileInfo fileId with errCode := true }, false)
  else
    ({ t.setFile fileId { t.fileInfo fileId with receivedBlockNum := (t.fileInfo fileId).receivedBlockNum + 1 } with
      disk := Function.update t.disk (t.fileInfo fileId).fileName
        (BlockFile.writeAt (t.disk (t.fileInfo fileId).fileName) payLoad fileOffset)
      written := Function.update t.written fileId (blockSequence :: t.written fileId) }, true)
where
  fileOffset : Nat :=
    ((t.fileInfo fileId).standardBlockSize * blockSequence + (t.fileInfo fileId).startOffset) % 18446744073709551616

def writeToFile (fileId blockSequence : Nat) (payLoad : List UInt8) (io : FileIo) : RecvTask α × Bool :=
  if (t.fileInfo fileId).fd then t.writeBlock fileId blockSequence payLoad io
  else if io = .cantOpen then (t.fileInfoWriteInit fileId io, false)
  else (t.fileInfoWriteInit fileId io).writeBlock fileId blockSequence payLoad io

def closeFile (fileId : Nat) : RecvTask α := t.setFile fileId { t.fileInfo fileId with fd := false }

def fileProcessed (fileId : Nat) (success : Bool) : RecvTask α :=
  { t.closeFile fileId with recvFileProcessed := t.recvFileProcessed + 1 }.notifyFileMsg fileId success

def updateFileListRecvStatus (fileId : Nat) (ret : Bool) : RecvTask α :=
  if !ret then t.fileProcessed fileId false
  else if (t.fileInfo fileId).receivedBlockNum < (t.fileInfo fileId).totalBlockNum then t
  else t.fileProcessed fileId true

/-- `GetFrameHearderInfo`: the length of the payload. -/
def getFrameHearderInfo (p : DFileTransfer α) (t : RecvTask α) (frame : FileDataFrame) : Option Nat :=
  if frame.transId ≠ p.transId ∨ p.fileNum < frame.fileId ∨ frame.fileId = 0 then none
  else if (t.fileInfo frame.fileId).receivedBlockNum = (t.fileInfo frame.fileId).totalBlockNum then some 0
  else if (t.fileInfo frame.fileId).totalBlockNum ≤ frame.blockSequence ∨ frame.length ≤ fileDataFrameLen - 8 ∨
    nstackxMaxFrameSize < frame.length then none
  else some (frame.length + 8 - fileDataFrameLen)

def writeSingleBlockFrame (p : DFileTransfer α) (t : RecvTask α) (frame : FileDataFrame) (io : FileIo) : RecvTask α :=
  match t.getFrameHearderInfo p frame with
  | none => { t with errCode := true }
  | some payloadLength =>
    if payloadLength = 0 ∨ (t.fileInfo frame.fileId).errCode then t
    else
      match p.crypt with
      | none => write (frame.blockPayload.take payloadLength)
      | some crypt =>
        if crypt.decrypt (frame.blockPayload.take payloadLength) = [] then
          (t.setFile frame.fileId { t.fileInfo frame.fileId with errCode := true }).updateFileListRecvStatus frame.fileId false
        else write (crypt.decrypt (frame.blockPayload.take payloadLength))
where
  write (payLoad : List UInt8) : RecvTask α :=
    (t.writeToFile frame.fileId frame.blockSequence payLoad io).1.updateFileListRecvStatus frame.fileId
      (t.writeToFile frame.fileId frame.blockSequence payLoad io).2

def generateEmptyFile (fileId : Nat) (io : FileIo) : RecvTask α :=
  if 0 < (t.fileInfo fileId).fileSize then t
  else (t.writeToFile fileId 0 [] io).1.fileProcessed fileId (t.writeToFile fileId 0 [] io).2

def generateAllEmptyFiles (t : RecvTask α) (io : Nat → FileIo) : Nat → RecvTask α
  | 0 => t
  | n + 1 => (generateAllEmptyFiles t io n).generateEmptyFile (n + 1) (io (n + 1))

def receiveOngoing (info : FileInfo α) : Bool :=
  !info.errCode && info.fileSize ≠ 0 && info.receivedBlockNum ≠ info.totalBlockNum

/-- `FileListRefreshFileRecvStatus` over the first files. -/
def fileListRefreshFileRecvStatus (t : RecvTask α) : Nat → RecvTask α
  | 0 => t
  | n + 1 =>
    if receiveOngoing ((fileListRefreshFileRecvStatus t n).fileInfo (n + 1)) then
      ((fileListRefreshFileRecvStatus t n).setFile (n + 1)
        { (fileListRefreshFileRecvStatus t n).fileInfo (n + 1) with errCode := true }).notifyFileMsg (n + 1) false
    else fileListRefreshFileRecvStatus t n

end RecvTask

inductive RecvTaskEvent where
  -- a frame of the sender reaches `FileManagerFileWrite`
  | fileManagerFileWrite (fileId targetSequence iv : Nat) (retran : Bool)
  -- `GenerateAllEmptyFiles`, with the result of the calls on each file
  | generateAllEmptyFiles (io : Nat → FileIo)
  -- `SwapRecvBlockListHead`; what is left of the inner list is lost
  | swapRecvBlockListHead
  -- one turn of the loop of `WriteBlockFrame`
  | writeBlockFrame (io : FileIo)
  -- the task ends
  | fileListRefreshFileRecvStatus

namespace RecvTask
variable {α : Type} [DecidableEq α] (p : DFileTransfer α)

/-- `CreateRecvFileList` with `AddRecvFileInfo`, over whatever the disk holds. -/
def create (disk : α → Nat → Option UInt8) : RecvTask α := { fileInfo := p.fileInfo, disk := disk }

def next (t : RecvTask α) : RecvTaskEvent → RecvTask α
  | .fileManagerFileWrite fileId targetSequence iv retran =>
    if t.errCode then t
    else
      match p.getDataFrame fileId targetSequence iv retran with
      | none => t
      | some frame =>
        { t with recvBlockList := if frame.retran then frame :: t.recvBlockList else t.recvBlockList ++ [frame] }
  | .generateAllEmptyFiles io =>
    if t.errCode || t.isRecvEmptyFilesCreated then t
    else { t.generateAllEmptyFiles io p.fileNum with isRecvEmptyFilesCreated := true }
  | .swapRecvBlockListHead =>
    if t.recvBlockList = [] then t else { t with recvBlockList := [], innerRecvBlock := t.recvBlockList }
  | .writeBlockFrame io =>
    if t.errCode then t
    else
      match t.innerRecvBlock with
      | [] => t
      | frame :: rest => { t with innerRecvBlock := rest }.writeSingleBlockFrame p frame io
  | .fileListRefreshFileRecvStatus =>
    if p.fileNum ≤ t.recvFileProcessed then t
    else { t.fileListRefreshFileRecvStatus p.fileNum with recvFileProcessed := p.fileNum }

end RecvTask

end SoftBus
