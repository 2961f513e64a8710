import Mathlib.Data.List.Basic

/-!
# The state machine of a DFile transfer

`DFileTrans` is one transfer, of a sender or of a receiver. Frames, ticks and the
messages of the file manager drive it, all in the session's main loop. What the
machine sees of its surroundings in one turn of a loop (the clock, sockets, the file
manager) is an `FsmObs`. The log has the messages to the receiver of messages and the
changes of state, in order.

A transfer whose end was reported is destroyed. Functions that go on after that work
on freed memory; the model lets it keep its contents.
-/

namespace SoftBus

/-! ## States and messages -/

inductive DFileSendState where
  | sendFileInit
  | sendFileHeaderOngoing
  | waitForFileHeaderConfirm
  | sendFileDataOngoing
  | waitForFileTransferDoneFrame
  | sendFileTransferDoneAck
  | sendFileDone
  | sendFileFail
deriving DecidableEq, Repr

inductive DFileReceiveState where
  | receiveFileInit
  | receiveFileHeaderOngoing
  | sendFileHeaderConfirm
  | receiveFileDataOngoing
  | sendFileDataAck
  | sendFileTransferDone
  | waitForFileTransferDoneAck
  | receiveFileDone
  | receiveFileFail
deriving DecidableEq, Repr

/-- The messages of a transfer, `DFILE_TRANS_MSG_FILE_SENT` with the ids of the files it lists. -/
inductive TransMsg where
  | fileListReceived
  | fileReceived
  | fileReceivedToFail
  | fileReceiveFail
  | fileSent (files : List Nat)
  | fileSendFail
  | fileSendData
  | fileSendAck
  | inProgress
  | msgEnd
deriving DecidableEq, Repr

/-- The messages with which `CheckTransDone` destroys the transfer. -/
def TransMsg.terminal : TransMsg → Bool
  | .fileReceiveFail | .fileSent _ | .fileSendFail | .msgEnd => true
  | _ => false

inductive TransLog where
  | msg (m : TransMsg)
  | sendState (s : DFileSendState)
  | recvState (s : DFileReceiveState)
  -- `HandleTransferDoneFrame` returned `NSTACKX_EOK` for a frame with these ids
  | accepted (fileIds : List Nat)
deriving DecidableEq, Repr

structure DFileTransConfig where
  maxRtt : Nat
  maxAckCnt : Nat
  maxCtrlFrameRetryCnt : Nat
  maxCtrlFrameTimeout : Nat
  maxFileHeaderConfirmFrameTimeout : Nat
  maxFileWriteTimeout : Nat
  initialRecvIdleTimeout : Nat
  maxRecvIdleCnt : Nat
  initialAckInterval : Nat
  -- `CapsTcp`
  tcp : Bool
deriving DecidableEq, Repr

inductive SendResult where
  | ok
  | again
  | error
deriving DecidableEq, Repr

structure FsmObs where
  -- `GetElapseTime(&ts)`
  elapsed : Nat := 0
  -- `GetElapseTime(&heartBeatTs) >= ackInterval`
  heartBeat : Bool := false
  -- how the first frames go out, up to the first that does not
  send : SendResult := .ok
  -- a later one of the frames of `SendFileTransferDoneAckFrame` fails
  laterError : Bool := false
  -- there is memory for the node of `SendFileTransferDoneAckFrame`
  ackNode : Bool := true
  -- `FileListAllFileNameAcked`
  allFileNameAcked : Bool := false
  -- the task of the file manager can be started
  taskStarts : Bool := true
  -- `FileManagerIsLastBlockRead`
  lastBlockRead : Bool := false
  -- `FileManagerGetReceivedFiles`: the ids, and whether it was with success
  receivedFiles : Option (List (Nat × Bool)) := some []
  -- `FileManagerSetAllDataReceived`
  setAllDataReceived : Bool := true
deriving DecidableEq, Repr

structure DFileTrans where
  isSender : Bool
  -- the files of the list, and whether they go as one tar file
  num : Nat
  tarFlag : Bool := false
  sendState : DFileSendState := .sendFileInit
  recvState : DFileReceiveState := .receiveFileInit
  headerRetryCnt : Nat := 0
  lostAckCnt : Nat := 0
  fileTransferDoneReceived : Bool := false
  headerAckRetryCnt : Nat := 0
  idleTimeoutCnt : Nat := 0
  allFileNameReceived : Bool := false
  dupFileName : Bool := false
  allFileDataReceived : Bool := false
  fileTransferDoneAcked : Bool := false
  transferDoneRetryCnt : Nat := 0
  timeout : Nat := 0
  fileManagerTaskStarted : Bool := false
  -- a task was started at some time: the file manager may send messages
  hadTask : Bool := false
  isRecvSucMsgNotified : Bool := false
  isAckSend : Bool := false
  ioWriteFinishFlag : Bool := false
  -- the ids with `NSTACKX_FLAGS_FILE_SEND_SUCCESS`
  sendSuccess : List Nat := []
  -- the ids with `NSTACKX_FLAGS_FILE_RECEIVE_SUCCESS`
  receiveSuccess : List Nat := []
  -- it is in the session's chain
  alive : Bool := true
  -- a call has not returned
  stuck : Bool := false
  log : List TransLog := []
deriving DecidableEq, Repr

/-- `FileListGetFilesByFlag`: the files of the list with these ids; of a tar file there is one. -/
def filesByFlag (num : Nat) (tarFlag : Bool) (ids : List Nat) : List Nat :=
  if tarFlag then (flagged num ids).take 1 else flagged num ids
where
  flagged (num : Nat) (ids : List Nat) : List Nat := (List.range num).filterMap
      fun i => if i + 1 ∈ ids then some (i + 1) else none

namespace DFileTrans

/-- `DTransMsgReceiver` -/
def report (t : DFileTrans) (m : TransMsg) : DFileTrans :=
  { t with log := t.log ++ [.msg m], alive := t.alive && !m.terminal }

/-- `NotifyTransMsg` with `DFILE_TRANS_MSG_FILE_SENT`, after `ReviewSuccessMsg`. -/
def notifyFileSent (t : DFileTrans) : DFileTrans :=
  if filesByFlag t.num t.tarFlag t.sendSuccess = [] then t.report .fileSendFail
  else t.report (.fileSent (filesByFlag t.num t.tarFlag t.sendSuccess))

/-- `NotifyTransMsg` with `DFILE_TRANS_MSG_FILE_RECEIVED`, after `ReviewSuccessMsg`. -/
def notifyFileReceived (t : DFileTrans) : DFileTrans :=
  if received = [] then (progress t).report .fileReceivedToFail else (progress t).report .fileReceived
where
  received : List Nat := filesByFlag t.num t.tarFlag t.receiveSuccess
  progress (t : DFileTrans) : DFileTrans := if received.length = t.num then t.report .inProgress else t

def dFileTransNotifyEndMsg (t : DFileTrans) : DFileTrans :=
  if t.isSender then
    if t.sendState = .sendFileFail then t.report .fileSendFail
    else if t.sendState = .sendFileDone then t.notifyFileSent
    else t
  else if t.recvState = .receiveFileFail then t.report .fileReceiveFail
  else if t.recvState = .receiveFileDone then t.report .msgEnd
  else t

def dFileTransStateFinished (t : DFileTrans) : Bool :=
  if t.isSender then t.sendState = .sendFileFail || t.sendState = .sendFileDone
  else t.recvState = .receiveFileFail || t.recvState = .receiveFileDone

def extendTimeout (timeout maxTimeout : Nat) : Nat :=
  if timeout < maxTimeout then min (timeout * 2) maxTimeout else timeout

/-! ## The sender -/

section
variable (cfg : DFileTransConfig) (o : FsmObs) (t : DFileTrans)

def sendFileHeader : DFileTrans × DFileSendState :=
  match o.send with
  | .ok => (t, .waitForFileHeaderConfirm)
  | .again => (t, t.sendState)
  | .error => (t, .sendFileFail)

/-- `StartFileManagerSenderTask` and `StartFileManagerReceiverTask` -/
def startTask : DFileTrans := { t with fileManagerTaskStarted := true, hadTask := true }

def waitForFileHeaderConfirm : DFileTrans × DFileSendState :=
  if o.allFileNameAcked then
    if t.fileManagerTaskStarted || o.taskStarts then (t.startTask, .sendFileDataOngoing) else (t, .sendFileFail)
  else if t.timeout ≤ o.elapsed then
    if cfg.maxCtrlFrameRetryCnt < t.headerRetryCnt then (t, .sendFileFail)
    else ({ t with headerRetryCnt := t.headerRetryCnt + 1 }, .sendFileHeaderOngoing)
  else (t, t.sendState)

def sendFileDataOngoing : DFileTrans × DFileSendState :=
  if t.fileTransferDoneReceived then (t, .sendFileTransferDoneAck)
  else if t.timeout ≤ o.elapsed then
    if cfg.tcp then (t, t.sendState)
    else if cfg.maxAckCnt ≤ t.lostAckCnt + 1 then ({ t with lostAckCnt := t.lostAckCnt + 1 }, .sendFileFail)
    else ({ t with lostAckCnt := t.lostAckCnt + 1 }, t.sendState)
  else if o.lastBlockRead then (t, .waitForFileTransferDoneFrame)
  else (t, t.sendState)

/-- The tests after the first one overwrite what it decided. -/
def waitForFileTransferDoneFrame : DFileTrans × DFileSendState :=
  if t.timeout ≤ o.elapsed then
    if cfg.tcp then (t, .sendFileDataOngoing) else (t, .sendFileFail)
  else if !o.lastBlockRead then (t, .sendFileDataOngoing)
  else if t.fileTransferDoneReceived then (t, .sendFileTransferDoneAck)
  else (t, t.sendState)

def sendFileTransferDoneAckFrame : DFileTrans × DFileSendState :=
  if !o.ackNode || o.send ≠ .ok then
    if o.send = .error || (o.send = .ok && o.laterError) then (t, .sendFileFail) else (t, t.sendState)
  else (t, .sendFileDone)

def senderTurn : DFileTrans × DFileSendState :=
  match t.sendState with
  | .sendFileInit => (t, .sendFileHeaderOngoing)
  | .sendFileHeaderOngoing => sendFileHeader o t
  | .waitForFileHeaderConfirm => waitForFileHeaderConfirm cfg o t
  | .sendFileDataOngoing => sendFileDataOngoing cfg o t
  | .waitForFileTransferDoneFrame => waitForFileTransferDoneFrame cfg o t
  | .sendFileTransferDoneAck => sendFileTransferDoneAckFrame o t
  | .sendFileDone => (t, .sendFileDone)
  | .sendFileFail => (t, .sendFileFail)

end

def prepareSend (cfg : DFileTransConfig) (t : DFileTrans) : DFileSendState → DFileTrans
  | .waitForFileHeaderConfirm =>
    { t with
      timeout := if t.headerRetryCnt = 0 then cfg.maxRtt else extendTimeout t.timeout cfg.maxFileHeaderConfirmFrameTimeout }
  | .sendFileDataOngoing => { t with timeout := cfg.initialAckInterval }.report .fileSendData
  | .waitForFileTransferDoneFrame => { t with timeout := cfg.maxCtrlFrameTimeout }
  | _ => t

def enterSend (t : DFileTrans) (s : DFileSendState) : DFileTrans :=
  { t with
    sendState := s
    fileManagerTaskStarted := t.fileManagerTaskStarted && s ≠ .sendFileDone && s ≠ .sendFileFail
    log := t.log ++ [.sendState s] }

/-- After the `TRANSFER_DONE` frame an error is taken for the end. -/
def reviseSend : DFileSendState → DFileSendState → DFileSendState
  | .sendFileTransferDoneAck, .sendFileFail => .sendFileDone
  | .sendFileDone, .sendFileFail => .sendFileDone
  | _, s => s

def setSendState (cfg : DFileTransConfig) (t : DFileTrans) (nextState : DFileSendState) : DFileTrans :=
  if t.sendState = nextState then t else (t.prepareSend cfg nextState).enterSend (reviseSend t.sendState nextState)

def senderFsm (cfg : DFileTransConfig) : List FsmObs → DFileTrans → DFileTrans
  | [], t => { t with stuck := true }
  | o :: obs, t =>
    if (senderTurn cfg o t).1.sendState = (senderTurn cfg o t).2 then (senderTurn cfg o t).1
    else if (entered o t).sendState = .sendFileFail ∨ (entered o t).sendState = .sendFileDone then entered o t
    else senderFsm cfg obs (entered o t)
where
  entered (o : FsmObs) (t : DFileTrans) : DFileTrans := (senderTurn cfg o t).1.setSendState cfg (senderTurn cfg o t).2

/-! ## The receiver -/

section
variable (cfg : DFileTransConfig) (o : FsmObs) (t : DFileTrans)

def receiveFileHeaderOngoing : DFileTrans × DFileReceiveState :=
  if t.allFileNameReceived || t.timeout ≤ o.elapsed then (t, .sendFileHeaderConfirm) else (t, t.recvState)

def sendFileHeaderConfirm : DFileTrans × DFileReceiveState :=
  match o.send with
  | .again => (t, t.recvState)
  | .error => (t, .receiveFileFail)
  | .ok =>
    if t.allFileNameReceived then
      if t.fileManagerTaskStarted || o.taskStarts then (t.startTask, .receiveFileDataOngoing) else (t, .receiveFileFail)
    else if cfg.maxCtrlFrameRetryCnt < t.headerAckRetryCnt then (t, .receiveFileFail)
    else ({ t with headerAckRetryCnt := t.headerAckRetryCnt + 1 }, .receiveFileHeaderOngoing)

def notifyRecvSucMsg : DFileTrans :=
  if t.isRecvSucMsgNotified then t else { t.notifyFileReceived with isRecvSucMsgNotified := true }

def fileListAllFileReceived : Bool :=
  if t.tarFlag then 1 ∈ t.receiveSuccess else (List.range t.num).all fun i => i + 1 ∈ t.receiveSuccess

def heartBeat : DFileTrans × DFileReceiveState :=
  if o.heartBeat then
    if t.allFileDataReceived && !o.setAllDataReceived then (t, .receiveFileFail)
    else ({ t with isAckSend := true }, .sendFileDataAck)
  else (t, t.recvState)

def receiveFileDataOngoing : DFileTrans × DFileReceiveState :=
  if t.dupFileName then ({ t with dupFileName := false }, .sendFileHeaderConfirm)
  else if t.allFileDataReceived then
    if !t.ioWriteFinishFlag then (t, t.recvState)
    else
      match o.receivedFiles with
      | none => (t, .receiveFileFail)
      | some files =>
        if (refreshed files).fileListAllFileReceived then (refreshed files, .sendFileTransferDone)
        else heartBeat o (refreshed files)
  else if t.timeout ≤ o.elapsed then
    if cfg.maxRecvIdleCnt ≤ (t.idleTimeoutCnt + 1) % 256 && !cfg.tcp then (idle, .receiveFileFail) else (idle, .sendFileDataAck)
  else heartBeat o t
where
  refreshed (files : List (Nat × Bool)) : DFileTrans :=
    { t with receiveSuccess := t.receiveSuccess ++ (files.filter Prod.snd).map Prod.fst }
  idle : DFileTrans := { t with idleTimeoutCnt := (t.idleTimeoutCnt + 1) % 256 }

def sendFileTransferDoneFrame : DFileTrans × DFileReceiveState :=
  if t.timeout ≤ o.elapsed then (t, .receiveFileFail)
  else
    match o.send with
    | .ok => (t.notifyRecvSucMsg, .waitForFileTransferDoneAck)
    | .again => (t.notifyRecvSucMsg, t.recvState)
    | .error => (t.notifyRecvSucMsg, .receiveFileFail)

def waitForFileTransferDoneAck : DFileTrans × DFileReceiveState :=
  if t.fileTransferDoneAcked then (t, .receiveFileDone)
  else if t.timeout ≤ o.elapsed then
    if cfg.maxCtrlFrameRetryCnt < t.transferDoneRetryCnt && !cfg.tcp then (t, .receiveFileFail)
    else ({ t with transferDoneRetryCnt := (t.transferDoneRetryCnt + 1) % 256 }, .sendFileTransferDone)
  else (t, t.recvState)

def receiverTurn : DFileTrans × DFileReceiveState :=
  match t.recvState with
  | .receiveFileInit => (t, .receiveFileHeaderOngoing)
  | .receiveFileHeaderOngoing => receiveFileHeaderOngoing o t
  | .sendFileHeaderConfirm => sendFileHeaderConfirm cfg o t
  | .receiveFileDataOngoing => receiveFileDataOngoing cfg o t
  | .sendFileDataAck => (t, .receiveFileDataOngoing)
  | .sendFileTransferDone => sendFileTransferDoneFrame o t
  | .waitForFileTransferDoneAck => waitForFileTransferDoneAck cfg o t
  | .receiveFileDone => (t, .receiveFileDone)
  | .receiveFileFail => (t, .receiveFileFail)

end

/-- `SetReceiveStateHandle` -/
def prepareReceive (cfg : DFileTransConfig) (t : DFileTrans) : DFileReceiveState → DFileTrans
  | .receiveFileHeaderOngoing =>
    { t with timeout := if t.headerAckRetryCnt = 0 then cfg.maxRtt else extendTimeout t.timeout cfg.maxCtrlFrameTimeout }
  | .receiveFileDataOngoing =>
    if t.recvState = .sendFileHeaderConfirm then { t with timeout := cfg.initialRecvIdleTimeout } else t
  | .waitForFileTransferDoneAck => { t with timeout := cfg.maxRtt }
  | .sendFileTransferDone => { t with timeout := cfg.maxFileWriteTimeout }
  | _ => t

def enterReceive (t : DFileTrans) (s : DFileReceiveState) : DFileTrans :=
  { t with
    recvState := s
    fileManagerTaskStarted := t.fileManagerTaskStarted && s ≠ .receiveFileDone && s ≠ .receiveFileFail
    log := t.log ++ [.recvState s] }

/-- After the `TRANSFER_DONE` frame has been sent an error is taken for the end. -/
def reviseReceive : DFileReceiveState → DFileReceiveState → DFileReceiveState
  | .waitForFileTransferDoneAck, .receiveFileFail => .receiveFileDone
  | .receiveFileDone, .receiveFileFail => .receiveFileDone
  | _, s => s

def setReceiveState (cfg : DFileTransConfig) (t : DFileTrans) (nextState : DFileReceiveState) : DFileTrans :=
  if t.recvState = nextState then t else (t.prepareReceive cfg nextState).enterReceive (reviseReceive t.recvState nextState)

def receiverFsm (cfg : DFileTransConfig) : List FsmObs → DFileTrans → DFileTrans
  | [], t => { t with stuck := true }
  | o :: obs, t =>
    if (receiverTurn cfg o t).1.recvState = (receiverTurn cfg o t).2 then (receiverTurn cfg o t).1
    else if (entered o t).recvState = .receiveFileFail ∨ (entered o t).recvState = .receiveFileDone then entered o t
    else receiverFsm cfg obs (entered o t)
where
  entered (o : FsmObs) (t : DFileTrans) : DFileTrans := (receiverTurn cfg o t).1.setReceiveState cfg (receiverTurn cfg o t).2

end DFileTrans

/-! ## Frames and messages -/

structure DataFrameObs where
  -- length and file id are right
  valid : Bool
  -- `FileManagerIsRecvBlockWritable`
  writable : Bool
  -- `FileManagerFileWrite`
  written : Bool
  -- the progress is to be reported
  progress : Bool
  -- as many frames as there are blocks have come, the last one among them
  allReceived : Bool
deriving DecidableEq, Repr

inductive DFileTransFrame where
  -- a header: all names are there after it, and the renaming of the files succeeds
  | fileHeader (allFileNameReceived renamed : Bool)
  | fileHeaderConfirm
  | fileData (d : DataFrameObs)
  | fileTransferDone (length : Nat) (fileIds : List Nat)
  | fileTransferDoneAck
  | other
deriving DecidableEq, Repr

inductive FileManagerMsg where
  | transInProgress
  | sendFail
  | receiveFail
  | receiveSuccess (fileId : Nat)
  | other (fileId : Nat)
deriving DecidableEq, Repr

inductive DFileTransEvent where
  -- `HandleDFileFrame`
  | frame (f : DFileTransFrame) (obs : List FsmObs)
  -- `DFileTransProcess`
  | process (obs : List FsmObs)
  -- `FileManagerTransMsgHandler`
  | fileManager (m : FileManagerMsg) (obs : List FsmObs)
deriving DecidableEq, Repr

namespace DFileTrans
variable (cfg : DFileTransConfig) (t : DFileTrans)

def handleFileNameTableFrame (allReceived renamed : Bool) : DFileTrans :=
  if t.isSender then t
  else if t.recvState ≠ .receiveFileInit ∧ t.recvState ≠ .receiveFileHeaderOngoing ∧ t.recvState ≠ .sendFileHeaderConfirm ∧
    t.recvState ≠ .receiveFileDataOngoing then t
  else if t.allFileNameReceived then { t with dupFileName := true }
  else if !allReceived then t
  else if renamed then { t with allFileNameReceived := true }.report .fileListReceived
  else (t.report .fileReceiveFail).report .fileListReceived

def handleFileTableAckFrame : DFileTrans := if t.isSender then { t with lostAckCnt := 0 } else t

def handleFileDataFrame (d : DataFrameObs) : DFileTrans :=
  if !d.valid || t.isSender || (t.recvState ≠ .receiveFileDataOngoing && t.recvState ≠ .sendFileDataAck) then t
  else if !d.writable then t
  else if !d.written then t.setReceiveState cfg .receiveFileFail
  else if d.allReceived then { updated with allFileDataReceived := true }
  else updated
where
  updated : DFileTrans := if d.progress then t.report .inProgress else t

/-- `DecodeFileTransferDoneFrame` accepts the length. -/
def wellFormed (length : Nat) : Bool := length ≠ 0 && length % 2 = 0

def handleTransferDoneFrame (length : Nat) (fileIds : List Nat) : DFileTrans :=
  if !t.isSender then t
  else if t.sendState ≠ .waitForFileTransferDoneFrame ∧ t.sendState ≠ .sendFileTransferDoneAck ∧
    t.sendState ≠ .sendFileDataOngoing then t
  else if t.fileTransferDoneReceived then { t with log := t.log ++ [.accepted (fileIds.take (length / 2))] }
  else if wellFormed length then
    { t with
      fileTransferDoneReceived := true
      sendSuccess := t.sendSuccess ++ fileIds.take (length / 2)
      log := t.log ++ [.accepted (fileIds.take (length / 2))] }
  else { t with fileTransferDoneReceived := true }

def handleFrame : DFileTransFrame → DFileTrans
  | .fileHeader allReceived renamed => t.handleFileNameTableFrame allReceived renamed
  | .fileHeaderConfirm => t.handleFileTableAckFrame
  | .fileData d => t.handleFileDataFrame cfg d
  | .fileTransferDone length fileIds => t.handleTransferDoneFrame length fileIds
  | .fileTransferDoneAck => if t.isSender then t else { t with fileTransferDoneAcked := true }
  | .other => t

def transferFsm (obs : List FsmObs) (t : DFileTrans) : DFileTrans :=
  if t.isSender then t.senderFsm cfg obs else t.receiverFsm cfg obs

/-- The end of `HandleDFileFrame`, once the state machine has come to rest. -/
def finishFrame : DFileTrans :=
  if t.stuck then t
  else if t.isAckSend then { t.report .fileSendAck with isAckSend := false }.dFileTransNotifyEndMsg
  else t.dFileTransNotifyEndMsg

def handleDFileFrame (f : DFileTransFrame) (obs : List FsmObs) : DFileTrans :=
  if t.dFileTransStateFinished then t else ((t.handleFrame cfg f).transferFsm cfg obs).finishFrame

def finishProcess : DFileTrans :=
  if t.stuck then t else { t with isAckSend := false }.dFileTransNotifyEndMsg

def dFileTransProcess (obs : List FsmObs) : DFileTrans :=
  if t.dFileTransStateFinished then t else (t.transferFsm cfg obs).finishProcess

def fileManagerSenderMsgHandler : FileManagerMsg → DFileTrans
  | .transInProgress => t.report .inProgress
  | .sendFail => (t.setSendState cfg .sendFileFail).report .fileSendFail
  | _ => t

/-- The part of `FileManagerReceiverMsgHandler` that looks whether all files are there. -/
def allFilesReceived (obs : List FsmObs) : DFileTrans :=
  if t.fileListAllFileReceived then
    finish ((ioFinished t).notifyRecvSucMsg.receiverFsm cfg obs)
  else t
where
  ioFinished (t : DFileTrans) : DFileTrans := { t with allFileDataReceived := true, ioWriteFinishFlag := true }
  finish (t : DFileTrans) : DFileTrans := if t.stuck then t else { t with isAckSend := false }

def fileManagerReceiverMsgHandler (m : FileManagerMsg) (obs : List FsmObs) : DFileTrans :=
  match m with
  | .receiveFail => (t.setReceiveState cfg .receiveFileFail).report .fileReceiveFail
  | .receiveSuccess fileId =>
    if fileId = 0 then t else { t with receiveSuccess := t.receiveSuccess ++ [fileId] }.allFilesReceived cfg obs
  | .other fileId => if fileId = 0 then t else t.allFilesReceived cfg obs
  | _ => t

/-- One event; a transfer that is not in the chain gets none. -/
def next (e : DFileTransEvent) : DFileTrans :=
  if !t.alive || t.stuck then t
  else
    match e with
    | .frame f obs => t.handleDFileFrame cfg f obs
    | .process obs => t.dFileTransProcess cfg obs
    | .fileManager m obs =>
      if !t.hadTask then t
      else if t.isSender then t.fileManagerSenderMsgHandler cfg m
      else t.fileManagerReceiverMsgHandler cfg m obs

end DFileTrans

end SoftBus
