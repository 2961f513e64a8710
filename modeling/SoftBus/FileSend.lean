import SoftBus.FileRecv

/-!
# The sending side of a file transfer, and the two sides together

What `FileToFrame` calls for a frame. Each frame that is not lost is processed by
the receiver at once, and the frames it sends back reach the sender, so one
run of the sender's loop is one run of both sides. An acknowledgement may come
late: `arrived` says at which frames the wait for it ends in time.
-/

namespace SoftBus

open Bytes Word BlockFile

structure AckResponseData where
  startSeq : Nat
  seqResult : BitVec 32
deriving DecidableEq, Repr

structure SendListenerInfo where
  channelId : Int
  crc : Bool
  -- The content of the source file.
  fd : List UInt8
  fileSize : Nat
  frameNum : Nat
  seq : Nat := 0
  waitSeq : Nat := 0
  waitTimeoutCount : Nat := 0
  result : Int := 0
  checkSumCRC : Nat := 0

/-- The frame count of `GetAndCheckFileSize`, the start frame included. -/
def getFrameNum (fileSize : Nat) (crc : Bool) : Nat :=
  (if fileSize % frameDataSize crc ≠ 0 then fileSize / frameDataSize crc + 1 else fileSize / frameDataSize crc) + 1

def SendListenerInfo.ofFile (channelId : Int) (crc : Bool) (src : List UInt8) : SendListenerInfo :=
  { channelId, crc, fd := src, fileSize := src.length, frameNum := getFrameNum src.length crc }

/-- The bytes of a source file that data frame `seq` carries. -/
def frameData (src : List UInt8) (seq : Nat) : List UInt8 :=
  pread src (frameDataSize true) ((seq - 1) * frameDataSize true)

/-! ## Frames -/

section
variable (info : SendListenerInfo)

def packFileTransStartInfo (destFile : List UInt8) : Except SoftbusRet (List UInt8) :=
  if info.crc then
    if proxyMaxPacketSize < frameHeadLen + (destFile.length + frameDataSeqOffset + 8) then .error .err
    else .ok (packStartFrame destFile info.fileSize)
  else if proxyMaxPacketSize < frameDataSeqOffset + destFile.length then .error .err
  else .ok (putInt32 info.channelId ++ destFile)

def packReadFileData (readLength fileOffset : Nat) : Except SoftbusRet (List UInt8 × Nat × SendListenerInfo) :=
  let data := pread info.fd readLength fileOffset
  if data.length = 0 then .error .err
  else if info.crc then
    if proxyMaxPacketSize < frameHeadLen + (data.length + frameDataSeqOffset) + frameCrcLen then .error .err
    else
      let info' := { info with
        seq := (info.seq + 1) % 2 ^ 32
        checkSumCRC := (info.checkSumCRC + rtuCrc data) % 2 ^ 64 }
      .ok (packFileDataFrame info'.seq data, data.length, info')
  else if proxyMaxPacketSize < frameDataSeqOffset + data.length then .error .err
  else .ok (putInt32 info.channelId ++ data, data.length, info)

def packReadFileRetransData (seq readLength fileOffset : Nat) : Except SoftbusRet FileFrame :=
  let data := pread info.fd readLength fileOffset
  if data.length = 0 then .error .err
  else if proxyMaxPacketSize < frameHeadLen + (data.length + frameDataSeqOffset) + frameCrcLen then .error .err
  else .ok ⟨frameIndexToType seq info.frameNum, packFileDataFrame seq data⟩

def retransFileFrameBySeq (seq : Nat) : Except SoftbusRet (List FileFrame) :=
  if info.crc = false then .ok []
  else if int32 seq ≤ 0 then .error .invalidParam
  else
    let fileOffset := frameDataSize true * (seq - 1)
    if info.fileSize ≤ fileOffset then .error .invalidParam
    else (packReadFileRetransData info seq (min (info.fileSize - fileOffset) (frameDataSize true)) fileOffset).map ([·])

/-- The loop of `AckResponseDataHandle` over the bits still to look at. -/
def retransMissing (info : SendListenerInfo) (data : AckResponseData) : List Nat → SoftbusRet × List FileFrame
  | [] => (.ok, [])
  | i :: bits =>
    if data.seqResult.getLsbD i then retransMissing info data bits
    else
      match retransFileFrameBySeq info ((data.startSeq + i) % 2 ^ 32) with
      | .error _ => (.err, [])
      | .ok frames =>
        let rest := retransMissing info data bits
        (rest.1, frames ++ rest.2)

def ackResponseDataHandle (data : AckResponseData) : SoftbusRet × List FileFrame :=
  if data.seqResult = fileSendAckResultSuccess then (.ok, [])
  else retransMissing info data (List.range fileSendAckInterval)

end

/-! ## Both sides -/

structure FileLink where
  tx : SendListenerInfo
  rx : Option FileRecipientInfo := none
  -- The response for `waitSeq` that is there or on its way.
  pending : Option AckResponseData := none
  -- The numbers of the results that came back.
  results : List Nat := []
  -- Every acknowledgement the receiver sent.
  acks : List AckResponseData := []
  -- What the receiver's calls returned.
  rets : List SoftbusRet := []

structure FileChannel where
  env : RecvEnv
  -- The first transmission of this data frame is lost.
  lost : Nat → Bool
  -- The wait that follows the frame with this index ends before its time-out.
  arrived : Nat → Bool

/-- `ProcessFileAckResponse` and `ProcessFileTransResult` of the sending side. -/
def FileLink.receive (l : FileLink) (frame : FileFrame) : FileLink :=
  match frame.frameType with
  | .fileAckResponseSent =>
    match unpackAckReqAndResData frame.data with
    | .error _ => l
    | .ok (startSeq, value) =>
      let data : AckResponseData := ⟨startSeq, BitVec.ofNat 32 value⟩
      { l with pending := if l.tx.waitSeq = 0 then l.pending else some data, acks := l.acks ++ [data] }
  | .fileResultFrame =>
    match unpackFileTransResultFrame frame.data with
    | .error _ => l
    | .ok r => if r.side = 0 then { l with tx := { l.tx with result := r.result }, results := r.seq :: l.results } else l
  | _ => l

def FileLink.transmit (ch : FileChannel) (l : FileLink) (frame : FileFrame) : FileLink :=
  let out := processRecvFileFrameData ch.env .ok l.rx frame
  out.sent.foldl FileLink.receive { l with rx := out.recipient, rets := l.rets ++ [out.ret] }

def sendOneFrameFront (frameType : SessionPktType) (l : FileLink) : FileLink :=
  if l.tx.crc ∧ frameType = .fileFirstFrame then { l with tx := { l.tx with waitSeq := 0, waitTimeoutCount := 0 } }
  else l

def sendOneFrameMiddle (ch : FileChannel) (frameType : SessionPktType) (l : FileLink) : FileLink :=
  if l.tx.crc ∧ frameType = .fileOngoineFrame ∧ l.tx.seq % fileSendAckInterval = 0 then
    let l := { l with tx := { l.tx with waitSeq := l.tx.seq, waitTimeoutCount := 0 } }
    l.transmit ch ⟨.fileAckRequestSent, packAckReqAndResData (l.tx.seq - fileSendAckInterval + 1) l.tx.seq⟩
  else l

/-- The wait after a frame. In this and the next functions an error is `SOFTBUS_ERR`. -/
def sendOneFrameRear (ch : FileChannel) (index : Nat) (frameType : SessionPktType) (l : FileLink) :
    Except FileLink FileLink :=
  if l.tx.crc = false ∨ frameType = .fileOnlyoneFrame then .ok l
  else if frameType = .fileFirstFrame then
    if 0 ∈ l.results then .ok l else .error l
  else if l.tx.waitSeq = 0 then .ok l
  else
    match (if ch.arrived index then l.pending else none) with
    | some data =>
      let handled := ackResponseDataHandle l.tx data
      let l' := handled.2.foldl (FileLink.transmit ch) l
      let l' := { l' with tx := { l'.tx with waitSeq := 0, waitTimeoutCount := 0 }, pending := none }
      if handled.1 = .ok then .ok l' else .error l'
    | none =>
      if frameType ≠ .fileLastFrame ∧ l.tx.waitTimeoutCount + 1 ≤ waitFrameAckTimeoutCount then
        .ok { l with tx := { l.tx with waitTimeoutCount := l.tx.waitTimeoutCount + 1 } }
      else .error { l with tx := { l.tx with waitSeq := 0, waitTimeoutCount := 0 }, pending := none }

def sendOneFrame (ch : FileChannel) (index : Nat) (frame : FileFrame) (l : FileLink) : Except FileLink FileLink :=
  let l := sendOneFrameFront frame.frameType l
  let l := if index ≠ 0 ∧ ch.lost index then l else l.transmit ch frame
  let l := sendOneFrameMiddle ch frame.frameType l
  (sendOneFrameRear ch index frame.frameType l).bind fun l => if l.tx.result ≠ 0 then .error l else .ok l

end SoftBus
