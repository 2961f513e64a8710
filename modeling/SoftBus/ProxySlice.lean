import SoftBus.Common
import SoftBus.Lib.Run

/-!
# Slicing and reassembly on proxy channels

The sender packs a payload into one encrypted packet and cuts it into slices
of `sliceLen` bytes; the receiver keeps one slice processor for each channel
and priority and puts the packet together again. The functions are those of
`client_trans_proxy_manager.c`.

The channel lists are finite maps. Mutexes are always obtained and every call
is one step. `history` is not in the source: it records what was done to each
slice processor, so that results can speak about the packets it accepted.
-/

namespace SoftBus

open Bytes Word

def sliceLen : Nat := 4 * 1024

def proxyAckSize : Nat := 4

/-- `MAGIC_NUMBER` of a packet head -/
def proxyMagicNumber : Nat := 0xBABEFACE

def slicePacketTimeout : Int := 10

structure SliceHead where
  priority : Int
  sliceNum : Int
  sliceSeq : Int
  reserved : Int
deriving DecidableEq, Repr

structure PacketHead where
  magicNumber : Int
  seq : Int
  flags : Int
  dataLen : Int
deriving DecidableEq, Repr

/-- `sizeof(SliceHead)` -/
def sliceHeadSize : Nat := 16

/-- `sizeof(PacketHead)` -/
def packetHeadSize : Nat := 16

def clientPackSliceHead (h : SliceHead) : List UInt8 :=
  putInt32 h.priority ++ (putInt32 h.sliceNum ++ (putInt32 h.sliceSeq ++ putInt32 h.reserved))

def clientUnPackSliceHead (data : List UInt8) : SliceHead :=
  ⟨readInt32 data, readInt32 (data.drop 4), readInt32 (data.drop 8), readInt32 (data.drop 12)⟩

def clientPackPacketHead (h : PacketHead) : List UInt8 :=
  putInt32 h.magicNumber ++ (putInt32 h.seq ++ (putInt32 h.flags ++ putInt32 h.dataLen))

def clientUnPackPacketHead (data : List UInt8) : PacketHead :=
  ⟨readInt32 data, readInt32 (data.drop 4), readInt32 (data.drop 8), readInt32 (data.drop 12)⟩

inductive ProxyPriority where
  | message
  | bytes
  | file
deriving DecidableEq, Repr

def ProxyPriority.toInt : ProxyPriority → Int
  | .message => 0
  | .bytes => 1
  | .file => 2

def ProxyPriority.ofInt (i : Int) : Option ProxyPriority :=
  if i = 0 then some .message else if i = 1 then some .bytes else if i = 2 then some .file else none

structure ProxyChannelInfoDetail where
  isEncrypted : Bool
  sequence : Int
  sessionKey : List UInt8
deriving DecidableEq, Repr

abbrev ProxyChannelInfoList := Int → Option ProxyChannelInfoDetail

/-- What the proxy manager calls and does not define. -/
structure ProxyEnv where
  system : System
  encryptDataWithSeq : List UInt8 → Int → List UInt8 → Option (List UInt8)
  decryptDataWithSeq : List UInt8 → Int → List UInt8 → Option (List UInt8)
  -- `g_sessionCb.OnDataReceived`
  onDataReceived : Int → List UInt8 → Int → SoftbusRet
  setPendingPacket : Int → Int → SoftbusRet
  serverIpcSendMessage : Int → List UInt8 → SessionPktType → SoftbusRet
  -- the field `reserved` of a slice head, which the sender never sets
  sliceReserved : Nat → Int

/-- The calls that leave the proxy manager, and those of `ClientTransProxyNotifySession`. -/
inductive ProxyOutput where
  | notifySession (channelId flags seq : Int) (data : List UInt8)
  | onDataReceived (channelId : Int) (data : List UInt8) (flags : Int)
  | sendMessage (channelId : Int) (data : List UInt8) (pktType : SessionPktType)
deriving DecidableEq, Repr

def clientTransProxyGetInfoByChannelId (channels : ProxyChannelInfoList) (channelId : Int) :
    Option ProxyChannelInfoDetail × ProxyChannelInfoList :=
  match channels channelId with
  | some detail =>
    (some detail,
      Function.update channels channelId (some { detail with sequence := int32 (detail.sequence + 1) }))
  | none => (none, channels)

/-! ## The sender -/

section
variable (env : ProxyEnv)

def clientTransProxyEncryptWithSeq (sessionKey : List UInt8) (seqNum : Int) (inData : List UInt8) :
    Option (List UInt8) :=
  match env.encryptDataWithSeq sessionKey seqNum inData with
  | some out => if out.length ≠ (inData.length + overheadLen) % 2 ^ 32 then none else some out
  | none => none

def clientTransProxyPackBytes (inData : List UInt8) (seq : Int) (sessionKey : List UInt8) (flag : SessionPktType) :
    Option (List UInt8 × Nat) :=
  let outLen : Nat := (inData.length + overheadLen + packetHeadSize) % 2 ^ 32
  match clientTransProxyEncryptWithSeq env sessionKey seq inData with
  | none => none
  | some cipher =>
    some (clientPackPacketHead
      ⟨int32 proxyMagicNumber, seq, flag.toInt, int32 (int32 outLen - packetHeadSize)⟩ ++ cipher, outLen)

def sessionPktTypeToProxyIndex : SessionPktType → ProxyPriority
  | .message | .asyncMessage | .ack => .message
  | .bytes => .bytes
  | _ => .file

def packSlice (outData : List UInt8) (outLen : Nat) (sliceNum : Int) (pktType : SessionPktType) (i : Nat) :
    List UInt8 :=
  let dataLen := if (i : Int) = sliceNum - 1 then outLen - i * sliceLen else sliceLen
  clientPackSliceHead ⟨(sessionPktTypeToProxyIndex pktType).toInt, sliceNum, i, env.sliceReserved i⟩ ++
    (outData.drop (i * sliceLen)).take dataLen

def sendSlices (env : ProxyEnv) (channelId : Int) (outData : List UInt8) (outLen : Nat) (sliceNum : Int)
    (pktType : SessionPktType) : (k i : Nat) → SoftbusRet × List ProxyOutput
  | 0, _ => (.ok, [])
  | k + 1, i =>
    let sliceData := packSlice env outData outLen sliceNum pktType i
    let sent := ProxyOutput.sendMessage channelId sliceData pktType
    if env.serverIpcSendMessage channelId sliceData pktType ≠ .ok then (.err, [sent])
    else
      let rest := sendSlices env channelId outData outLen sliceNum pktType k (i + 1)
      (rest.1, sent :: rest.2)

def transProxyPackAndSendData (channelId : Int) (data : List UInt8) (info : ProxyChannelInfoDetail)
    (pktType : SessionPktType) : SoftbusRet × List ProxyOutput :=
  match clientTransProxyPackBytes env data info.sequence info.sessionKey pktType with
  | none => (.err, [])
  | some (outData, outLen) =>
    let sliceNum := int32 ((outLen + sliceLen - 1) % 2 ^ 32 / sliceLen : Nat)
    sendSlices env channelId outData outLen sliceNum pktType sliceNum.toNat 0

/-! ## A complete packet -/

structure ProxyMem where
  -- the node of a new channel
  node : Bool
  -- the buffer of a slice processor
  slice : Bool
  -- the plaintext buffer
  session : Bool
deriving DecidableEq, Repr

structure SessionResult where
  ret : SoftbusRet
  channels : ProxyChannelInfoList
  out : List ProxyOutput

def clientTransProxySessionDataLenCheck (system : System) (dataLen : Nat) (flags : Int) : SoftbusRet :=
  match SessionPktType.ofInt flags with
  | some .message | some .asyncMessage => if dataLen > system.maxMessageNewLen then .err else .ok
  | some .bytes => if dataLen > system.maxBytesNewLen then .err else .ok
  | _ => .ok

def clientTransProxyDecryptPacketData (channels : ProxyChannelInfoList) (channelId seq : Int) (inData : List UInt8) :
    Option (List UInt8) × ProxyChannelInfoList :=
  match clientTransProxyGetInfoByChannelId channels channelId with
  | (none, channels) => (none, channels)
  | (some info, channels) => (env.decryptDataWithSeq info.sessionKey seq inData, channels)

def clientTransProxySendSessionAck (channels : ProxyChannelInfoList) (channelId seq : Int) :
    ProxyChannelInfoList × List ProxyOutput :=
  match clientTransProxyGetInfoByChannelId channels channelId with
  | (none, channels) => (channels, [])
  | (some info, channels) =>
    (channels, (transProxyPackAndSendData env channelId (putInt32 seq) { info with sequence := seq } .ack).2)

def clientTransProxyProcSendMsgAck (channelId : Int) (data : List UInt8) : SoftbusRet :=
  if data.length ≠ proxyAckSize then .transInvalidDataLength
  else env.setPendingPacket channelId (readInt32 data)

def clientTransProxyNotifySession (channels : ProxyChannelInfoList) (channelId flags seq : Int) (data : List UInt8) :
    SessionResult :=
  let notified := ProxyOutput.notifySession channelId flags seq data
  match SessionPktType.ofInt flags with
  | some .message =>
    let ack := clientTransProxySendSessionAck env channels channelId seq
    ⟨env.onDataReceived channelId data flags, ack.1,
      notified :: ack.2 ++ [.onDataReceived channelId data flags]⟩
  | some .ack => ⟨clientTransProxyProcSendMsgAck env channelId data, channels, [notified]⟩
  | some _ =>
    ⟨env.onDataReceived channelId data flags, channels, [notified, .onDataReceived channelId data flags]⟩
  | none => ⟨.invalidParam, channels, [notified]⟩

def clientTransProxyProcessSessionData (channels : ProxyChannelInfoList) (mem : ProxyMem) (channelId : Int)
    (dataHead : PacketHead) (data : List UInt8) : SessionResult :=
  if dataHead.dataLen ≤ overheadLen then ⟨.transInvalidDataLength, channels, []⟩
  else if !mem.session then ⟨.mallocErr, channels, []⟩
  else
    match clientTransProxyDecryptPacketData env channels channelId dataHead.seq
        (data.take dataHead.dataLen.toNat) with
    | (none, channels) => ⟨.decryptErr, channels, []⟩
    | (some outData, channels) =>
      if clientTransProxySessionDataLenCheck env.system outData.length dataHead.flags ≠ .ok then
        ⟨.err, channels, []⟩
      else
        let notified :=
          clientTransProxyNotifySession env channels channelId dataHead.flags dataHead.seq outData
        if notified.ret ≠ .ok then { notified with ret := .err } else { notified with ret := .ok }

def clientTransProxyNoSubPacketProc (channels : ProxyChannelInfoList) (mem : ProxyMem) (channelId : Int)
    (data : List UInt8) : SessionResult :=
  let head := clientUnPackPacketHead data
  if head.magicNumber ≠ int32 proxyMagicNumber then ⟨.err, channels, []⟩
  else if head.dataLen ≤ 0 then ⟨.err, channels, []⟩
  else if head.dataLen + packetHeadSize ≠ data.length then ⟨.err, channels, []⟩
  else
    let processed :=
      clientTransProxyProcessSessionData env channels mem channelId head (data.drop packetHeadSize)
    if processed.ret ≠ .ok then { processed with ret := .err } else processed

/-! ## Slice processors -/

structure SliceProcessor where
  active : Bool
  timeout : Int
  sliceNumber : Int
  expectedSeq : Int
  dataLen : Int
  bufLen : Int
  data : Option (List UInt8)
deriving DecidableEq, Repr

/-- What `ClientTransProxyClearProcessor` leaves, and what a new node starts with. -/
def SliceProcessor.cleared : SliceProcessor := ⟨false, 0, 0, 0, 0, 0, none⟩

inductive SliceStep where
  | accepted (sliceNum sliceSeq : Int) (body : List UInt8)
  -- the buffer goes to `ClientTransProxyNoSubPacketProc`
  | handed (buffer : List UInt8)
  | cleared
deriving DecidableEq, Repr

structure SliceResult where
  ret : SoftbusRet
  processor : SliceProcessor
  steps : List SliceStep

def clientTransProxyCheckSliceHead (head : SliceHead) : SoftbusRet :=
  if head.priority < 0 ∨ 3 ≤ head.priority then .err
  else if head.sliceNum ≠ 1 ∧ head.sliceNum ≤ head.sliceSeq then .err
  else .ok

def clientTransProxySliceProcessChkPkgIsValid (processor : SliceProcessor) (head : SliceHead)
    (data : List UInt8) : SoftbusRet :=
  if head.sliceNum ≠ processor.sliceNumber ∨ head.sliceSeq ≠ processor.expectedSeq then
    .assemblePackNoInvalid
  else if processor.bufLen < int32 (int32 data.length + processor.dataLen) then .assemblePackExceedLength
  else if processor.data = none then .assemblePackDataNull
  else .ok

def clientTransProxyFirstSliceProcess (mem : ProxyMem) (head : SliceHead) (data : List UInt8) : SliceResult :=
  let maxDataLen := if head.priority = ProxyPriority.message.toInt then env.system.maxMessageNewLen
    else env.system.maxBytesNewLen
  let maxLen := (maxDataLen + packetHeadSize + overheadLen) % 2 ^ 32
  if !mem.slice then ⟨.mallocErr, .cleared, [.cleared]⟩
  else
    match memcpyS [] 0 maxLen data with
    | none => ⟨.sliceError, { SliceProcessor.cleared with bufLen := int32 maxLen }, [.cleared]⟩
    | some buf =>
      ⟨.ok,
        { active := true, timeout := 0, sliceNumber := head.sliceNum, expectedSeq := 1,
          dataLen := int32 data.length, bufLen := int32 maxLen, data := some buf },
        [.cleared, .accepted head.sliceNum head.sliceSeq data]⟩

def appendSlice (processor : SliceProcessor) (head : SliceHead) (data : List UInt8) :
    SoftbusRet × SliceProcessor :=
  match clientTransProxySliceProcessChkPkgIsValid processor head data with
  | .ok =>
    match memcpyS (processor.data.getD []) processor.dataLen.toNat
        ((processor.bufLen - processor.dataLen) % 2 ^ 32).toNat data with
    | none => (.memErr, processor)
    | some buf =>
      (.ok, { processor with
        expectedSeq := int32 (processor.expectedSeq + 1)
        dataLen := int32 (processor.dataLen + int32 data.length)
        data := some buf })
  | ret => (ret, processor)

def clientTransProxyNormalSliceProcess (processor : SliceProcessor) (head : SliceHead) (data : List UInt8) :
    SliceResult :=
  match appendSlice processor head data with
  | (.ok, processor) =>
    ⟨.ok, { processor with timeout := 0 }, [.accepted head.sliceNum head.sliceSeq data]⟩
  | (ret, processor) => ⟨ret, processor, []⟩

def clientTransProxyLastSliceProcess (channels : ProxyChannelInfoList) (mem : ProxyMem) (processor : SliceProcessor)
    (head : SliceHead) (data : List UInt8) (channelId : Int) : SliceResult × ProxyChannelInfoList × List ProxyOutput :=
  match appendSlice processor head data with
  | (.ok, processor) =>
    let buffer := (processor.data.getD []).take processor.dataLen.toNat
    let proc := clientTransProxyNoSubPacketProc env channels mem channelId buffer
    let steps := [.accepted head.sliceNum head.sliceSeq data, .handed buffer]
    if proc.ret ≠ .ok then (⟨proc.ret, processor, steps⟩, proc.channels, proc.out)
    else (⟨.ok, .cleared, steps ++ [.cleared]⟩, proc.channels, proc.out)
  | (ret, processor) => (⟨ret, processor, []⟩, channels, [])

/-! ## Channels -/

abbrev ChannelSliceProcessor := ProxyPriority → SliceProcessor

structure ProxyState where
  channelInfoList : ProxyChannelInfoList
  channelSliceProcessorList : Int → Option ChannelSliceProcessor
  history : Int → ProxyPriority → List SliceStep

structure ProxyResult where
  ret : SoftbusRet
  state : ProxyState
  out : List ProxyOutput

def clientTransProxyGetChannelSliceProcessor (s : ProxyState) (mem : ProxyMem) (channelId : Int) :
    Option ChannelSliceProcessor :=
  match s.channelSliceProcessorList channelId with
  | some node => some node
  | none => if mem.node then some fun _ => .cleared else none

def SliceResult.settle (r : SliceResult) : SliceResult :=
  if r.ret ≠ .ok then ⟨r.ret, .cleared, r.steps ++ [.cleared]⟩ else r

def ProxyState.putProcessor (s : ProxyState) (channelId : Int) (node : ChannelSliceProcessor)
    (index : ProxyPriority) (r : SliceResult) : ProxyState :=
  { s with
    channelSliceProcessorList := Function.update s.channelSliceProcessorList channelId
      (some (Function.update node index r.processor))
    history := Function.update s.history channelId
      (Function.update (s.history channelId) index (s.history channelId index ++ r.steps)) }

def clientTransProxySubPacketProc (s : ProxyState) (mem : ProxyMem) (channelId : Int) (head : SliceHead)
    (data : List UInt8) : ProxyResult :=
  match clientTransProxyGetChannelSliceProcessor s mem channelId, ProxyPriority.ofInt head.priority with
  | some node, some index =>
    let processor := node index
    let (r, channels, out) :=
      if head.sliceSeq = 0 then
        (clientTransProxyFirstSliceProcess env mem head data, s.channelInfoList, [])
      else if head.sliceNum = head.sliceSeq + 1 then
        clientTransProxyLastSliceProcess env s.channelInfoList mem processor head data channelId
      else (clientTransProxyNormalSliceProcess processor head data, s.channelInfoList, [])
    ⟨r.ret, { s with channelInfoList := channels }.putProcessor channelId node index r.settle, out⟩
  -- no memory for the node; the index is in range once the slice head is checked
  | _, _ => ⟨.err, s, []⟩

def clientTransProxySliceProc (s : ProxyState) (mem : ProxyMem) (channelId : Int) (data : List UInt8) : ProxyResult :=
  if data.length ≤ sliceHeadSize then ⟨.err, s, []⟩
  else
    let headSlice := clientUnPackSliceHead data
    let body := data.drop sliceHeadSize
    if clientTransProxyCheckSliceHead headSlice ≠ .ok then ⟨.transProxyInvalidSliceHead, s, []⟩
    else if headSlice.sliceNum = 1 then
      let proc := clientTransProxyNoSubPacketProc env s.channelInfoList mem channelId body
      ⟨proc.ret, { s with channelInfoList := proc.channels }, proc.out⟩
    else clientTransProxySubPacketProc env s mem channelId headSlice body

def clientTransProxyOnDataReceived (s : ProxyState) (mem : ProxyMem) (channelId : Int) (data : List UInt8) :
    ProxyResult :=
  match clientTransProxyGetInfoByChannelId s.channelInfoList channelId with
  | (none, channels) => ⟨.err, { s with channelInfoList := channels }, []⟩
  | (some info, channels) =>
    let s := { s with channelInfoList := channels }
    if !info.isEncrypted then
      ⟨env.onDataReceived channelId data SessionPktType.bytes.toInt, s,
        [.onDataReceived channelId data SessionPktType.bytes.toInt]⟩
    else clientTransProxySliceProc env s mem channelId data

def SliceProcessor.tick (p : SliceProcessor) : SliceProcessor × List SliceStep :=
  if p.active then
    if slicePacketTimeout ≤ p.timeout + 1 then (.cleared, [.cleared])
    else ({ p with timeout := p.timeout + 1 }, [])
  else (p, [])

def clientTransProxySliceTimerProc (s : ProxyState) : ProxyState :=
  { s with
    channelSliceProcessorList := fun channelId =>
      (s.channelSliceProcessorList channelId).map fun node index => (node index).tick.1
    history := fun channelId index =>
      match s.channelSliceProcessorList channelId with
      | some node => s.history channelId index ++ (node index).tick.2
      | none => s.history channelId index }

def transProxyDelSliceProcessorByChannelId (s : ProxyState) (channelId : Int) : ProxyState :=
  match s.channelSliceProcessorList channelId with
  | some _ =>
    { s with
      channelSliceProcessorList := Function.update s.channelSliceProcessorList channelId none
      history := Function.update s.history channelId fun index => s.history channelId index ++ [.cleared] }
  | none => s

/-! ## Runs -/

inductive ProxyEvent where
  | onDataReceived (channelId : Int) (data : List UInt8) (mem : ProxyMem)
  | sliceProc (channelId : Int) (data : List UInt8) (mem : ProxyMem)
  | sliceTimer
  | delSliceProcessor (channelId : Int)
deriving DecidableEq, Repr

def ProxyState.handle (s : ProxyState) : ProxyEvent → ProxyState × List ProxyOutput
  | .onDataReceived channelId data mem =>
    let r := clientTransProxyOnDataReceived env s mem channelId data
    (r.state, r.out)
  | .sliceProc channelId data mem =>
    let r := clientTransProxySliceProc env s mem channelId data
    (r.state, r.out)
  | .sliceTimer => (clientTransProxySliceTimerProc s, [])
  | .delSliceProcessor channelId => (transProxyDelSliceProcessorByChannelId s channelId, [])

def ProxyState.next (s : ProxyState) (e : ProxyEvent) : ProxyState := (s.handle env e).1

end

def ProxyState.init (channels : ProxyChannelInfoList) : ProxyState :=
  ⟨channels, fun _ => none, fun _ _ => []⟩

end SoftBus
