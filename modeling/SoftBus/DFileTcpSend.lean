import SoftBus.Lib.Framing
import SoftBus.Lib.Run

/-!
# The sender thread of a DFile session over TCP

Control frames come from the outbound queue, data frames from the send list of the file
manager. The socket takes any number of bytes of a frame. The rest of a control frame is
kept in `preQueueNode`, that of a data frame in the list `unsent`. One event is one call
of `DFileSessionSendFrame`; what its loops see is part of the event. A call whose loop
sees no more has not returned.
-/

namespace SoftBus

open Framing (Wire)

abbrev TcpFrame : Type := { l : List UInt8 // l ≠ [] }

inductive WireFrame where
  | control (f : TcpFrame)
  | data (f : TcpFrame)
deriving DecidableEq

namespace WireFrame

def bytes : WireFrame → List UInt8
  | control f => f.1
  | data f => f.1

def data? : WireFrame → Option TcpFrame
  | control _ => none
  | data f => some f

def control? : WireFrame → Option TcpFrame
  | control f => some f
  | data _ => none

end WireFrame

/-- `QueueNode` and `BlockFrame`: a frame of which not all bytes are out. -/
structure SendNode where
  frame : TcpFrame
  sendLen : Nat
  pending : sendLen < frame.1.length
deriving DecidableEq

def SendNode.start (f : TcpFrame) : SendNode := ⟨f, 0, List.length_pos_iff.mpr f.2⟩

inductive SocketResult where
  | accepts (room : Nat)
  | wouldBlock
  | error
deriving DecidableEq, Repr

inductive SendRet where
  | positive
  | eok
  | eagain
  | efailed
deriving DecidableEq, Repr

structure DFileSender where
  -- `DFILE_SESSION_TYPE_CLIENT`
  client : Bool
  outboundQueue : List TcpFrame := []
  preQueueNode : Option SendNode := none
  unsent : List SendNode := []
  wire : Wire WireFrame UInt8 := {}
  -- the control frames put into the queue
  posted : List TcpFrame := []
  -- the data frames taken from the send list
  taken : List TcpFrame := []
  -- the thread has left its loop, or a call has not returned
  ended : Bool := false
deriving DecidableEq

structure DataTurn where
  -- what `FileManagerFileRead` gives, if there is need for it
  block : Option TcpFrame
  socket : SocketResult
  -- `stopSendCnt` is not zero after it
  stop : Bool
deriving DecidableEq

structure ControlTurn where
  socket : SocketResult
  closeFlag : Bool
deriving DecidableEq

structure DataPhase where
  -- `ClientGetPeerInfoBySocketIndex` finds the peer
  peer : Bool
  amendSendRate : Int
  turns : List DataTurn
deriving DecidableEq

structure SendCall where
  remain : DataPhase
  closeAfterRemain : Bool
  control : List ControlTurn
  peer : Bool
  mtuInuse : Nat
  data : DataPhase
  closeFlag : Bool
deriving DecidableEq

inductive DFileSenderEvent where
  -- another thread puts a control frame into the queue
  | post (f : TcpFrame)
  | send (c : SendCall)
deriving DecidableEq

namespace DFileSender

/-- `TcpSendFileDataFrame` and the TCP part of `SendControlFrame` -/
def tcpSend (wrap : TcpFrame → WireFrame) (w : Wire WireFrame UInt8) (n : SendNode) :
    SocketResult → Wire WireFrame UInt8 × Option SendNode × SendRet
  | .accepts room =>
    if h : n.sendLen + (room + 1) < n.frame.1.length then
      (w.write WireFrame.bytes (wrap n.frame) n.sendLen (room + 1), some ⟨n.frame, n.sendLen + (room + 1), h⟩, .eagain)
    else (w.write WireFrame.bytes (wrap n.frame) n.sendLen (n.frame.1.length - n.sendLen), none, .positive)
  | .wouldBlock => (w, some n, .eagain)
  | .error => (w, some n, .efailed)

def tcpSendFileDataFrame := tcpSend .data

def sendControlFrame := tcpSend .control

section
variable (s : DFileSender)

def takeBlock (head : Option SendNode) (block : Option TcpFrame) : DFileSender × Option SendNode :=
  match head, block with
  | some n, _ => (s, some n)
  | none, some f => ({ s with taken := s.taken ++ [f] }, some (.start f))
  | none, none => (s, none)

/-- `DoSendDataFrame`, with `MAX_SEND_COUNT` one and so one block in `head` at most. With
`NSTACKX_EAGAIN` the list becomes `unsent` again. -/
def doSendDataFrame (sendRemain : Bool) : List DataTurn → Option SendNode → DFileSender → DFileSender × SendRet
  | [], head, s => ({ s with unsent := head.toList, ended := true }, .eagain)
  | o :: turns, head, s =>
    match s.takeBlock head o.block with
    | (s, none) => (s, .eok)
    | (s, some n) =>
      match tcpSendFileDataFrame s.wire n o.socket with
      | (w, _, .positive) =>
        if sendRemain || o.stop then ({ s with wire := w }, .positive)
        else doSendDataFrame sendRemain turns none { s with wire := w }
      | (w, rest, .eagain) => ({ s with wire := w, unsent := rest.toList }, .eagain)
      | (w, _, _) => ({ s with wire := w }, .efailed)

def sendDataFrame (sendRemain : Bool) (p : DataPhase) : DFileSender × SendRet :=
  if !p.peer then (s, .efailed)
  else if p.amendSendRate = 0 then (s, .eok)
  else doSendDataFrame sendRemain p.turns s.unsent.head? { s with unsent := s.unsent.tail }

def takeNode (queueNode : Option SendNode) : DFileSender × Option SendNode :=
  match queueNode, s.outboundQueue with
  | some n, _ => (s, some n)
  | none, f :: queue => ({ s with outboundQueue := queue }, some (.start f))
  | none, [] => (s, none)

def sendOutboundFrame : List ControlTurn → Option SendNode → DFileSender → DFileSender × SendRet
  | [], queueNode, s =>
    match s.takeNode queueNode with
    | (s, none) => ({ s with preQueueNode := none }, .eok)
    | (s, some n) => ({ s with preQueueNode := some n, ended := true }, .eagain)
  | o :: turns, queueNode, s =>
    match s.takeNode queueNode with
    | (s, none) => ({ s with preQueueNode := none }, .eok)
    | (s, some n) =>
      match sendControlFrame s.wire n o.socket with
      | (w, _, .positive) =>
        if o.closeFlag then ({ s with wire := w, preQueueNode := none }, .positive)
        else sendOutboundFrame turns none { s with wire := w }
      | (w, rest, .eagain) => ({ s with wire := w, preQueueNode := rest }, .eagain)
      | (w, _, _) => ({ s with wire := w, preQueueNode := none }, .efailed)

/-- The part of `DFileSessionSendFrame` that finishes a data frame; `none` when it goes on. -/
def sendRemainFrame (c : SendCall) : DFileSender × Option SendRet :=
  if s.unsent = [] then (s, none)
  else
    match s.sendDataFrame true c.remain with
    | (s, .efailed) => (s, some .efailed)
    | (s, .eagain) => (s, some .eagain)
    | (s, ret) => (s, if c.closeAfterRemain then some ret else none)

def sendNewFrames (c : SendCall) : DFileSender × SendRet :=
  match sendOutboundFrame c.control s.preQueueNode s with
  | (s, ret) =>
    if !s.client then (s, ret)
    else if !c.peer then (s, .efailed)
    else if c.mtuInuse = 0 then (s, ret)
    else if ret = .eok then s.sendDataFrame false c.data
    else (s, ret)

def dFileSessionSendFrame (c : SendCall) : DFileSender × SendRet :=
  match s.sendRemainFrame c with
  | (s, some ret) => (s, ret)
  | (s, none) => s.sendNewFrames c

def afterCall (c : SendCall) : DFileSender × SendRet → DFileSender
  | (s, ret) => { s with ended := s.ended || c.closeFlag || c.closeAfterRemain || ret = .efailed }

def next : DFileSenderEvent → DFileSender
  | .post f => { s with outboundQueue := s.outboundQueue ++ [f], posted := s.posted ++ [f] }
  | .send c => if s.ended then s else afterCall c (s.dFileSessionSendFrame c)

end

end DFileSender

end SoftBus
