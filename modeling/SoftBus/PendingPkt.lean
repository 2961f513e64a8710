import SoftBus.Lib.FirstMatch
import SoftBus.Lib.Run

/-!
# Messages that wait for their acknowledgement

`trans_pending_pkt.c` and `TransTdcSendMessage`: a message is posted, then an item for it is put in the list of the
pending packets, on which the call waits until the item is finished, canceled or late.

A step is one critical section, under the lock of the list or of an item, or the post of a packet. Calls are
numbered. Whether time is up and memory there comes with the step. A call keeps a record of the acknowledgements and
closes that were processed while it ran; no function looks at it.
-/

namespace SoftBus

inductive PackageStatus where
  | pending | finished | canceled
deriving DecidableEq

inductive PendingRet where
  | ok | timout | alreadyPending | mallocErr
deriving DecidableEq

structure PendingSend where
  owner : Nat
  channelId : Int
  seq : Int
  -- `SetPendingPacket` for its channel and number
  acked : Bool := false
  -- `DelPendingPacket` for its channel
  closed : Bool := false
deriving DecidableEq

structure PendingPktInfo where
  call : PendingSend
  status : PackageStatus := .pending
  -- the call sleeps on the condition of the item
  blocked : Bool := false
  -- what the call returns, once it waits no more
  ret : Option PendingRet := none
  -- `DelPendingPacket` for its channel while it waited
  closedWaiting : Bool := false
deriving DecidableEq

structure PendingPkts where
  -- calls that have posted their packet
  sent : List PendingSend := []
  pendingList : List PendingPktInfo := []
  returned : List (PendingSend × PendingRet) := []
  next : Nat := 0

namespace PendingPkts

variable (s : PendingPkts)

def isPacket (channelId seq : Int) (call : PendingSend) : Bool := call.seq = seq && call.channelId = channelId

def isChannel (channelId : Int) (call : PendingSend) : Bool := call.channelId = channelId

/-- `TransTdcProcessPostData` in `TransTdcSendMessage`. -/
def post (channelId seq : Int) : PendingPkts :=
  { s with sent := s.sent ++ [⟨s.next, channelId, seq, false, false⟩], next := s.next + 1 }

/-- `ProcPendingPacket` up to the item in the list. -/
def addItem (call : PendingSend) (mem : Bool) : PendingPkts :=
  let s := { s with sent := s.sent.eraseP (·.owner = call.owner) }
  if s.pendingList.any fun item => isPacket call.channelId call.seq item.call then
    { s with returned := s.returned ++ [(call, .alreadyPending)] }
  else if !mem then { s with returned := s.returned ++ [(call, .mallocErr)] }
  else { s with pendingList := { call } :: s.pendingList }

def checkItem (timeUp : Bool) (item : PendingPktInfo) : PendingPktInfo :=
  if item.ret.isSome then item
  else if item.status = .pending ∧ !timeUp then { item with blocked := true }
  else { item with blocked := false, ret := some (if item.status = .finished then .ok else .timout) }

/-- The last part of `ProcPendingPacket`. -/
def removeItem (item : PendingPktInfo) : PendingPkts :=
  match item.ret with
  | none => s
  | some ret =>
    { s with
      pendingList := s.pendingList.eraseP (·.call.owner = item.call.owner)
      returned := s.returned ++ [(item.call, ret)] }

def setStatus (status : PackageStatus) (item : PendingPktInfo) : PendingPktInfo := { item with status, blocked := false }

def noteAck (channelId seq : Int) (call : PendingSend) : PendingSend :=
  if isPacket channelId seq call then { call with acked := true } else call

def noteClose (channelId : Int) (call : PendingSend) : PendingSend :=
  if isChannel channelId call then { call with closed := true } else call

def noteItemAck (channelId seq : Int) (item : PendingPktInfo) : PendingPktInfo :=
  if item.ret.isSome then item else { item with call := noteAck channelId seq item.call }

def noteItemClose (channelId : Int) (item : PendingPktInfo) : PendingPktInfo :=
  if item.ret.isSome then item
  else
    { item with
      call := noteClose channelId item.call
      closedWaiting := item.closedWaiting || isChannel channelId item.call }

def setPendingPacket (channelId seq : Int) : PendingPkts :=
  { s with
    sent := s.sent.map (noteAck channelId seq)
    pendingList := (FirstMatch.modify (isPacket channelId seq ·.call) (setStatus .finished) s.pendingList).map
      (noteItemAck channelId seq) }

/-- Only the first item of the channel is canceled. -/
def delPendingPacket (channelId : Int) : PendingPkts :=
  { s with
    sent := s.sent.map (noteClose channelId)
    pendingList := (FirstMatch.modify (isChannel channelId ·.call) (setStatus .canceled) s.pendingList).map
      (noteItemClose channelId) }

end PendingPkts

inductive PendingEvent where
  | post (channelId seq : Int)
  | add (owner : Nat) (mem : Bool)
  | check (owner : Nat) (timeUp : Bool)
  | remove (owner : Nat)
  | ack (channelId seq : Int)
  | close (channelId : Int)

def PendingPkts.step (s : PendingPkts) : PendingEvent → PendingPkts
  | .post channelId seq => s.post channelId seq
  | .add owner mem =>
    match s.sent.find? (·.owner = owner) with
    | none => s
    | some call => s.addItem call mem
  | .check owner timeUp =>
    { s with pendingList := FirstMatch.modify (·.call.owner = owner) (checkItem timeUp) s.pendingList }
  | .remove owner =>
    match s.pendingList.find? (·.call.owner = owner) with
    | none => s
    | some item => s.removeItem item
  | .ack channelId seq => s.setPendingPacket channelId seq
  | .close channelId => s.delPendingPacket channelId

end SoftBus
