import SoftBus.Lib.Answer
import SoftBus.Lib.FirstMatch
import SoftBus.Lib.Run

/-!
# Lanes

A caller takes a lane id, asks for a lane under it and frees it. What is known of a
lane is kept under its id in four places: the requests, the nodes with the links that
are still to be tried, the link infos and the messages of the looper. The resources
count the lanes that use a link. Ids are handed out again once they are freed.

Every request that is accepted gets a number. The number is put beside all that is
made for the request; no function looks at it.
-/

namespace SoftBus

inductive LaneLinkType where
  | br | ble | p2p | wlan2p4g | wlan5g | eth | p2pReuse | bleDirect | bleReuse | coc | cocDirect | hml
deriving DecidableEq

structure TransOption where
  networkId : List UInt8
  transType : Nat
  networkDelegate : Bool
  p2pOnly : Bool
  acceptableProtocols : BitVec 32
  pid : Int
  peerBleMac : List UInt8
  psm : Int
deriving DecidableEq

structure LinkRequest where
  peerNetworkId : List UInt8
  networkDelegate : Bool
  p2pOnly : Bool
  linkType : LaneLinkType
  acceptableProtocols : BitVec 32
  pid : Int
  transType : Nat
  peerBleMac : List UInt8
  psm : Int
deriving DecidableEq

/-- What `FindLaneResource` compares. `LaneLinkOfBr` answers with an error when there is no mac. -/
structure LaneKey where
  type : LaneLinkType
  addr : List UInt8
  brMac : type = .br → addr ≠ []
deriving DecidableEq

structure TransReqInfo where
  laneId : Nat
  info : TransOption
  owner : Nat
deriving DecidableEq

structure LaneLinkNodeInfo where
  laneId : Nat
  networkId : List UInt8
  peerBleMac : List UInt8
  psm : Int
  transType : Nat
  pid : Int
  networkDelegate : Bool
  p2pOnly : Bool
  linkList : List LaneLinkType
  linkRetryIdx : Nat := 0
  owner : Nat
deriving DecidableEq

structure LaneLinkInfo where
  laneId : Nat
  key : LaneKey
  owner : Nat
  -- what `BuildLink` was asked for
  origin : LinkRequest
deriving DecidableEq

structure LaneResource where
  key : LaneKey
  laneRef : Nat
deriving DecidableEq

inductive LaneMsgBody where
  | triggerLink (acceptableProtocols : BitVec 64)
  | linkSuccess (info : LaneLinkInfo)
  | linkFail (arg2 : BitVec 64)
deriving DecidableEq

structure LaneMsg where
  laneId : Nat
  owner : Nat
  body : LaneMsgBody
deriving DecidableEq

structure DelayDestroy where
  laneId : Nat
  owner : Nat
  key : LaneKey
deriving DecidableEq

structure PendingLink where
  laneId : Nat
  owner : Nat
  request : LinkRequest
deriving DecidableEq

/-- What is seen from outside, with the number of the request that is found under the lane id and the
number of the request it was done for. -/
inductive LaneLog where
  | built (holder : Option Nat) (owner : Nat) (request : LinkRequest)
  | success (holder owner : Nat) (origin : LinkRequest)
  | fail (holder owner : Nat)
  | destroyed (holder owner : Nat)
deriving DecidableEq

structure LaneHub where
  laneIdBitmap : List Nat := []
  requestList : List TransReqInfo := []
  multiLinkList : List LaneLinkNodeInfo := []
  linkInfoList : List LaneLinkInfo := []
  laneResourceList : List LaneResource := []
  queue : List LaneMsg := []
  delayed : List DelayDestroy := []
  pending : List PendingLink := []
  -- the requests in the order of their numbers
  asked : List (TransOption × List LaneLinkType) := []
  freed : List Nat := []
  -- the lanes that were linked when their caller had not freed them, until they are destroyed
  lanes : List LaneLinkInfo := []
  log : List LaneLog := []
deriving DecidableEq

inductive LinkResult where
  | success (key : LaneKey)
  | fail (reason : BitVec 32)
deriving DecidableEq

inductive LaneEvent where
  | applyLaneId
  -- `Alloc` or `AllocLane` with the links that were selected
  | alloc (laneId : Nat) (option : TransOption) (linkList : List LaneLinkType)
  | free (laneId : Nat)
  -- a pending link calls back
  | callback (n : Nat) (result : LinkResult)
  -- the looper takes a message; `BuildLink` returns OK or not
  | loop (built : Bool)
  | delayDestroy
deriving DecidableEq

def laneTypeTrans : Nat := 1
def maxLaneIdNum : Nat := 1024
def laneIdTypeShift : Nat := 28
def laneRandomIdMask : Nat := 0xFFFFFFF

/-- `SOFTBUS_ERR` as the 64 bits of a message -/
def softbusErr : BitVec 64 := -426442708
def lnnProtocolNip : BitVec 32 := 0x80
def lnnProtocolAll : BitVec 32 := -1

namespace LaneHub

/-! ## Lane ids -/

def allocLaneId (s : LaneHub) : LaneHub × Option Nat :=
  match (List.range maxLaneIdNum).find? fun i => i ∉ s.laneIdBitmap with
  | none => (s, none)
  | some i => ({ s with laneIdBitmap := i :: s.laneIdBitmap }, some ((i + 1) ||| (laneTypeTrans <<< laneIdTypeShift)))

def destroyLaneId (s : LaneHub) (laneId : Nat) : LaneHub :=
  if laneId &&& laneRandomIdMask = 0 ∨ maxLaneIdNum < laneId &&& laneRandomIdMask then s
  else { s with laneIdBitmap := s.laneIdBitmap.filter (· ≠ (laneId &&& laneRandomIdMask) - 1) }

/-! ## The lists -/

section
variable (s : LaneHub) (laneId : Nat)

def getLaneReqInfo : Option TransReqInfo := s.requestList.find? (·.laneId = laneId)

def deleteRequestNode : LaneHub := { s with requestList := s.requestList.eraseP (·.laneId = laneId) }

def getLaneLinkNode : Option LaneLinkNodeInfo := s.multiLinkList.find? (·.laneId = laneId)

def deleteLaneLinkNode : LaneHub := { s with multiLinkList := s.multiLinkList.eraseP (·.laneId = laneId) }

def findLaneLinkInfoByLaneId : Option LaneLinkInfo := s.linkInfoList.find? (·.laneId = laneId)

def delLinkInfoItem : LaneHub := { s with linkInfoList := s.linkInfoList.filter (·.laneId ≠ laneId) }

def postMsg (m : LaneMsg) : LaneHub := { s with queue := s.queue ++ [m] }

def note (e : LaneLog) : LaneHub := { s with log := s.log ++ [e] }

def laneResourceIsExist (key : LaneKey) : Option LaneResource := s.laneResourceList.find? (·.key = key)

def addLaneResourceItem (key : LaneKey) : LaneHub :=
  match s.laneResourceIsExist key with
  | some _ =>
    { s with
      laneResourceList := FirstMatch.modify (·.key = key) (fun r => { r with laneRef := r.laneRef + 1 }) s.laneResourceList }
  | none => { s with laneResourceList := ⟨key, 1⟩ :: s.laneResourceList }

def delLaneResourceItem (key : LaneKey) : LaneHub :=
  match s.laneResourceIsExist key with
  | some r =>
    if r.laneRef - 1 = 0 then { s with laneResourceList := s.laneResourceList.eraseP (·.key = key) }
    else
      { s with
        laneResourceList := FirstMatch.modify (·.key = key) (fun r => { r with laneRef := r.laneRef - 1 }) s.laneResourceList }
  | none => s

end

/-! ## The caller -/

section
variable (s : LaneHub)

/-- `Alloc` and `AllocLane` with `TriggerLink`; a selection without links is an error. -/
def alloc (laneId : Nat) (option : TransOption) (linkList : List LaneLinkType) : LaneHub :=
  if linkList = [] then s
  else added.postMsg ⟨laneId, s.asked.length, .triggerLink (option.acceptableProtocols.setWidth 64)⟩
where
  added : LaneHub :=
    { s with
      requestList := s.requestList ++ [⟨laneId, option, s.asked.length⟩]
      multiLinkList := s.multiLinkList ++ [node]
      asked := s.asked ++ [(option, linkList)] }
  node : LaneLinkNodeInfo :=
    { laneId, networkId := option.networkId, peerBleMac := option.peerBleMac, psm := option.psm
      transType := option.transType, pid := option.pid, networkDelegate := option.networkDelegate
      p2pOnly := option.p2pOnly, linkList, owner := s.asked.length }

/-- `FreeLaneLink` without the resource; both of its branches do this much. -/
def freeLaneLink (laneId : Nat) : LaneHub :=
  { ((s.deleteRequestNode laneId).delLinkInfoItem laneId).destroyLaneId laneId with
    lanes := s.lanes.filter (·.laneId ≠ laneId) }

def markFreed (laneId : Nat) : LaneHub :=
  match s.getLaneReqInfo laneId with
  | some q => { s with freed := q.owner :: s.freed }
  | none => s

def startDelayDestroyLink (info : LaneLinkInfo) : LaneHub :=
  { s with delayed := s.delayed ++ [⟨info.laneId, ((s.getLaneReqInfo info.laneId).map (·.owner)).getD info.owner, info.key⟩] }

/-- `Free`. The id has the type of a lane and is not `INVALID_LANE_ID`, as `LnnFreeLane` checks. Without a link
info the record stays zeroed, a BR link without a mac, which no entry has. -/
def free (laneId : Nat) : LaneHub :=
  if laneId >>> laneIdTypeShift ≠ laneTypeTrans then s
  else
    match s.findLaneLinkInfoByLaneId laneId with
    | none => (s.markFreed laneId).freeLaneLink laneId
    | some info =>
      match s.laneResourceIsExist info.key with
      | none => (s.markFreed laneId).freeLaneLink laneId
      | some r =>
        -- `DelLaneResourceItemWithDelay`
        if r.key.type = .hml ∧ r.laneRef = 1 then (s.markFreed laneId).startDelayDestroyLink info
        else ((s.markFreed laneId).delLaneResourceItem info.key).freeLaneLink laneId

/-! ## The link -/

def convertible : LaneLinkType → Bool
  | .eth => false
  | .bleReuse => false
  | _ => true

/-- `AddLinkInfoItem` and `AddLaneResourceItem` have memory, and no `Free` comes between the two. -/
def linkSuccess (s : LaneHub) (p : PendingLink) (key : LaneKey) : LaneHub :=
  if !convertible key.type then s.postMsg ⟨p.laneId, p.owner, .linkFail softbusErr⟩
  else
    { ({ s with linkInfoList := info :: s.linkInfoList }.addLaneResourceItem key).postMsg
        ⟨p.laneId, p.owner, .linkSuccess info⟩ with
      lanes := if p.owner ∈ s.freed then s.lanes else info :: s.lanes }
where
  info : LaneLinkInfo := ⟨p.laneId, key, p.owner, p.request⟩

def linkFail (s : LaneHub) (p : PendingLink) (reason : BitVec 32) : LaneHub :=
  s.postMsg ⟨p.laneId, p.owner, .linkFail (reason.signExtend 64)⟩

def callback (n : Nat) (result : LinkResult) : LaneHub :=
  match s.pending[n]? with
  | none => s
  | some p =>
    match result with
    | .success key => { s with pending := s.pending.eraseIdx n }.linkSuccess p key
    | .fail reason => { s with pending := s.pending.eraseIdx n }.linkFail p reason

/-! ## The looper -/

/-- `NotifyLaneAllocSuccess`; `LaneInfoProcess` knows the types of `convertible`. -/
def notifyLaneAllocSuccess (laneId owner : Nat) (info : LaneLinkInfo) : LaneHub :=
  match s.getLaneReqInfo laneId with
  | none => s
  | some q => if convertible info.key.type then s.note (.success q.owner owner info.origin) else s

def notifyLaneAllocFail (laneId owner : Nat) : LaneHub :=
  match s.getLaneReqInfo laneId with
  | none => s
  | some q => (s.note (.fail q.owner owner)).deleteRequestNode laneId

def linkRequest (n : LaneLinkNodeInfo) (linkType : LaneLinkType) (acceptableProtocols : BitVec 32) : LinkRequest :=
  { peerNetworkId := n.networkId, networkDelegate := n.networkDelegate, p2pOnly := n.p2pOnly, linkType
    acceptableProtocols, pid := n.pid, transType := n.transType, peerBleMac := n.peerBleMac, psm := n.psm }

def advance (laneId : Nat) : LaneHub :=
  { s with
    multiLinkList :=
      FirstMatch.modify (·.laneId = laneId) (fun n => { n with linkRetryIdx := n.linkRetryIdx + 1 }) s.multiLinkList }

def buildLink (p : PendingLink) (built : Bool) : LaneHub :=
  if built then { s with pending := s.pending ++ [p] }
  else s.postMsg ⟨p.laneId, p.owner, .linkFail (p.request.acceptableProtocols.setWidth 64)⟩

def laneTriggerLink (laneId : Nat) (arg2 : BitVec 64) (built : Bool) : LaneHub :=
  match s.getLaneLinkNode laneId with
  | none => s
  | some n =>
    match n.linkList[n.linkRetryIdx]? with
    | none => s
    | some linkType =>
      ((s.advance laneId).note (.built ((s.getLaneReqInfo laneId).map (·.owner)) n.owner
        (linkRequest n linkType (arg2.setWidth 32)))).buildLink
        ⟨laneId, n.owner, linkRequest n linkType (arg2.setWidth 32)⟩ built

def laneLinkSuccess (laneId owner : Nat) (info : LaneLinkInfo) : LaneHub :=
  (s.deleteLaneLinkNode laneId).notifyLaneAllocSuccess laneId owner info

def retryProtocols (arg2 : BitVec 64) : BitVec 32 :=
  if arg2 = softbusErr then lnnProtocolAll ^^^ lnnProtocolNip else arg2.setWidth 32

def laneLinkFail (laneId owner : Nat) (arg2 : BitVec 64) : LaneHub :=
  match s.getLaneLinkNode laneId with
  | none => s.notifyLaneAllocFail laneId owner
  | some n =>
    if n.linkList.length ≤ n.linkRetryIdx then (s.deleteLaneLinkNode laneId).notifyLaneAllocFail laneId owner
    else s.postMsg ⟨laneId, n.owner, .triggerLink ((retryProtocols arg2).setWidth 64)⟩

def handle (m : LaneMsg) (built : Bool) : LaneHub :=
  match m.body with
  | .triggerLink arg2 => s.laneTriggerLink m.laneId arg2 built
  | .linkSuccess info => s.laneLinkSuccess m.laneId m.owner info
  | .linkFail arg2 => s.laneLinkFail m.laneId m.owner arg2

def loop (built : Bool) : LaneHub :=
  match s.queue with
  | [] => s
  | m :: queue => { s with queue }.handle m built

/-- `HandleDelayDestroyLink`. The messages have the same delay. -/
def handleDelayDestroyLink : LaneHub :=
  match s.delayed with
  | [] => s
  | m :: delayed => ((noteDestroyed { s with delayed } m).delLaneResourceItem m.key).freeLaneLink m.laneId
where
  noteDestroyed (s : LaneHub) (m : DelayDestroy) : LaneHub :=
    match s.getLaneReqInfo m.laneId with
    | some q => s.note (.destroyed q.owner m.owner)
    | none => s

def next : LaneEvent → LaneHub
  | .applyLaneId => s.allocLaneId.1
  | .alloc laneId option linkList => s.alloc laneId option linkList
  | .free laneId => s.free laneId
  | .callback n result => s.callback n result
  | .loop built => s.loop built
  | .delayDestroy => s.handleDelayDestroyLink

end

end LaneHub

end SoftBus
