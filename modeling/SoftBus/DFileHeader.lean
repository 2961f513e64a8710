import SoftBus.Common
import SoftBus.Lib.Run

/-!
# The header exchange of DFile

The sender packs a unit for every file, and one with id 0 for the user data and
the path type, into header frames of at most the mtu; the receiver fills its list
from them and confirms the ids it has. Ids that are confirmed are left out when
the header is sent again. A frame that was sent may arrive at any later time, any
number of times or never.
-/

namespace SoftBus

/-! ## Frames -/

/-- `offsetof(FileInfoUnit, fileName)` -/
def fileInfoUnitLen : Nat := 12

def dfileFrameHeaderLen : Nat := 8

def userDataFlagBit : BitVec 8 := 0x1
def pathTypeFlagBit : BitVec 8 := 0x2
def noSyncFlagBit : BitVec 8 := 0x4

structure FileHeaderFrame where
  flag : BitVec 8
  length : Nat
  nodeNumber : Nat
  fileInfoUnit : List UInt8
deriving DecidableEq, Repr

structure FileHeaderConfirmFrame where
  length : Nat
  fileId : List UInt8
deriving DecidableEq, Repr

def nstackxDfileMaxFileNum (liteos : Bool) : Nat := if liteos then 10 else 500

def nstackxMaxRemotePathLen : Nat := 1024

def nstackxMaxFileSize : Nat := 0x7FFFFFFFFF

structure DFileEntry where
  name : List UInt8
  size : Nat
deriving DecidableEq, Repr

/-! ## The sender's list -/

structure DFileSendList where
  list : List DFileEntry
  userData : Option (List UInt8)
  pathType : Nat
  noSyncFlag : Bool := false
  tarFlag : Bool := false
  -- what `GetTarTotalBlockLength` returns
  tarTotalBlockLength : Nat := 0
deriving DecidableEq, Repr

namespace DFileSendList

section
variable (l : DFileSendList)

def packedUserData : Option (List UInt8) :=
  if 0 < l.pathType then some (Bytes.put 2 l.pathType ++ l.userData.getD []) else none

def hasUserData : Bool := l.userData.isSome || l.packedUserData.isSome

def fileNum : Nat := if l.tarFlag then 1 else l.list.length

/-- The name of a unit, which is its data for id 0. -/
def fileName (fileId : Nat) : List UInt8 :=
  if fileId = 0 then l.packedUserData.getD (l.userData.getD [])
  else (l.list[fileId - 1]?.map DFileEntry.name).getD []

def fileSize (fileId : Nat) : Nat :=
  if fileId = 0 then 0
  else if l.tarFlag then l.tarTotalBlockLength
  else (l.list[fileId - 1]?.map DFileEntry.size).getD 0

def fileNameLen (fileId : Nat) : Nat := (l.fileName fileId).length % 65536

/-- `EncodeFileInfo`; `none` is `NSTACKX_EAGAIN`. -/
def encodeFileInfo (fileId length : Nat) : Option (List UInt8) :=
  if length ≤ fileInfoUnitLen then none
  else if length - fileInfoUnitLen < l.fileNameLen fileId then none
  else some (Bytes.putBig 2 fileId ++ (Bytes.putBig 8 (l.fileSize fileId) ++ (Bytes.putBig 2 (l.fileNameLen fileId) ++
    (l.fileName fileId).take (l.fileNameLen fileId))))

/-- The loop of `EncodeFileHeaderFrameSp` over the ids that are left, with the room that is left: the units, and the
id after the last one passed. -/
def encodeUnits (l : DFileSendList) (acked : Nat → Bool) : Nat → Nat → Nat → List (List UInt8) × Nat
  | 0, next, _ => ([], next)
  | left + 1, next, room =>
    if room = 0 then ([], next)
    else if acked next || (next == 0 && !l.hasUserData) then encodeUnits l acked left (next + 1) room
    else
      match l.encodeFileInfo next room with
      | none => ([], next)
      | some unit =>
        (unit :: (encodeUnits l acked left (next + 1) (room - unit.length)).1,
          (encodeUnits l acked left (next + 1) (room - unit.length)).2)

def flag : BitVec 8 :=
  (if l.userData.isSome then userDataFlagBit else 0) ||| (if 0 < l.pathType then pathTypeFlagBit else 0) |||
    (if l.noSyncFlag then noSyncFlagBit else 0)

def encodeFileHeaderFrame (acked : Nat → Bool) (next mtu : Nat) : FileHeaderFrame × Nat :=
  (frameOf (encodeUnits l acked (l.fileNum + 1 - next) next (mtu - (2 + dfileFrameHeaderLen))).1,
    (encodeUnits l acked (l.fileNum + 1 - next) next (mtu - (2 + dfileFrameHeaderLen))).2)
where
  frameOf (units : List (List UInt8)) : FileHeaderFrame :=
    ⟨l.flag, (units.flatten.length + 2) % 65536, l.fileNum % 65536, units.flatten⟩

/-- `DecodeFileHeaderConfirmFrame`: the ids that are acked after it. -/
def decodeFileHeaderConfirmFrame (acked : Nat → Bool) (frame : FileHeaderConfirmFrame) : Nat → Bool :=
  if frame.length = 0 ∨ frame.length % 2 ≠ 0 then acked else setAcked (frame.length / 2) frame.fileId acked
where
  setAcked : Nat → List UInt8 → (Nat → Bool) → Nat → Bool
    | 0, _, acked => acked
    | count + 1, fileId, acked =>
      setAcked count (fileId.drop 2)
        (if l.list.length < Bytes.readBig 2 fileId then acked else Function.update acked (Bytes.readBig 2 fileId) true)

def fileListAllFileNameAcked (acked : Nat → Bool) : Bool :=
  (!l.hasUserData || acked 0) &&
    if l.tarFlag then acked 1 else (List.range l.list.length).all fun i => acked (i + 1)

end

end DFileSendList

/-! ## The receiver's list -/

structure DFileRecvList where
  -- the entries whose name has been received
  list : Option (List (Option DFileEntry)) := none
  -- the first bit of `userDataFlag`
  hasUserData : Bool := false
  -- `NSTACKX_FLAGS_FILE_NAME_RECEIVED` of `userDataFlag`
  userDataReceived : Bool := false
  userData : Option (List UInt8) := none
  pathType : Nat := 0
  noSyncFlag : Bool := false
deriving DecidableEq, Repr

namespace DFileRecvList

section
variable (r : DFileRecvList)

def num : Nat := (r.list.map List.length).getD 0

def fileListSetNum (liteos : Bool) (fileNum : Nat) : Option DFileRecvList :=
  if fileNum = 0 ∨ nstackxDfileMaxFileNum liteos < fileNum then none
  else if r.list.isSome then some r
  else some { r with list := some (List.replicate fileNum none) }

def fileListAddFile (fileId : Nat) (fileName : List UInt8) (fileSize : Nat) : Option DFileRecvList :=
  match r.list with
  | none => none
  | some list =>
    if fileId = 0 ∨ list.length < fileId then none
    else if nstackxMaxRemotePathLen < fileName.length + 1 then none
    else if nstackxMaxFileSize < fileSize then none
    else if (list[fileId - 1]?.join).isSome then some r
    else some { r with list := some (list.set (fileId - 1) (some ⟨fileName, fileSize⟩)) }

/-- `ParsePackedDFileUserData`; a failure is only logged. -/
def parsePackedDFileUserData (buf : List UInt8) (flag : BitVec 8) : DFileRecvList :=
  if buf.length < 2 then r
  else if Bytes.read 2 buf = 0 ∨ flag &&& userDataFlagBit = 0 then { r with pathType := Bytes.read 2 buf }
  else { r with pathType := Bytes.read 2 buf, userData := some (buf.drop 2) }

def fileListAddUserData (userData : List UInt8) (flag : BitVec 8) : Option DFileRecvList :=
  if r.userDataReceived then some r
  else if flag &&& pathTypeFlagBit ≠ 0 then some { r.parsePackedDFileUserData userData flag with userDataReceived := true }
  else if flag &&& userDataFlagBit ≠ 0 then some { r with userData := some userData, userDataReceived := true }
  else none

/-- One turn of the loop of `DecodeFileHeaderFrameSp`, for the unit at the front of the buffer. -/
def decodeUnit (flag : BitVec 8) (buf : List UInt8) : Option DFileRecvList :=
  if buf.length ≤ fileInfoUnitLen then none
  else if Bytes.readBig 2 buf = 0 ∧ flag &&& userDataFlagBit = 0 ∧ flag &&& pathTypeFlagBit = 0 then none
  else if Bytes.readBig 2 buf ≠ 0 ∧ fileNameLength buf = 0 ∨ buf.length - fileInfoUnitLen < fileNameLength buf then none
  else if Bytes.readBig 2 buf = 0 then r.fileListAddUserData ((buf.drop 12).take (fileNameLength buf)) flag
  else r.fileListAddFile (Bytes.readBig 2 buf) ((buf.drop 12).take (fileNameLength buf)) (Bytes.readBig 8 (buf.drop 2))
where
  fileNameLength (buf : List UInt8) : Nat := Bytes.readBig 2 (buf.drop 10)

/-- The loop; a unit has at least one byte. The flag tells whether `NSTACKX_EOK` is returned. -/
def decodeUnits (flag : BitVec 8) : Nat → List UInt8 → DFileRecvList → DFileRecvList × Bool
  | 0, _, r => (r, true)
  | fuel + 1, buf, r =>
    if buf = [] then (r, true)
    else
      match r.decodeUnit flag buf with
      | none => (r, false)
      | some r => decodeUnits flag fuel (buf.drop (fileInfoUnitLen + decodeUnit.fileNameLength buf)) r

def decodeFileHeaderFrame (liteos : Bool) (frame : FileHeaderFrame) : DFileRecvList × Bool :=
  if frame.length ≤ 2 then (r, false)
  else
    match r.fileListSetNum liteos frame.nodeNumber with
    | none => (r, false)
    | some r =>
      decodeUnits frame.flag (frame.length - 2) (frame.fileInfoUnit.take (frame.length - 2))
        { r with
          hasUserData := r.hasUserData || frame.flag &&& userDataFlagBit ≠ 0 || frame.flag &&& pathTypeFlagBit ≠ 0
          noSyncFlag := r.noSyncFlag || frame.flag &&& noSyncFlagBit ≠ 0 }

def fileListGetFileNameReceived (fileId : Nat) : Bool :=
  ((r.list.getD [])[fileId - 1]?.join).isSome

/-- The loop of `EncodeFileHeaderConfirmFrame` over the ids that are left; `room` more ids fit in. -/
def encodeConfirmed (r : DFileRecvList) : Nat → Nat → Nat → List Nat × Nat
  | 0, next, _ => ([], next)
  | left + 1, next, room =>
    if !r.fileListGetFileNameReceived next then encodeConfirmed r left (next + 1) room
    else if room = 0 then ([], next)
    else
      (next :: (encodeConfirmed r left (next + 1) (room - 1)).1, (encodeConfirmed r left (next + 1) (room - 1)).2)

def encodeFileHeaderConfirmFrame (next mtu : Nat) : FileHeaderConfirmFrame × Nat :=
  (frameOf (front ++ (encodeConfirmed r (r.num + 1 - next) next ((mtu - dfileFrameHeaderLen) / 2 - front.length)).1),
    (encodeConfirmed r (r.num + 1 - next) next ((mtu - dfileFrameHeaderLen) / 2 - front.length)).2)
where
  -- the user data is confirmed in every frame
  front : List Nat := if r.hasUserData && r.userDataReceived then [0] else []
  frameOf (ids : List Nat) : FileHeaderConfirmFrame := ⟨ids.length * 2 % 65536, ids.flatMap (Bytes.putBig 2)⟩

end

end DFileRecvList

/-! ## The exchange -/

structure HeaderExchange where
  acked : Nat → Bool := fun _ => false
  -- `lastSentHeaderFileId + 1`
  nextSent : Nat := 0
  recv : DFileRecvList := {}
  -- `lastAckedHeaderFileId + 1`
  nextAcked : Nat := 1
  -- the frames sent so far
  headers : List FileHeaderFrame := []
  confirms : List FileHeaderConfirmFrame := []

inductive HeaderEvent where
  -- one turn of the loop of `SendFileHeader`
  | sendFileHeader
  -- `WaitForFileHeaderConfirmPrepare`
  | waitForFileHeaderConfirmPrepare
  -- a header frame that was sent arrives
  | recvHeader (i : Nat)
  -- one turn of the loop of `SendFileHeaderConfirm`
  | sendFileHeaderConfirm
  -- the confirm starts anew
  | sendFileHeaderConfirmPrepare
  -- a confirm frame that was sent arrives
  | recvConfirm (i : Nat)
deriving DecidableEq, Repr

namespace HeaderExchange

variable (liteos : Bool) (l : DFileSendList) (mtu : Nat)

def next (s : HeaderExchange) : HeaderEvent → HeaderExchange
  | .sendFileHeader =>
    { s with
      nextSent := (l.encodeFileHeaderFrame s.acked s.nextSent mtu).2
      headers := s.headers ++ [(l.encodeFileHeaderFrame s.acked s.nextSent mtu).1] }
  | .waitForFileHeaderConfirmPrepare => { s with nextSent := 0 }
  | .recvHeader i =>
    match s.headers[i]? with
    | none => s
    | some frame => { s with recv := (s.recv.decodeFileHeaderFrame liteos frame).1 }
  | .sendFileHeaderConfirm =>
    { s with
      nextAcked := (s.recv.encodeFileHeaderConfirmFrame s.nextAcked mtu).2
      confirms := s.confirms ++ [(s.recv.encodeFileHeaderConfirmFrame s.nextAcked mtu).1] }
  | .sendFileHeaderConfirmPrepare => { s with nextAcked := 1 }
  | .recvConfirm i =>
    match s.confirms[i]? with
    | none => s
    | some frame => { s with acked := l.decodeFileHeaderConfirmFrame s.acked frame }

end HeaderExchange

end SoftBus
