import SoftBus.FileRecv
import SoftBus.Lib.Run

/-!
# The references to a file recipient

The recipients of `client_trans_proxy_file_manager.c`, the list they stand on
and the threads that process their frames. Each critical section under
`g_recvFileInfoLock` is one step. A recipient is named by the order of its
creation, which is also its order on the list; threads use these names as the
source uses pointers.
-/

namespace SoftBus

def fileTransTimeout : Nat := 10

structure RecipientNode where
  sessionId : Int
  info : FileRecipientInfo
  objRefCount : Int := 1
  -- Whether the node is on `g_recvRecipientInfoList`.
  linked : Bool := true
  -- How often `DelRecipient` or the timer has taken a reference away.
  drops : Nat := 0
  -- The number of threads that held the recipient, at each time it was freed.
  frees : List Nat := []
deriving DecidableEq, Repr

def setRecipientRecvState (state : FileRecvState) (r : FileRecipientInfo) : FileRecipientInfo :=
  match state with
  | .idle => r.setIdle
  | state => if r.recvState = .err then r else { r with recvState := state }

def getRecipientInfo : Option FileRecipientInfo → Option FileRecipientInfo
  | none => none
  | some r => some { r with recvState := if r.recvState = .start then .process else r.recvState }

namespace RecipientNode

/-- `ListDelete`, `ClearRecipientResources` and `SoftBusFree`. -/
def free (holders : Nat) (n : RecipientNode) : RecipientNode :=
  { n with linked := false, frees := n.frees ++ [holders] }

/-- The body of `ReleaseRecipientRef`. -/
def unref (holders : Nat) (n : RecipientNode) : RecipientNode :=
  if n.objRefCount - 1 = 0 then { n with objRefCount := n.objRefCount - 1 }.free holders
  else { n with objRefCount := n.objRefCount - 1 }

/-- The body of the loop in `DelRecipient`. -/
def del (holders : Nat) (n : RecipientNode) : RecipientNode :=
  { n.unref holders with drops := n.drops + 1 }

def Expired (n : RecipientNode) : Prop :=
  n.linked = true ∧ n.info.recvState ≠ .idle ∧ fileTransTimeout ≤ n.info.recvFileInfo.timeOut

instance (n : RecipientNode) : Decidable n.Expired := inferInstanceAs (Decidable (_ ∧ _))

/-- The body of the loop in `ProxyFileTransTimerProc`. -/
def tick (holders : Nat) (n : RecipientNode) : RecipientNode :=
  if n.linked = false ∨ n.info.recvState = .idle then n
  else if fileTransTimeout ≤ n.info.recvFileInfo.timeOut then
    let info := { n.info with
      recvState := .err
      recvFileInfo := { n.info.recvFileInfo with fileStatus := .err, timeOut := 0 } }
    { n with info, linked := false }.del holders
  else
    { n with info := { n.info with
      recvFileInfo := { n.info.recvFileInfo with timeOut := n.info.recvFileInfo.timeOut + 1 } } }

end RecipientNode

/-! ## Threads -/

inductive RefAct where
  -- The thread writes the file info, without the lock.
  | write (file : SingleFileInfo)
  | setState (state : FileRecvState)
  | release
  | del
deriving DecidableEq, Repr

inductive FrameHandler where
  | createFileFromFrame (env : RecvEnv) (file : Option SingleFileInfo)
  -- `last` for the last frame of a file without checksums.
  | writeFrameToFile (file : Option SingleFileInfo) (last : Bool)
  | processFileListData (ok : Bool)
  | processCrcCheckSumData (ok : Bool)
  | processFileAckRequest (file : Option SingleFileInfo)

namespace FrameHandler

def getRef : FrameHandler → Option FileRecipientInfo → Option FileRecipientInfo
  | .createFileFromFrame env _ => getRecipientInCreateFileRef env
  | .processFileListData _ => getRecipientInfo
  | _ => getRecipientInProcessRef

def todo : FrameHandler → List RefAct
  | .createFileFromFrame _ (some file) => [.write file, .release]
  | .createFileFromFrame _ none => [.release, .del]
  | .writeFrameToFile (some file) last =>
    if last then [.write file, .setState .idle, .release] else [.write file, .release]
  | .writeFrameToFile none _ => [.setState .err, .release, .del]
  | .processFileListData ok => [.setState (if ok then .idle else .err), .release, .del]
  | .processCrcCheckSumData ok =>
    -- the state is set after the reference is given back
    if ok then [.release, .setState .idle] else [.release, .setState .err, .del]
  | .processFileAckRequest (some file) => [.write file, .release]
  | .processFileAckRequest none => [.release]

end FrameHandler

structure RecipientCall where
  sessionId : Int
  recipient : Nat
  todo : List RefAct
deriving DecidableEq, Repr

def RecipientCall.holds (i : Nat) (c : RecipientCall) : Bool := c.recipient == i && c.todo.contains .release

structure RecipientWorld where
  nodes : List RecipientNode := []
  calls : List RecipientCall := []
deriving DecidableEq, Repr

inductive RecipientEvent where
  -- A thread starts on a frame.
  | frame (handler : FrameHandler) (sessionId : Int)
  -- Call number `k` goes on.
  | step (k : Nat)
  | clientDeleteRecvFileList (sessionId : Int)
  | timer
  -- The memory of a freed recipient is used for something else.
  | reuse (recipient : Nat) (value : Int)

namespace RecipientWorld

section
variable (w : RecipientWorld)

def holders (i : Nat) : Nat := w.calls.countP (RecipientCall.holds i)

def getRecipientNoLock (sessionId : Int) : Option Nat :=
  w.nodes.findIdx? fun n => n.linked && n.sessionId == sessionId

/-- `GetRecipientInCreateFileRef`, `GetRecipientInProcessRef` or `GetRecipientInfo`, and the call that
goes on with the reference. -/
def getRef (w : RecipientWorld) (handler : FrameHandler) (sessionId : Int) : RecipientWorld :=
  match w.getRecipientNoLock sessionId with
  | some i =>
    match handler.getRef ((w.nodes[i]?).map RecipientNode.info) with
    | none => w
    | some info =>
      { nodes := w.nodes.modify i fun n => { n with info, objRefCount := n.objRefCount + 1 }
        calls := w.calls ++ [⟨sessionId, i, handler.todo⟩] }
  | none =>
    match handler.getRef none with
    | none => w
    | some info =>
      -- `CreateNewRecipient` starts with the reference of the list
      { nodes := w.nodes ++ [{ sessionId, info, objRefCount := 1 + 1 }]
        calls := w.calls ++ [⟨sessionId, w.nodes.length, handler.todo⟩] }

def delRecipient (sessionId : Int) : RecipientWorld :=
  match w.getRecipientNoLock sessionId with
  | none => w
  | some i => { w with nodes := w.nodes.modify i (RecipientNode.del (w.holders i)) }

def act (c : RecipientCall) : RefAct → RecipientWorld
  | .write file => { w with nodes := w.nodes.modify c.recipient fun n =>
      { n with info := { n.info with recvFileInfo := { file with timeOut := 0 } } } }
  | .setState state => { w with nodes := w.nodes.modify c.recipient fun n =>
      { n with info := setRecipientRecvState state n.info } }
  | .release => { w with nodes := w.nodes.modify c.recipient (RecipientNode.unref (w.holders c.recipient)) }
  | .del => w.delRecipient c.sessionId

def next : RecipientEvent → RecipientWorld
  | .frame handler sessionId => w.getRef handler sessionId
  | .step k =>
    match w.calls[k]? with
    | none => w
    | some c =>
      match c.todo with
      | [] => w
      | a :: rest => { w with calls := w.calls.set k { c with todo := rest } }.act c a
  | .clientDeleteRecvFileList sessionId => if sessionId ≤ 0 then w else w.delRecipient sessionId
  | .timer => { w with nodes := w.nodes.mapIdx fun i n => n.tick (w.holders i) }
  | .reuse i value => { w with nodes := w.nodes.modify i fun n =>
      if n.frees = [] then n else { n with objRefCount := value } }

def deleted (sessionId : Int) : List RecipientNode :=
  (w.nodes.find? fun n => n.linked && n.sessionId == sessionId).toList

def droppedBy : RecipientEvent → List RecipientNode
  | .step k =>
    match w.calls[k]? with
    | none => []
    | some c => if c.todo.head? = some .del then w.deleted c.sessionId else []
  | .clientDeleteRecvFileList sessionId => if sessionId ≤ 0 then [] else w.deleted sessionId
  | .timer => w.nodes.filter (·.Expired)
  | _ => []

def DropsOnce (e : RecipientEvent) : Prop := ∀ n ∈ w.droppedBy e, n.drops = 0

end

instance (w : RecipientWorld) (e : RecipientEvent) : Decidable (w.DropsOnce e) :=
  inferInstanceAs (Decidable (∀ n ∈ _, _))

end RecipientWorld

end SoftBus
