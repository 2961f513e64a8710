import Mathlib.Data.Int.Order.Basic
import SoftBus.Lib.Custody
import SoftBus.Lib.DueQueue
import SoftBus.Lib.Run

/-!
# The looper

`message_handler.c`: clients post messages to a looper, its thread handles them when
they are due. The queue and the flags are read and written under the lock of the looper;
the time of a message is taken before the lock, its handler runs outside of it. A step
is what one thread does from taking the lock to giving it back, or what it does without
the lock.

Messages are numbered in the order of the calls that post them, the nodes of the queue
in the order in which they are put in. No function looks at the numbers.
-/

namespace SoftBus

structure SoftBusHandler where
  id : Nat
  -- `HandleMessage` is set
  handleMessage : Bool
deriving DecidableEq

structure SoftBusMessage where
  id : Nat
  what : BitVec 32
  arg1 : BitVec 64
  arg2 : BitVec 64
  time : BitVec 64
  handler : Option SoftBusHandler
deriving DecidableEq

structure SoftBusMessageNode where
  msg : SoftBusMessage
  order : Nat
deriving DecidableEq

def SoftBusMessageNode.due (node : SoftBusMessageNode) : Int := node.msg.time.toInt

/-- Where the thread of the looper is. `stray`: it was first scheduled after the looper had
been freed, and what it finds there is not known. -/
inductive LoopThread where
  | notStarted
  | top
  | taken (msg : SoftBusMessage)
  | handling (msg : SoftBusMessage)
  | leaving
  | exited
  | stray
  | strayHandling
deriving DecidableEq

/-- A call of `RemoveMessage` or `RemoveMessageCustom` that waits for the lock, with the messages it
is meant for: those that match and were in the queue when it was called. -/
structure LoopRemoval where
  handler : SoftBusHandler
  customFunc : SoftBusMessage → Bool
  meant : List Nat

structure SoftBusLooper where
  clock : BitVec 64 := 0
  msgHead : List SoftBusMessageNode := []
  stop : Bool := false
  running : Bool := false
  isNeedDestroy : Bool := false
  isThreadStarted : Bool := false
  thread : LoopThread := .notStarted
  -- calls that are not finished
  posting : List SoftBusMessage := []
  removing : List LoopRemoval := []
  destroying : Nat := 0
  destroyed : Bool := false
  -- what has happened
  posted : Nat := 0
  inserted : Nat := 0
  log : List Custody.Mark := []
  -- the messages that removals which have returned were meant for
  removed : List Nat := []

namespace SoftBusLooper

/-! ## Posting -/

structure PostArgs where
  handler : Option SoftBusHandler
  what : BitVec 32
  arg1 : BitVec 64
  arg2 : BitVec 64
  -- `none` for `PostMessage`
  delayMillis : Option (BitVec 64)
  -- whether the allocation of the node succeeds
  mem : Bool

section
variable (s : SoftBusLooper)

def dueTime : Option (BitVec 64) → BitVec 64
  | none => s.clock
  | some delayMillis => s.clock + delayMillis * 1000

/-- `PostMessageAtTime` up to the lock. -/
def post (a : PostArgs) : SoftBusLooper :=
  let msg : SoftBusMessage := ⟨s.posted, a.what, a.arg1, a.arg2, s.dueTime a.delayMillis, a.handler⟩
  let s := { s with posted := s.posted + 1 }
  if a.handler.isNone || !a.mem then { s with log := s.log ++ [.freed msg.id] }
  else { s with posting := msg :: s.posting }

/-- `PostMessageAtTime` under the lock. -/
def insert (s : SoftBusLooper) (id : Nat) : SoftBusLooper :=
  match s.posting.find? (·.id = id) with
  | none => s
  | some msg =>
    let s := { s with posting := s.posting.eraseP (·.id = id) }
    if s.stop then { s with log := s.log ++ [.freed msg.id] }
    else { s with
      msgHead := DueQueue.insert SoftBusMessageNode.due ⟨msg, s.inserted⟩ s.msgHead
      inserted := s.inserted + 1 }

/-! ## Removing -/

def whatRemoveFunc (what : BitVec 32) (msg : SoftBusMessage) : Bool := msg.what = what

def LoopRemoval.matches (r : LoopRemoval) (node : SoftBusMessageNode) : Bool :=
  node.msg.handler = some r.handler && r.customFunc node.msg

/-- `LoopRemoveMessageCustom` up to the lock. -/
def remove (handler : SoftBusHandler) (customFunc : SoftBusMessage → Bool) : SoftBusLooper :=
  let meant := s.msgHead.filter (LoopRemoval.matches ⟨handler, customFunc, []⟩)
  { s with removing := s.removing ++ [⟨handler, customFunc, meant.map (·.msg.id)⟩] }

/-- The call number `i` of those that wait gets the lock, does its work and returns. -/
def removeLocked (i : Nat) : SoftBusLooper :=
  match s.removing[i]? with
  | none => s
  | some r =>
    let s := { s with removing := s.removing.eraseIdx i, removed := s.removed ++ r.meant }
    if !s.running || s.stop then s
    else { s with
      msgHead := s.msgHead.filter fun node => !LoopRemoval.matches r node
      log := s.log ++ ((s.msgHead.filter (LoopRemoval.matches r)).map (·.msg.id)).map .freed }

/-! ## The thread of the looper -/

def start : SoftBusLooper :=
  if s.destroyed then { s with thread := .stray }
  else { s with thread := .top, running := true, isThreadStarted := true }

/-- One turn of the loop up to the call of the handler. When there is nothing to do it waits
and comes round again. -/
def turn : SoftBusLooper :=
  if s.stop || s.isNeedDestroy then { s with thread := .leaving }
  else match s.msgHead with
    | [] => s
    | node :: rest =>
      if node.due ≤ s.clock.toInt then { s with msgHead := rest, thread := .taken node.msg } else s

/-- The call of `HandleMessage`; a message without one is freed. -/
def handle (msg : SoftBusMessage) : SoftBusLooper :=
  if msg.handler.any (·.handleMessage) then { s with thread := .handling msg, log := s.log ++ [.used msg.id] }
  else { s with thread := .top, log := s.log ++ [.freed msg.id] }

def finish (msg : SoftBusMessage) : SoftBusLooper :=
  { s with thread := .top, log := s.log ++ [.freed msg.id] }

def loopTask : SoftBusLooper :=
  match s.thread with
  | .notStarted => s.start
  | .top => s.turn
  | .taken msg => s.handle msg
  | .handling msg => s.finish msg
  | .leaving => { s with thread := .exited, running := false }
  | .exited => s
  | .stray => { s with thread := .strayHandling }
  | .strayHandling => { s with thread := .stray }

/-! ## The end -/

/-- `DestroyLooper` up to the loop in which it waits. -/
def destroyLooper : SoftBusLooper := { s with stop := true, destroying := s.destroying + 1 }

/-- `DestroyLooper` looks at `running`; when it is not set it frees the messages and the looper and returns. -/
def destroyLooperWake : SoftBusLooper :=
  if s.destroying = 0 || s.running then s
  else { s with
    destroying := s.destroying - 1
    destroyed := true
    msgHead := []
    log := s.log ++ (s.msgHead.map (·.msg.id)).map .freed }

/-- `LooperDeinit`, for this looper. -/
def looperDeinit : SoftBusLooper :=
  if !s.isThreadStarted then { s with isNeedDestroy := true } else s.destroyLooper

end

end SoftBusLooper

/-! ## Steps -/

inductive LooperEvent where
  | post (a : SoftBusLooper.PostArgs)
  | insert (id : Nat)
  | remove (handler : SoftBusHandler) (customFunc : SoftBusMessage → Bool)
  | removeLocked (i : Nat)
  | loopTask
  | advance (now : BitVec 64)
  | destroyLooper
  | destroyLooperWake
  | looperDeinit
  -- the thread of another looper sets `g_isThreadStarted`
  | otherStarted

namespace SoftBusLooper

def clientStep (s : SoftBusLooper) : LooperEvent → SoftBusLooper
  | .post a => s.post a
  | .insert id => s.insert id
  | .remove handler customFunc => s.remove handler customFunc
  | .removeLocked i => s.removeLocked i
  | .destroyLooper => s.destroyLooper
  | .destroyLooperWake => s.destroyLooperWake
  | .looperDeinit => s.looperDeinit
  | _ => s

def step (s : SoftBusLooper) (e : LooperEvent) : SoftBusLooper :=
  match e with
  | .loopTask => s.loopTask
  | .advance now => if s.clock.toInt ≤ now.toInt then { s with clock := now } else s
  | .otherStarted => { s with isThreadStarted := true }
  | e => if s.destroyed then s else s.clientStep e

def init : SoftBusLooper := {}

end SoftBusLooper

end SoftBus
