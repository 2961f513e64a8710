import SoftBus.Lib.FirstMatch
import SoftBus.Lib.Run

/-!
# The acknowledgement window of BR connections

`SendHandlerLoop` of `softbus_conn_br_trans.c` asks the peer for an acknowledgement at every multiple of the window
of a connection, and waits for it before the next multiple. The packets that wait are in the list of
`softbus_conn_br_pending_packet.c`, which all connections share.

A step is one turn of the loop, or an acknowledgement that comes in. Turns that find no connection or no socket
change nothing and are left out. The lock of a connection can be taken; what else may fail comes with the step.
Counters do not overflow.
-/

namespace SoftBus

def minWindow : Nat := 10
def maxWindow : Nat := 80
def defaultWindow : Nat := 20
def ackFailedTimes : Nat := 3
def timeoutTimes : Nat := 2

/-! ## Pending packets -/

structure BrPendingPacket where
  id : Nat
  seq : Nat
  finded : Bool := false
deriving DecidableEq, Repr

def isBrPacket (id seq : Nat) (pending : BrPendingPacket) : Bool := pending.id = id && pending.seq = seq

inductive BrPendingRet where
  | ok
  | alreadyTriggered
  | timout
  | notFind
  | lockErr
  | err
deriving DecidableEq, Repr

/-- `none` for a packet that was not created. `able`: the lock and the memory are there. -/
def connBrCreateBrPendingPacket (able : Bool) (id seq : Nat) (pendingList : List BrPendingPacket) :
    Option (List BrPendingPacket) :=
  if pendingList.any (isBrPacket id seq) || !able then none else some (pendingList ++ [⟨id, seq, false⟩])

def connBrDelBrPendingPacket (locked : Bool) (id seq : Nat) (pendingList : List BrPendingPacket) :
    List BrPendingPacket :=
  if locked then pendingList.eraseP (isBrPacket id seq) else pendingList

structure GetPendingEnv where
  -- the lock of the list can be taken
  locked : Bool
  -- the lock of the packet can be taken
  itemLocked : Bool
  -- the packet is set while the call waits for it
  signalled : Bool
deriving DecidableEq, Repr

def connBrGetBrPendingPacket (env : GetPendingEnv) (id seq : Nat) (pendingList : List BrPendingPacket) :
    BrPendingRet × List BrPendingPacket :=
  if !env.locked then (.err, pendingList)
  else
    match pendingList.reverse.find? (isBrPacket id seq) with
    | none => (.notFind, pendingList)
    | some pending =>
      let ret : BrPendingRet :=
        if !env.itemLocked then .lockErr
        else if pending.finded then .alreadyTriggered
        else if env.signalled then .ok
        else .timout
      (ret, (pendingList.reverse.eraseP (isBrPacket id seq)).reverse)

def connBrSetBrPendingPacket (id seq : Nat) : List BrPendingPacket → List BrPendingPacket
  | [] => []
  | item :: pendingList =>
    if isBrPacket id seq item then { item with finded := true } :: pendingList
    else item :: connBrSetBrPendingPacket id seq pendingList

/-! ## The loop -/

structure BrAckConnection where
  window : Nat := defaultWindow
  sequence : Nat := 0
  waitSequence : Nat := 0
  ackTimeoutCount : Nat := 0
deriving DecidableEq, Repr

structure SendAckEnv where
  -- `ConnBrPackCtlMessage` makes a message
  packed : Bool
  -- the packet can be created
  able : Bool
  -- `BrTransSend` sends the request
  sent : Bool
  -- the list can be locked to take the packet out again
  delLocked : Bool
deriving DecidableEq, Repr

inductive AckNote where
  -- a packet is created, and its request is sent or the packet is taken out again
  | created (seq : Nat) (sent : Bool)
  -- `WaitAck` waits for the packet
  | waited (seq : Nat)
deriving DecidableEq, Repr

structure AckTurn where
  connection : BrAckConnection
  pendingList : List BrPendingPacket
  notes : List AckNote := []
deriving DecidableEq, Repr

/-- `SendAckUnsafe` with the assignment of `waitSequence` after it. -/
def sendAckUnsafe (env : SendAckEnv) (id : Nat) (connection : BrAckConnection) (pendingList : List BrPendingPacket) :
    AckTurn :=
  if !env.packed then ⟨connection, pendingList, []⟩
  else
    match connBrCreateBrPendingPacket env.able id connection.sequence pendingList with
    | none => ⟨connection, pendingList, []⟩
    | some created =>
      if env.sent then
        ⟨{ connection with waitSequence := connection.sequence }, created, [.created connection.sequence true]⟩
      else
        ⟨connection, connBrDelBrPendingPacket env.delLocked id connection.sequence created,
          [.created connection.sequence false]⟩

def BrAckConnection.answered (connection : BrAckConnection) : BrPendingRet → BrAckConnection
  | .alreadyTriggered =>
    { connection with
      ackTimeoutCount := 0
      window := if connection.window < maxWindow then connection.window + 1 else maxWindow }
  | .timout =>
    let count := connection.ackTimeoutCount + 1
    let window :=
      if minWindow < connection.window ∧ count % timeoutTimes = 0 then connection.window - 1 else connection.window
    { connection with
      ackTimeoutCount := count
      window := if window < defaultWindow ∧ ackFailedTimes < count then defaultWindow else window }
  | _ => { connection with ackTimeoutCount := 0 }

def waitAck (env : GetPendingEnv) (id : Nat) (connection : BrAckConnection) (pendingList : List BrPendingPacket) :
    AckTurn :=
  let out := connBrGetBrPendingPacket env id connection.waitSequence pendingList
  ⟨{ connection.answered out.1 with waitSequence := 0 }, out.2, [.waited connection.waitSequence]⟩

def sendHandlerTurn (ack : SendAckEnv) (get : GetPendingEnv) (id : Nat) (connection : BrAckConnection)
    (pendingList : List BrPendingPacket) : AckTurn :=
  let connection := { connection with sequence := connection.sequence + 1 }
  let out :=
    if connection.sequence % connection.window = 0 then sendAckUnsafe ack id connection pendingList
    else ⟨connection, pendingList, []⟩
  if 1 < out.connection.window ∧ out.connection.sequence % out.connection.window = out.connection.window - 1 ∧
      out.connection.waitSequence ≠ 0 then
    let waited := waitAck get id out.connection out.pendingList
    { waited with notes := out.notes ++ waited.notes }
  else out

structure BrSender where
  connections : Nat → BrAckConnection := fun _ => {}
  pendingList : List BrPendingPacket := []

inductive BrSendEvent where
  | message (id : Nat) (ack : SendAckEnv) (get : GetPendingEnv)
  -- `ConnBrOnAckResponse`
  | ackResponse (id seq : Nat)
deriving DecidableEq, Repr

namespace BrSender

def step (s : BrSender) : BrSendEvent → BrSender
  | .message id ack get =>
    let out := sendHandlerTurn ack get id (s.connections id) s.pendingList
    { connections := Function.update s.connections id out.connection, pendingList := out.pendingList }
  | .ackResponse id seq => { s with pendingList := connBrSetBrPendingPacket id seq s.pendingList }

/-- What a step notes for the connection `id`. -/
def notes (id : Nat) (s : BrSender) : BrSendEvent → List AckNote
  | .message id' ack get => if id' = id then (sendHandlerTurn ack get id (s.connections id) s.pendingList).notes else []
  | .ackResponse _ _ => []

def packetsOf (id : Nat) (pendingList : List BrPendingPacket) : List Nat :=
  (pendingList.filter (·.id = id)).map (·.seq)

end BrSender

/-! ## The list -/

section
variable {id id' seq : Nat} {pendingList : List BrPendingPacket}

def BrPendingPacket.key (pending : BrPendingPacket) : Nat × Nat := (pending.id, pending.seq)

theorem isBrPacket_iff (pending : BrPendingPacket) : isBrPacket id seq pending = true ↔ pending.key = (id, seq) := by
  simp [isBrPacket, BrPendingPacket.key]

open BrSender (packetsOf)

theorem mem_packetsOf : seq ∈ packetsOf id pendingList ↔ ∃ pending ∈ pendingList, pending.key = (id, seq) := by
  simp [packetsOf, BrPendingPacket.key, and_assoc]

def withoutPacket (id seq : Nat) (pendingList : List BrPendingPacket) : List BrPendingPacket :=
  pendingList.filter fun pending => !isBrPacket id seq pending

theorem mem_packetsOf_withoutPacket {seq' : Nat} :
    seq' ∈ packetsOf id' (withoutPacket id seq pendingList) ↔
      seq' ∈ packetsOf id' pendingList ∧ ¬ (id' = id ∧ seq' = seq) := by
  simp only [mem_packetsOf, withoutPacket, List.mem_filter, Bool.not_eq_true', ← Bool.not_eq_true, isBrPacket_iff]
  constructor
  · rintro ⟨pending, ⟨hmem, hne⟩, hkey⟩
    exact ⟨⟨pending, hmem, hkey⟩, fun heq => hne (by rw [hkey, heq.1, heq.2])⟩
  · rintro ⟨⟨pending, hmem, hkey⟩, hne⟩
    refine ⟨pending, ⟨hmem, fun heq => hne ?_⟩, hkey⟩
    rw [hkey] at heq
    exact Prod.mk.inj heq

def Distinct (pendingList : List BrPendingPacket) : Prop := (pendingList.map BrPendingPacket.key).Nodup

theorem Distinct.withoutPacket (h : Distinct pendingList) : Distinct (withoutPacket id seq pendingList) :=
  h.sublist ((List.filter_sublist).map _)

theorem Distinct.eraseP (h : Distinct pendingList) :
    pendingList.eraseP (isBrPacket id seq) = SoftBus.withoutPacket id seq pendingList :=
  FirstMatch.eraseP_eq_filter isBrPacket_iff h

theorem Distinct.eraseP_reverse (h : Distinct pendingList) :
    (pendingList.reverse.eraseP (isBrPacket id seq)).reverse = SoftBus.withoutPacket id seq pendingList := by
  have hrev : Distinct pendingList.reverse := by
    rw [Distinct, List.map_reverse]
    exact List.nodup_reverse.mpr h
  rw [hrev.eraseP, SoftBus.withoutPacket, List.filter_reverse, List.reverse_reverse]
  rfl

theorem Distinct.create (h : Distinct pendingList) (hnew : seq ∉ packetsOf id pendingList) :
    Distinct (pendingList ++ [⟨id, seq, false⟩]) := by
  rw [Distinct, List.map_append, List.nodup_append]
  refine ⟨h, List.nodup_singleton _, ?_⟩
  rintro key hkey key' hkey' rfl
  rw [List.map_singleton, List.mem_singleton] at hkey'
  obtain ⟨pending, hmem, rfl⟩ := List.mem_map.mp hkey
  exact hnew (mem_packetsOf.mpr ⟨pending, hmem, hkey'⟩)

theorem mem_packetsOf_create {seq' : Nat} :
    seq' ∈ packetsOf id' (pendingList ++ [⟨id, seq, false⟩]) ↔
      seq' ∈ packetsOf id' pendingList ∨ (id' = id ∧ seq' = seq) := by
  simp only [mem_packetsOf, List.mem_append, List.mem_singleton, or_and_right, exists_or, exists_eq_left,
    BrPendingPacket.key, Prod.mk.injEq]
  rw [eq_comm (a := id), eq_comm (a := seq)]

theorem map_key_set : ∀ pendingList : List BrPendingPacket,
    (connBrSetBrPendingPacket id seq pendingList).map BrPendingPacket.key = pendingList.map BrPendingPacket.key
  | [] => rfl
  | item :: pendingList => by
    rw [connBrSetBrPendingPacket]
    split
    · rfl
    · rw [List.map_cons, List.map_cons, map_key_set pendingList]

theorem mem_packetsOf_set {id₀ seq₀ : Nat} :
    seq ∈ packetsOf id (connBrSetBrPendingPacket id₀ seq₀ pendingList) ↔ seq ∈ packetsOf id pendingList := by
  rw [mem_packetsOf, mem_packetsOf, ← List.mem_map, ← List.mem_map, map_key_set]

theorem Distinct.get (h : Distinct pendingList) (env : GetPendingEnv) (id seq : Nat) :
    (connBrGetBrPendingPacket env id seq pendingList).2 =
      if env.locked then SoftBus.withoutPacket id seq pendingList else pendingList := by
  unfold connBrGetBrPendingPacket
  cases env.locked with
  | false => rfl
  | true =>
    simp only [Bool.not_true, Bool.false_eq_true, if_false, if_true]
    split
    · rename_i hnone
      rw [List.find?_eq_none] at hnone
      refine (List.filter_eq_self.mpr fun pending hmem => ?_).symm
      simpa using hnone pending (List.mem_reverse.mpr hmem)
    · exact h.eraseP_reverse

end

end SoftBus
