import SoftBus.BrReference
import SoftBus.Common

/-!
# The BR connection manager

The looper of `softbus_conn_br_manager.c`: connect requests are gathered in devices, one
device at a time is being connected, the others wait.

The number of a request is the number of requests accepted before it; it stands for the
request object. The list of connections is changed by the threads of the connections
between two events, and a timer or another thread may pend an address. Locks and
allocations do not fail, and the messages a handler posts are events that may come at any time.
-/

namespace SoftBus

open PeerCount (Side)

inductive BrDeviceState where
  | init
  | waitEvent
  | pending
  | waitSchedule
  | scheduling
deriving DecidableEq, Repr

structure BrRequest where
  requestId : Nat
  number : Nat
deriving DecidableEq, Repr

structure BrDevice where
  addr : List UInt8
  state : BrDeviceState
  requests : List BrRequest
deriving DecidableEq, Repr

inductive BrUnderlayerResult where
  | connectionExists
  | controllerBusy
  | connSdpBusy
  | other
deriving DecidableEq, Repr

structure BrManaged where
  connectionId : Nat
  addr : List UInt8
  side : Side
  connection : BrConnection
  connectProcessStatus : List BrUnderlayerResult
deriving DecidableEq, Repr

inductive BrServerState where
  | available
  | connecting
deriving DecidableEq, Repr

inductive BrConnectResult where
  | onConnectSuccessed (connectionId : Nat)
  | onConnectFailed (reason : Int)
deriving DecidableEq, Repr

structure BrManager where
  connections : List BrManaged
  state : BrServerState
  waitings : List BrDevice
  pendings : List (List UInt8)
  connecting : Option BrDevice
  -- How many requests were accepted.
  accepted : Nat
  -- The callbacks that were called, with the numbers of their requests.
  answers : List (Nat × BrConnectResult)
  -- The requests that were freed before a callback of theirs was called.
  lost : List Nat

def BrManager.init : BrManager := ⟨[], .available, [], [], none, 0, [], []⟩

def softbusConnBrUnderlayConnectFail : Int := -425918443

def softbusConnBrConnectTimeoutErr : Int := -425918447

def softbusConnBluetoothOff : Int := -425918450

/-! ## Devices and connections -/

section
variable (m : BrManager)

def BrManager.answered : List Nat := m.answers.map Prod.fst

def BrDevice.numbers (device : BrDevice) : List Nat := device.requests.map BrRequest.number

def BrManager.freeDevice (device : BrDevice) : BrManager :=
  { m with lost := m.lost ++ device.numbers.filter (· ∉ m.answered) }

/-- `ConnBrGetConnectionByAddr`: the last one that fits. -/
def BrManager.getConnectionByAddr (addr : List UInt8) (side : Side) : Option BrManaged :=
  (m.connections.filter fun it => strCmpIgnoreCase it.addr addr && it.side == side).getLast?

def BrManager.getConnectionById (connectionId : Nat) : Option BrManaged :=
  m.connections.find? fun it => it.connectionId = connectionId

def BrManager.removeConnection (connectionId : Nat) : BrManager :=
  { m with connections := m.connections.eraseP fun it => it.connectionId = connectionId }

def BrManager.modifyConnection (connectionId : Nat) (f : BrConnection → BrConnection) : BrManager :=
  { m with connections := m.connections.map fun it =>
      if it.connectionId = connectionId then { it with connection := f it.connection } else it }

/-- `ConnBrUpdateConnectionRc`, with the peer told. -/
def brUpdateRc (delta : Int) (connection : BrConnection) : BrConnection :=
  (connBrUpdateConnectionRc connection delta).1

def BrManager.answer (device : BrDevice) (result : BrConnectResult) : BrManager :=
  { m with answers := m.answers ++ device.numbers.map fun number => (number, result) }

/-- `NotifyDeviceConnectResult` without a connection. -/
def BrManager.notifyFailed (device : BrDevice) (reason : Int) : BrManager :=
  m.answer device (.onConnectFailed reason)

/-- `NotifyDeviceConnectResult` with a connection: each request, or each but the first, is a
new reference. -/
def BrManager.notifySuccessed (device : BrDevice) (connectionId : Nat) (isReuse : Bool) : BrManager :=
  (m.modifyConnection connectionId
    (Nat.iterate (brUpdateRc 1) (device.requests.length - if isReuse then 0 else 1))).answer device
      (.onConnectSuccessed connectionId)

/-- `BrReuseConnection`; `none` if it returns false. -/
def BrManager.reuseConnection (device : BrDevice) (connectionId : Nat) : Option BrManager :=
  match m.getConnectionById connectionId with
  | none => none
  | some it =>
    if it.connection.state ≠ .connected then none else some (m.notifySuccessed device connectionId true)

/-! ## Waiting devices -/

def BrDevice.merge (target device : BrDevice) : BrDevice :=
  { target with requests := device.requests.reverse ++ target.requests }

def addWaiting (device : BrDevice) : List BrDevice → List BrDevice
  | [] => [device]
  | it :: l => if strCmpIgnoreCase it.addr device.addr then it.merge device :: l else it :: addWaiting device l

def BrManager.pendingDevice (device : BrDevice) : BrManager :=
  match m.connecting with
  | none => { m with waitings := addWaiting device m.waitings }
  | some connecting =>
    if strCmpIgnoreCase connecting.addr device.addr then { m with connecting := some (connecting.merge device) }
    else { m with waitings := addWaiting device m.waitings }

def BrManager.checkPending (addr : List UInt8) : Bool :=
  m.pendings.any fun it => strCmpIgnoreCase it addr

def BrManager.pendConnection (addr : List UInt8) : BrManager :=
  if m.checkPending addr then m else { m with pendings := addr :: m.pendings }

def scheduleWaiting (addr : List UInt8) : List BrDevice → List BrDevice
  | [] => []
  | it :: l =>
    if strCmpIgnoreCase it.addr addr then { it with state := .waitSchedule } :: l
    else it :: scheduleWaiting addr l

def BrManager.unpendConnection (addr : List UInt8) : BrManager :=
  if m.checkPending addr then
    { m with
      pendings := m.pendings.eraseP fun it => strCmpIgnoreCase it addr
      waitings := scheduleWaiting addr m.waitings }
  else m

structure BrEnv where
  -- There is a BLE connection with the same address.
  bleSameAddress : Bool
  -- The status of `ConnBrSaveConnection` and `ConnBrConnect`; `SOFTBUS_OK` is 0.
  status : Int
  connectionId : Nat
deriving DecidableEq, Repr

/-- `ConnectDeviceDirectly`; `none` is `SOFTBUS_OK`. -/
def BrManager.connectDeviceDirectly (env : BrEnv) (m : BrManager) (device : BrDevice) : BrManager × Option Int :=
  if env.status ≠ 0 then (m, some env.status)
  else
    ({ m with
      connections := ⟨env.connectionId, device.addr, .client, ⟨1, .connecting, 0, 0, 1⟩, []⟩ :: m.connections
      connecting := some device
      state := .connecting }, none)

def BrManager.attempReuseConnect (env : BrEnv) (m : BrManager) (device : BrDevice)
    (actionIfAbsent : BrManager → BrDevice → BrManager × Option Int) : BrManager :=
  match m.getConnectionByAddr device.addr .client, m.getConnectionByAddr device.addr .server with
  | none, none =>
    if (pended env m device).checkPending device.addr then
      (pended env m device).pendingDevice { device with state := .pending }
    else
      match actionIfAbsent (pended env m device) { device with state := .waitSchedule } with
      | (m', none) => m'
      | (m', some status) => (m'.notifyFailed device status).freeDevice device
  | client, server =>
    match client.bind fun it => m.reuseConnection device it.connectionId with
    | some m' => m'.freeDevice device
    | none =>
      match server.bind fun it => m.reuseConnection device it.connectionId with
      | some m' => m'.freeDevice device
      | none => m.pendingDevice { device with state := .waitEvent }
where
  pended (env : BrEnv) (m : BrManager) (device : BrDevice) : BrManager :=
    if env.bleSameAddress then m.pendConnection device.addr else m

/-! ## Handlers -/

/-- `ConnectRequestOnAvailableState` and `ConnectRequestOnConnectingState` -/
def BrManager.connectRequest (requestId : Nat) (addr : List UInt8) (env : BrEnv) : BrManager :=
  match m.state with
  | .available => { m with accepted := m.accepted + 1 }.pendingDevice ⟨addr, .waitSchedule, [⟨requestId, m.accepted⟩]⟩
  | .connecting =>
    { m with accepted := m.accepted + 1 }.attempReuseConnect env ⟨addr, .init, [⟨requestId, m.accepted⟩]⟩
      fun m device => (m.pendingDevice device, none)

def BrManager.handlePendingRequest (env : BrEnv) : BrManager :=
  match m.state with
  | .connecting => m
  | .available =>
    match m.waitings.find? fun it => it.state = .waitSchedule with
    | none => m
    | some target =>
      { m with waitings := m.waitings.erase target }.attempReuseConnect env target (connectDeviceDirectly env)

def reuseWaitings (connectionId : Nat) (addr : List UInt8) : List BrDevice → BrManager → BrManager × List BrDevice
  | [], m => (m, [])
  | it :: l, m =>
    match if strCmpIgnoreCase it.addr addr then m.reuseConnection it connectionId else none with
    | some m' => reuseWaitings connectionId addr l (m'.freeDevice it)
    | none => ((reuseWaitings connectionId addr l m).1, it :: (reuseWaitings connectionId addr l m).2)

def BrManager.reuseAll (connectionId : Nat) (addr : List UInt8) : BrManager :=
  { (reuseWaitings connectionId addr m.waitings m).1 with
    waitings := (reuseWaitings connectionId addr m.waitings m).2 }

def BrManager.isConnecting (addr : List UInt8) : Bool :=
  m.connecting.any fun device => strCmpIgnoreCase device.addr addr

def BrManager.serverAccepted (connectionId : Nat) : BrManager :=
  match m.getConnectionById connectionId with
  | none => m
  | some connection =>
    if (m.unpendConnection connection.addr).isConnecting connection.addr then m.unpendConnection connection.addr
    else (m.unpendConnection connection.addr).reuseAll connectionId connection.addr

def BrManager.finish : BrManager := { m with connecting := none, state := .available }

def BrManager.clientConnected (connectionId : Nat) : BrManager :=
  match m.getConnectionById connectionId, m.connecting with
  | none, _ => m
  | some _, none => m.modifyConnection connectionId (brUpdateRc (-1))
  | some connection, some device =>
    if strCmpIgnoreCase device.addr connection.addr then
      ((m.notifySuccessed device connectionId false).freeDevice device).finish
    else m.modifyConnection connectionId (brUpdateRc (-1))

def BrManaged.collision (connection : BrManaged) : Bool :=
  connection.connectProcessStatus.any fun result =>
    result == .connectionExists || result == .controllerBusy || result == .connSdpBusy

def BrManager.processAclCollisionException (device : BrDevice) : BrManager :=
  (m.pendConnection device.addr).pendingDevice { device with state := .pending }

/-- The choices of `ClientConnectFailed` for the device that was being connected. -/
def BrManager.connectFailed (connection : BrManaged) (device : BrDevice) (error : Int) : BrManager :=
  match (m.getConnectionByAddr connection.addr .server).bind fun it => m.reuseConnection device it.connectionId with
  | some m' => (m'.removeConnection connection.connectionId).freeDevice device
  | none =>
    if error = softbusConnBrUnderlayConnectFail ∧ connection.collision = true then
      -- `connecting` is cleared first, so the device does not find itself
      ({ m with connecting := none }.processAclCollisionException device).removeConnection connection.connectionId
    else ((m.notifyFailed device error).removeConnection connection.connectionId).freeDevice device

def BrManager.clientConnectFailed (connectionId : Nat) (error : Int) : BrManager :=
  match m.getConnectionById connectionId with
  | none => m
  | some connection =>
    match m.connecting with
    | none => (m.modifyConnection connectionId connBrDisconnectNow).removeConnection connectionId
    | some device =>
      if strCmpIgnoreCase device.addr connection.addr then
        ((m.modifyConnection connectionId connBrDisconnectNow).connectFailed connection device error).finish
      else (m.modifyConnection connectionId connBrDisconnectNow).removeConnection connectionId

def BrManager.clientConnectTimeout (connectionId : Nat) (address : List UInt8) : BrManager :=
  match m.state with
  | .available => m
  | .connecting =>
    match m.connecting with
    | none => m.removeConnection connectionId
    | some device =>
      if strCmpIgnoreCase device.addr address then
        ((((m.removeConnection connectionId).notifyFailed device softbusConnBrConnectTimeoutErr).freeDevice
          device).finish)
      else m.removeConnection connectionId

def BrManager.connectionException (connectionId : Nat) : BrManager :=
  match m.getConnectionById connectionId with
  | none => m
  | some connection =>
    { m with waitings := scheduleWaiting connection.addr m.waitings }.removeConnection connectionId

def BrManager.connectionResume (connectionId : Nat) : BrManager :=
  match m.getConnectionById connectionId with
  | none => m
  | some connection => m.reuseAll connectionId connection.addr

def BrManager.resetDevices : List BrDevice → BrManager → BrManager
  | [], m => m
  | device :: l, m => resetDevices l ((m.notifyFailed device softbusConnBluetoothOff).freeDevice device)

def BrManager.reset : BrManager :=
  { resetDevices (m.connecting.toList ++ m.waitings) m with
    connecting := none
    waitings := []
    pendings := []
    connections := m.connections.map fun it => { it with connection := connBrDisconnectNow it.connection }
    state := .available }

/-! ## Events -/

inductive BrManagerEvent where
  | connectRequest (requestId : Nat) (addr : List UInt8) (env : BrEnv)
  | nextCmd (env : BrEnv)
  | serverAccepted (connectionId : Nat)
  | clientConnected (connectionId : Nat)
  | clientConnectFailed (connectionId : Nat) (error : Int)
  | clientConnectTimeout (connectionId : Nat) (address : List UInt8)
  | connectionException (connectionId : Nat)
  | connectionResume (connectionId : Nat)
  | disconnectRequest (connectionId : Nat)
  | unpend (addr : List UInt8)
  | reset
  -- `BrPendConnection` is called from outside.
  | pend (addr : List UInt8)
  -- The threads of the connections change them.
  | connections (connections : List BrManaged)

/-- `BrManagerMsgHandler`, and what happens outside of the looper. -/
def BrManager.next : BrManagerEvent → BrManager
  | .connectRequest requestId addr env => m.connectRequest requestId addr env
  | .nextCmd env => m.handlePendingRequest env
  | .serverAccepted connectionId => m.serverAccepted connectionId
  | .clientConnected connectionId => m.clientConnected connectionId
  | .clientConnectFailed connectionId error => m.clientConnectFailed connectionId error
  | .clientConnectTimeout connectionId address => m.clientConnectTimeout connectionId address
  | .connectionException connectionId => m.connectionException connectionId
  | .connectionResume connectionId => m.connectionResume connectionId
  | .disconnectRequest connectionId => m.modifyConnection connectionId (brUpdateRc (-1))
  | .unpend addr => m.unpendConnection addr
  | .reset => m.reset
  | .pend addr => m.pendConnection addr
  | .connections connections => { m with connections := connections }

end

end SoftBus
