import SoftBus.Lib.PeerCount
import SoftBus.Lib.Run

/-!
# References on a BLE connection

`softbus_conn_ble_connection.c`: as on a BR connection each peer counts the references
of both. An answer is a request with a delta of zero, and a count that a request of the
peer brings to zero is not announced.

The two peers are joined by two wires, and a peer that starts `ConnBleDisconnectNow` ends
the run. Data that is posted is sent at once, so `OnDisconnectedDataFinished` is part of
posting. The references a peer holds are a ghost field; challenge codes are left out. The
counts do not overflow, packing and sending do not fail, and the looper takes every event:
what `ConnPostMsgToLooper` returns is not looked at.
-/

namespace SoftBus

open PeerCount

inductive BleConnectionState where
  | exchangedBasicInfo
  | negotiationClosing
  | closing
deriving DecidableEq, Repr

structure BleConnection where
  connectionRc : Int
  state : BleConnectionState
  -- `BLE_FEATURE_SUPPORT_REMOTE_DISCONNECT` of `featureBitSet`
  remoteDisconnect : Bool
  -- Events `MSG_CONNECTION_WAIT_NEGOTIATION_CLOSING_TIMEOUT` of the looper.
  closingTimeouts : Nat
  held : Nat
deriving DecidableEq, Repr

/-- `CTRL_MSG_METHOD_NOTIFY_REQUEST` -/
structure BleReferenceRequest where
  delta : Int
  referenceNumber : Int
deriving DecidableEq, Repr

def BleReferenceRequest.high (m : BleReferenceRequest) : Bool := decide (m.delta ≥ 0)

def BleReferenceRequest.isZero (m : BleReferenceRequest) : Bool := decide (m.referenceNumber ≤ 0)

def connBleUpdateConnectionRc (connection : BleConnection) (delta : Int) :
    BleConnection × List BleReferenceRequest :=
  if connection.connectionRc + delta ≤ 0 then
    ({ connection with
      connectionRc := connection.connectionRc + delta
      state := .negotiationClosing
      closingTimeouts := connection.closingTimeouts + 1 },
      if connection.remoteDisconnect then [⟨delta, connection.connectionRc + delta⟩] else [])
  else
    ({ connection with connectionRc := connection.connectionRc + delta },
      [⟨delta, connection.connectionRc + delta⟩])

def connBleOnReferenceRequest (connection : BleConnection) (delta peerRc : Int) :
    BleConnection × List BleReferenceRequest :=
  if peerRc > 0 then
    if connection.state = .negotiationClosing then
      ({ connection with
        connectionRc := connection.connectionRc + delta
        closingTimeouts := 0
        state := .exchangedBasicInfo }, [])
    else ({ connection with connectionRc := connection.connectionRc + delta }, [])
  else if connection.connectionRc + delta ≤ 0 then
    ({ connection with connectionRc := connection.connectionRc + delta, state := .closing }, [])
  else
    ({ connection with connectionRc := connection.connectionRc + delta },
      [⟨0, connection.connectionRc + delta⟩])

/-- `WaitNegotiationClosingTimeoutHandler` -/
def bleWaitNegotiationClosingTimeout (connection : BleConnection) : BleConnection :=
  if connection.state = .negotiationClosing then { connection with state := .closing } else connection

/-! ## Two peers -/

abbrev BlePair := Link BleConnection BleReferenceRequest

/-- Both support the remote disconnect, and both counts are right. -/
def BlePair.init (client server : Nat) : BlePair where
  conn
    | .client => ⟨client + server, .exchangedBasicInfo, true, 0, client⟩
    | .server => ⟨client + server, .exchangedBasicInfo, true, 0, server⟩
  wire _ := []

inductive BleEvent where
  | acquire (side : Side)
  | release (side : Side)
  | closingTimeout (side : Side)
  | deliver (side : Side) (overtake : Bool)
deriving DecidableEq, Repr

/-- A peer has started `ConnBleDisconnectNow`. -/
def BlePair.disconnected (s : BlePair) : Bool :=
  decide ((s.conn .client).state = .closing ∨ (s.conn .server).state = .closing)

def BlePair.references (s : BlePair) : Nat := (s.conn .client).held + (s.conn .server).held

def BlePair.update (s : BlePair) (side : Side) (connection : BleConnection) (delta : Int) : BlePair :=
  s.turn side (connBleUpdateConnectionRc connection delta).1 (s.wire side.peer)
    (connBleUpdateConnectionRc connection delta).2

def BlePair.receive (s : BlePair) (side : Side) (q : List BleReferenceRequest) (m : BleReferenceRequest) : BlePair :=
  s.turn side (connBleOnReferenceRequest (s.conn side) m.delta m.referenceNumber).1 q
    (connBleOnReferenceRequest (s.conn side) m.delta m.referenceNumber).2

def BlePair.step (s : BlePair) : BleEvent → BlePair
  | .acquire side =>
    if (s.conn side).state = .exchangedBasicInfo then
      s.update side { s.conn side with held := (s.conn side).held + 1 } 1
    else s
  | .release side =>
    if 0 < (s.conn side).held then s.update side { s.conn side with held := (s.conn side).held - 1 } (-1) else s
  | .closingTimeout side =>
    -- assumed not to fire while a message is in flight
    if 0 < (s.conn side).closingTimeouts ∧ s.wire .client = [] ∧ s.wire .server = [] then
      s.turn side (bleWaitNegotiationClosingTimeout
        { s.conn side with closingTimeouts := (s.conn side).closingTimeouts - 1 }) (s.wire side.peer) []
    else s
  | .deliver side overtake =>
    match take BleReferenceRequest.high overtake (s.wire side.peer) with
    | none => s
    | some (m, q) => s.receive side q m

def BlePair.next (s : BlePair) (event : BleEvent) : BlePair := if s.disconnected then s else s.step event

end SoftBus
