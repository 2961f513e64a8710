import SoftBus.Lib.PeerCount
import SoftBus.Lib.Run

/-!
# References on a BR connection

`softbus_conn_br_connection.c`: each peer counts the references of both, tells the
other about each of its own, and the peer that hears of a count of zero while its own
is zero disconnects.

The two peers are joined by two wires. A peer that disconnects closes the socket, so
nothing happens after that. The number of references a peer holds is a ghost field. The
counts do not overflow; sending and packing do not fail, and the looper takes every event:
what `ConnPostMsgToLooper` returns is not looked at.
-/

namespace SoftBus

open PeerCount

inductive BrConnectionState where
  | connecting
  | connected
  | exception
  | negotiationClosing
  | closing
  | closed
  | invalid
deriving DecidableEq, Repr

structure BrConnection where
  connectionRc : Int
  state : BrConnectionState
  -- Events `MSG_CONNECTION_WAIT_NEGOTIATION_CLOSING_TIMEOUT` of the looper.
  closingTimeouts : Nat
  -- Events `MSG_CONNECTION_RETRY_NOTIFY_REFERENCE` of the looper.
  retryNotifies : Nat
  held : Nat
deriving DecidableEq, Repr

inductive BrCtlMessage where
  | notifyRequest (delta referenceNumber : Int)
  | notifyResponse (referenceNumber : Int)
deriving DecidableEq, Repr

def BrCtlMessage.delta : BrCtlMessage → Int
  | .notifyRequest delta _ => delta
  | .notifyResponse _ => 0

def BrCtlMessage.high : BrCtlMessage → Bool
  | .notifyRequest delta _ => decide (delta ≥ 0)
  | .notifyResponse _ => true

def BrCtlMessage.isZero : BrCtlMessage → Bool
  | .notifyRequest _ referenceNumber => decide (referenceNumber ≤ 0)
  | .notifyResponse _ => false

section
variable (connection : BrConnection)

def connBrUpdateConnectionRc (delta : Int) : BrConnection × BrCtlMessage :=
  if connection.connectionRc + delta ≤ 0 then
    ({ connection with
      connectionRc := connection.connectionRc + delta
      state := .negotiationClosing
      closingTimeouts := connection.closingTimeouts + 1 }, .notifyRequest delta (connection.connectionRc + delta))
  else
    ({ connection with connectionRc := connection.connectionRc + delta },
      .notifyRequest delta (connection.connectionRc + delta))

def connBrDisconnectNow : BrConnection := { connection with state := .closed }

def brResume : BrConnection :=
  if connection.state = .negotiationClosing then { connection with closingTimeouts := 0, state := .connected }
  else connection

/-- `ConnBrOnReferenceRequest`, with the reply of `BrPostReplyMessage`. -/
def connBrOnReferenceRequest (delta peerRc : Int) : BrConnection × List BrCtlMessage :=
  if peerRc > 0 then
    if connection.connectionRc + delta = 0 then
      ({ connection with
        connectionRc := connection.connectionRc + delta
        retryNotifies := connection.retryNotifies + 1 }, [])
    else ({ connection with connectionRc := connection.connectionRc + delta }, [])
  else if connection.connectionRc + delta ≤ 0 then
    (connBrDisconnectNow { brResume { connection with connectionRc := connection.connectionRc + delta } with
      state := .closing }, [])
  else
    (brResume { connection with connectionRc := connection.connectionRc + delta },
      [.notifyResponse (connection.connectionRc + delta)])

def connBrOnReferenceResponse (peerRc : Int) : BrConnection :=
  if peerRc > 0 then brResume connection else connection

/-- `WaitNegotiationClosingTimeoutHandler` -/
def brWaitNegotiationClosingTimeout : BrConnection :=
  if connection.state = .negotiationClosing then connBrDisconnectNow connection else connection

end

/-! ## Two peers -/

abbrev BrPair := Link BrConnection BrCtlMessage

def BrPair.init : BrPair where
  conn
    | .client => ⟨1, .connected, 0, 0, 1⟩
    | .server => ⟨1, .connected, 0, 0, 0⟩
  wire _ := []

inductive BrEvent where
  | acquire (side : Side)
  | release (side : Side)
  | retryNotify (side : Side)
  | closingTimeout (side : Side)
  | deliver (side : Side) (overtake : Bool)
deriving DecidableEq, Repr

def BrPair.disconnected (s : BrPair) : Bool :=
  decide ((s.conn .client).state = .closed ∨ (s.conn .server).state = .closed)

def BrPair.references (s : BrPair) : Nat := (s.conn .client).held + (s.conn .server).held

def BrPair.update (s : BrPair) (side : Side) (connection : BrConnection) (delta : Int) : BrPair :=
  s.turn side (connBrUpdateConnectionRc connection delta).1 (s.wire side.peer)
    [(connBrUpdateConnectionRc connection delta).2]

def BrPair.receive (s : BrPair) (side : Side) (q : List BrCtlMessage) : BrCtlMessage → BrPair
  | .notifyRequest delta peerRc =>
    s.turn side (connBrOnReferenceRequest (s.conn side) delta peerRc).1 q
      (connBrOnReferenceRequest (s.conn side) delta peerRc).2
  | .notifyResponse peerRc => s.turn side (connBrOnReferenceResponse (s.conn side) peerRc) q []

def BrPair.step (s : BrPair) : BrEvent → BrPair
  | .acquire side =>
    if (s.conn side).state = .connected then
      s.update side { s.conn side with held := (s.conn side).held + 1 } 1
    else s
  | .release side =>
    if 0 < (s.conn side).held then s.update side { s.conn side with held := (s.conn side).held - 1 } (-1) else s
  | .retryNotify side =>
    if 0 < (s.conn side).retryNotifies then
      s.update side { s.conn side with retryNotifies := (s.conn side).retryNotifies - 1 } 0
    else s
  | .closingTimeout side =>
    -- assumed not to fire while a message is in flight
    if 0 < (s.conn side).closingTimeouts ∧ s.wire .client = [] ∧ s.wire .server = [] then
      s.turn side (brWaitNegotiationClosingTimeout
        { s.conn side with closingTimeouts := (s.conn side).closingTimeouts - 1 }) (s.wire side.peer) []
    else s
  | .deliver side overtake =>
    match take BrCtlMessage.high overtake (s.wire side.peer) with
    | none => s
    | some (m, q) => s.receive side q m

def BrPair.next (s : BrPair) (event : BrEvent) : BrPair := if s.disconnected then s else s.step event

end SoftBus
