import SoftBus.Common
import SoftBus.Lib.Segments

/-!
# Messages over GATT

A message longer than the MTU goes out in segments, each with a header of four
numbers in network order. The receiver keeps the segments of one message in the
order of their offsets until it has as many bytes as the message is long.

The buffer has no flag for a message in progress: `seq ≠ 0` stands for it, and
0 is the first number a sender uses.
-/

namespace SoftBus

def maxDataLen : Nat := 40 * 1000

def mtuHeaderSize : Nat := 3

def bleTransHeaderSize : Nat := 16

structure BleTransHeader where
  seq : Nat
  size : Nat
  offset : Nat
  total : Nat
deriving DecidableEq, Repr

def packTransHeader (header : BleTransHeader) : List UInt8 :=
  Bytes.putBig 4 header.seq ++ (Bytes.putBig 4 header.size ++ (Bytes.putBig 4 header.offset ++ Bytes.putBig 4 header.total))

def unpackTransHeader (data : List UInt8) : Option BleTransHeader :=
  if data.length < bleTransHeaderSize then none
  else if (headerOf data).size ≠ data.length - bleTransHeaderSize ∨ (headerOf data).total > maxDataLen ∨
      (headerOf data).size > (headerOf data).total ∨
      (headerOf data).total - (headerOf data).size < (headerOf data).offset then none
  else some (headerOf data)
where
  headerOf (data : List UInt8) : BleTransHeader := {
    seq := Bytes.readBig 4 data
    size := Bytes.readBig 4 (data.drop 4)
    offset := Bytes.readBig 4 (data.drop 8)
    total := Bytes.readBig 4 (data.drop 12) }

/-! ## The receiver -/

structure ConnBlePacket where
  header : BleTransHeader
  data : List UInt8
deriving DecidableEq, Repr

def ConnBlePacket.payload (p : ConnBlePacket) : List UInt8 := (p.data.drop bleTransHeaderSize).take p.header.size

def ConnBlePacket.offset (p : ConnBlePacket) : Nat := p.header.offset

def ConnBlePacket.size (p : ConnBlePacket) : Nat := p.header.size

structure ConnBleReadBuffer where
  seq : Nat := 0
  received : Nat := 0
  total : Nat := 0
  packets : List ConnBlePacket := []
deriving DecidableEq, Repr

def discardBuffer (_ : ConnBleReadBuffer) : ConnBleReadBuffer := {}

structure GattMemory where
  packet : Bool := true
  value : Bool := true
deriving DecidableEq, Repr

def joinPackets (valueLen : Nat) : List ConnBlePacket → Nat → List UInt8 → Option (List UInt8)
  | [], _, value => some value
  | it :: packets, offset, value =>
    if it.header.offset ≠ offset then none
    else
      match memcpyS value offset (valueLen - offset) it.payload with
      | none => none
      | some value' => joinPackets valueLen packets ((offset + it.header.size) % 4294967296) value'

def recvWhole (mem : GattMemory) (header : BleTransHeader) (data : List UInt8) : Option (List UInt8) :=
  if mem.value then memcpyS (List.replicate header.total 0) 0 header.total (data.drop bleTransHeaderSize) else none

def bufferFor (buffer : ConnBleReadBuffer) (header : BleTransHeader) : ConnBleReadBuffer :=
  if buffer.seq ≠ 0 ∧ (buffer.seq ≠ header.seq ∨ buffer.total ≠ header.total) then discardBuffer buffer else buffer

def countPacket (buffer : ConnBleReadBuffer) (header : BleTransHeader) (packets : List ConnBlePacket) :
    ConnBleReadBuffer where
  seq := header.seq
  received := (buffer.received + header.size) % 4294967296
  total := header.total
  packets := packets

def recvCounted (mem : GattMemory) (buffer : ConnBleReadBuffer) : ConnBleReadBuffer × Option (List UInt8) :=
  if buffer.received < buffer.total then (buffer, none)
  else if buffer.received > buffer.total then (discardBuffer buffer, none)
  else if mem.value then
    (discardBuffer buffer, joinPackets buffer.total buffer.packets 0 (List.replicate buffer.total 0))
  else (discardBuffer buffer, none)

def recvSegment (mem : GattMemory) (buffer : ConnBleReadBuffer) (packet : ConnBlePacket) :
    ConnBleReadBuffer × Option (List UInt8) :=
  match Segments.insert ConnBlePacket.offset packet buffer.packets with
  | none => (buffer, none)
  | some packets =>
    if mem.packet then recvCounted mem (countPacket buffer packet.header packets)
    else (discardBuffer buffer, none)

/-- `ConnGattTransRecv`: the buffer it leaves and the value it returns, `outLen` bytes of it. -/
def connGattTransRecv (mem : GattMemory) (buffer : ConnBleReadBuffer) (data : List UInt8) :
    ConnBleReadBuffer × Option (List UInt8) :=
  match unpackTransHeader data with
  | none => (buffer, none)
  | some header =>
    if header.size = header.total then (buffer, recvWhole mem header data)
    else recvSegment mem (bufferFor buffer header) ⟨header, data⟩

/-! ## The sender -/

structure BleSendState where
  mtu : Nat
  sequence : Nat
deriving DecidableEq, Repr

/-- The loop of `ConnGattTransSend`: the segments handed to `ConnBleSend`. There is none where a
segment has no room for data. -/
def sendSegments (maxPayload sequence dataLen offset : Nat) (waitSendData : List UInt8) : List (List UInt8) :=
  if waitSendData = [] ∨ maxPayload = 0 then []
  else
    (packTransHeader ⟨sequence, min waitSendData.length maxPayload, offset, dataLen⟩ ++ waitSendData.take maxPayload) ::
      sendSegments maxPayload sequence dataLen (offset + min waitSendData.length maxPayload)
        (waitSendData.drop maxPayload)
termination_by waitSendData.length
decreasing_by
  rename_i h
  rw [not_or] at h
  have := List.length_pos_of_ne_nil h.1
  rw [List.length_drop]
  omega

def maxPayload (mtu : Nat) : Nat := (mtu + 4294967296 - mtuHeaderSize - bleTransHeaderSize) % 4294967296

/-- `ConnGattTransSend`: the segments, and the connection with the next sequence number. -/
def connGattTransSend (connection : BleSendState) (data : List UInt8) : List (List UInt8) × BleSendState :=
  (sendSegments (maxPayload connection.mtu) connection.sequence data.length 0 data,
    { connection with sequence := (connection.sequence + 1) % 4294967296 })

end SoftBus
