import SoftBus.Common

/-!
# Frames on BR and COC connections

`ConnBrTransReadOneFrame` of `softbus_conn_br_trans.c` and `ConnCocTransRecv` of
`softbus_conn_ble_trans.c` cut the bytes of a connection into frames, with the heads of
`softbus_datahead_transform.c`. A buffer holds the bytes below its length.
-/

namespace SoftBus

open Bytes

/-! ## Heads -/

inductive ByteOrder where
  | littleEndian
  | bigEndian
deriving DecidableEq, Repr

/-- `ProcByteOrder`; `ShiftByte` turns the bytes round. -/
def procByteOrder : ByteOrder → List UInt8 → List UInt8
  | .littleEndian, value => value
  | .bigEndian, value => value.reverse

def ByteOrder.load : ByteOrder → List UInt8 → Nat
  | .littleEndian, value => get value
  | .bigEndian, value => get value.reverse

def ByteOrder.store : ByteOrder → (k n : Nat) → List UInt8
  | .littleEndian, k, n => put k n
  | .bigEndian, k, n => putBig k n

structure ConnPktHead where
  magic : BitVec 32
  module : BitVec 32
  seq : BitVec 64
  flag : BitVec 32
  len : BitVec 32
deriving DecidableEq, Repr

/-- `sizeof(ConnPktHead)` -/
def connPktHeadSize : Nat := 24

/-- `MAGIC_NUMBER` -/
def connMagicNumber : BitVec 32 := 0xBABEFACE

namespace ConnPktHead

def store (host : ByteOrder) (head : ConnPktHead) : List UInt8 :=
  host.store 4 head.magic.toNat ++ (host.store 4 head.module.toNat ++ (host.store 8 head.seq.toNat ++
    (host.store 4 head.flag.toNat ++ host.store 4 head.len.toNat)))

def load (host : ByteOrder) (memory : List UInt8) : ConnPktHead where
  magic := BitVec.ofNat 32 (host.load (memory.take 4))
  module := BitVec.ofNat 32 (host.load ((memory.drop 4).take 4))
  seq := BitVec.ofNat 64 (host.load ((memory.drop 8).take 8))
  flag := BitVec.ofNat 32 (host.load ((memory.drop 16).take 4))
  len := BitVec.ofNat 32 (host.load ((memory.drop 20).take 4))

end ConnPktHead

def convertConnPktHead (host : ByteOrder) (memory : List UInt8) : List UInt8 :=
  procByteOrder host (memory.take 4) ++ (procByteOrder host ((memory.drop 4).take 4) ++
    (procByteOrder host ((memory.drop 8).take 8) ++ (procByteOrder host ((memory.drop 16).take 4) ++
      (procByteOrder host ((memory.drop 20).take 4) ++ memory.drop 24))))

def packConnPktHead (host : ByteOrder) : List UInt8 → List UInt8 := convertConnPktHead host

def unpackConnPktHead (host : ByteOrder) : List UInt8 → List UInt8 := convertConnPktHead host

/-! ## One packet out of the buffer -/

structure LimitedBuffer where
  capacity : Nat
  data : List UInt8
deriving DecidableEq, Repr

/-- Sizes that `SoftBusCalloc` grants: `memset_s` refuses 0. -/
def Callocable (size : Nat) : Prop := 0 < size ∧ size ≤ maxMallocSize

instance (size : Nat) : Decidable (Callocable size) := inferInstanceAs (Decidable (_ ∧ _))

def connNewLimitedBuffer (capacity : Nat) : Option LimitedBuffer :=
  if Callocable capacity then some ⟨capacity, []⟩ else none

/-- The first two are `NULL`. `discard` has set the length of the buffer to 0. -/
inductive ParseResult where
  | wait
  | discard
  | packet (data : List UInt8)
deriving DecidableEq, Repr

/-- `BrRecvDataParse` and `ConnCocTransRecv` differ only in what they log. `mem` tells whether `SoftBusCalloc` has
memory for the copy of a packet. -/
def recvDataParse (host : ByteOrder) (mem : Bool) (buffer : LimitedBuffer) : ParseResult × LimitedBuffer :=
  if buffer.data.length < connPktHeadSize then (.wait, buffer)
  else
    -- the head stays converted in the buffer when the packet is not complete
    let data := unpackConnPktHead host buffer.data
    let head := ConnPktHead.load host data
    if head.magic ≠ connMagicNumber then (.discard, { buffer with data := [] })
    else if wrapSub 32 buffer.capacity connPktHeadSize < head.len.toNat then (.discard, { buffer with data := [] })
    else
      let packLen := (head.len.toNat + connPktHeadSize) % 2 ^ 32
      if data.length < packLen then (.wait, { buffer with data })
      else if ¬ (mem = true ∧ Callocable packLen) then (.wait, { buffer with data })
      else (.packet (data.take packLen), { buffer with data := data.drop packLen })

def brRecvDataParse : ByteOrder → Bool → LimitedBuffer → ParseResult × LimitedBuffer := recvDataParse

def connCocTransRecv : ByteOrder → Bool → LimitedBuffer → ParseResult × LimitedBuffer := recvDataParse

/-! ## Reading from a BR socket -/

/-- What a call of `Read` of the driver returns. No bytes are `BR_READ_SOCKET_CLOSED`. -/
inductive SppRead where
  | failed
  | bytes (data : List UInt8)
deriving DecidableEq, Repr

/-- What is seen of a call of `ConnBrTransReadOneFrame` from below: bytes that are thrown away, and the sizes of
the calls of `Read` with their answers, none for a call that has not come back. -/
inductive ReadNote where
  | discard (length : Nat)
  | request (size : Int) (answer : Option SppRead)
deriving DecidableEq, Repr

inductive ReadStatus where
  | frame (data : List UInt8)
  | underlaySocketClosed
  | underlayReadFail
  | blocked
deriving DecidableEq, Repr

structure ReadOut where
  status : ReadStatus
  buffer : LimitedBuffer
  -- the answers and the outcomes of allocations that are left
  reads : List SppRead
  mem : List Bool
  notes : List ReadNote
deriving DecidableEq, Repr

def ReadOut.after (notes : List ReadNote) (out : ReadOut) : ReadOut := { out with notes := notes ++ out.notes }

def ParseResult.notes (buffer : LimitedBuffer) : ParseResult → List ReadNote
  | .discard => [.discard buffer.data.length]
  | _ => []

def LimitedBuffer.readSize (buffer : LimitedBuffer) : Int :=
  Word.int32 (wrapSub 32 buffer.capacity buffer.data.length)

def LimitedBuffer.fill (buffer : LimitedBuffer) (data : List UInt8) : LimitedBuffer :=
  { buffer with data := buffer.data ++ data }

/-- `mem` has an outcome for every call of `BrRecvDataParse`; behind its end there is memory. -/
def connBrTransReadOneFrame (host : ByteOrder) (mem : List Bool) (buffer : LimitedBuffer) (reads : List SppRead) : ReadOut :=
  match brRecvDataParse host (mem.headD true) buffer with
  | (.packet data, rest) => ⟨.frame data, rest, reads, mem.tail, []⟩
  | (result, rest) =>
    match reads with
    | [] => ⟨.blocked, rest, [], mem.tail, result.notes buffer ++ [.request rest.readSize none]⟩
    | .failed :: reads =>
      ⟨.underlayReadFail, rest, reads, mem.tail, result.notes buffer ++ [.request rest.readSize (some .failed)]⟩
    | .bytes [] :: reads =>
      ⟨.underlaySocketClosed, rest, reads, mem.tail, result.notes buffer ++ [.request rest.readSize (some (.bytes []))]⟩
    | .bytes (b :: data) :: reads =>
      (connBrTransReadOneFrame host mem.tail (rest.fill (b :: data)) reads).after
        (result.notes buffer ++ [.request rest.readSize (some (.bytes (b :: data)))])

structure LoopOut where
  frames : List (List UInt8)
  last : ReadOut
deriving DecidableEq, Repr

/-- `LoopRead`, up to so many calls. The frames go to `onDataReceived`. -/
def loopRead (host : ByteOrder) : (calls : Nat) → List Bool → LimitedBuffer → List SppRead → LoopOut
  | 0, mem, buffer, reads => ⟨[], ⟨.blocked, buffer, reads, mem, []⟩⟩
  | calls + 1, mem, buffer, reads =>
    let out := connBrTransReadOneFrame host mem buffer reads
    match out.status with
    | .frame data =>
      let rest := loopRead host calls out.mem out.buffer out.reads
      ⟨data :: rest.frames, rest.last.after out.notes⟩
    | _ => ⟨[], out⟩

/-! ## Feeding a COC buffer -/

@[simp] theorem length_procByteOrder (host : ByteOrder) (value : List UInt8) :
    (procByteOrder host value).length = value.length := by
  cases host <;> simp [procByteOrder]

@[simp] theorem length_convertConnPktHead (host : ByteOrder) (memory : List UInt8) :
    (convertConnPktHead host memory).length = memory.length := by
  simp only [convertConnPktHead, List.length_append, length_procByteOrder, List.length_take, List.length_drop]
  omega

theorem recvDataParse_shrinks {host : ByteOrder} {mem : Bool} {buffer rest : LimitedBuffer} {data : List UInt8}
    (h : recvDataParse host mem buffer = (.packet data, rest)) : rest.data.length < buffer.data.length := by
  have hlen : (unpackConnPktHead host buffer.data).length = buffer.data.length := length_convertConnPktHead host _
  unfold recvDataParse at h
  dsimp only at h
  generalize ((ConnPktHead.load host (unpackConnPktHead host buffer.data)).len.toNat + connPktHeadSize) % 2 ^ 32 =
    packLen at h
  split at h
  · cases h
  split at h
  · cases h
  split at h
  · cases h
  split at h
  · cases h
  split at h
  · cases h
  · rename_i hle hcalloc
    cases h
    have hpos := (not_not.mp hcalloc).2.1
    rw [List.length_drop]
    omega

/-- Calls of `ConnCocTransRecv`, with memory for every copy, until there is no packet. -/
def cocDrain (host : ByteOrder) (buffer : LimitedBuffer) : List (List UInt8) × LimitedBuffer :=
  match _h : connCocTransRecv host true buffer with
  | (.packet data, rest) =>
    let out := cocDrain host rest
    (data :: out.1, out.2)
  | (_, rest) => ([], rest)
termination_by buffer.data.length
decreasing_by exact recvDataParse_shrinks _h

/-- Every chunk is put behind what is in the buffer, where there is room for it, and the packets are taken out. -/
def cocFeed (host : ByteOrder) : LimitedBuffer → List (List UInt8) → Option (List (List UInt8) × LimitedBuffer)
  | buffer, [] => some ([], buffer)
  | buffer, chunk :: chunks =>
    if buffer.capacity < buffer.data.length + chunk.length then none
    else
      let out := cocDrain host (buffer.fill chunk)
      (cocFeed host out.2 chunks).map fun rest => (out.1 ++ rest.1, rest.2)

end SoftBus
