import SoftBus.Common

/-!
# Packets of the common streams

A packet is a header of 16 bytes, an extension if the frame has one, and the
frame. The extension is a record with one entry in it, padded to four bytes and
closed by a word the code calls a check sum: the length of the record before it.
The receiver finds the frame by that word.
-/

namespace SoftBus

inductive StreamType where
  | invalid
  | rawStream
  | commonVideoStream
  | commonAudioStream
  | videoSliceStream
deriving DecidableEq, Repr

def StreamType.toInt : StreamType → Int
  | .invalid => -1
  | .rawStream => 0
  | .commonVideoStream => 1
  | .commonAudioStream => 2
  | .videoSliceStream => 3

def maxStreamLen : Nat := 2 * 1024 * 1024

structure StreamFrameInfo where
  streamId : BitVec 32
  seqNum : BitVec 32
  level : BitVec 32
  seqSubNum : BitVec 32
  timeStamp : BitVec 32
deriving DecidableEq, Repr

def alignShift : Nat := 2

/-- `Align`: up to the next multiple of `2 ^ shift`. -/
def align (x shift : Nat) : Nat :=
  ((BitVec.ofNat 32 x + ((1#32 <<< shift) - 1)) &&& ~~~((1#32 <<< shift) - 1)).toNat

def alignTo4Bytes (x : Nat) : Nat := align x alignShift

def poke (buf : List UInt8) (off : Nat) (bytes : List UInt8) : List UInt8 :=
  buf.take off ++ bytes ++ buf.drop (off + bytes.length)

/-! ## The header -/

@[ext]
structure CommonHeader where
  version : BitVec 2 := 0
  subVersion : BitVec 1 := 0
  extFlag : BitVec 1 := 0
  streamType : BitVec 4 := 0
  marker : BitVec 1 := 0
  flag : BitVec 1 := 0
  level : BitVec 4 := 0
  streamId : BitVec 16 := 0
  timestamp : BitVec 32 := 0
  dataLen : BitVec 32 := 0
  seqNum : BitVec 16 := 0
  subSeqNum : BitVec 16 := 0
deriving DecidableEq, Repr

def streamHeaderSize : Nat := 16

/-- The constructor of `StreamPacketHeader`; `now` is the clock in milliseconds. -/
def streamPacketHeader (streamType : StreamType) (extended : Bool) (dataLen : Nat) (info : StreamFrameInfo)
    (now : BitVec 32) : CommonHeader where
  version := 0
  subVersion := 1
  extFlag := if extended then 1 else 0
  streamType := BitVec.ofInt 4 streamType.toInt
  marker := 0
  flag := 0
  level := info.level.setWidth 4
  streamId := info.streamId.setWidth 16
  timestamp := if info.timeStamp = 0 then now else info.timeStamp
  dataLen := BitVec.ofNat 32 dataLen
  seqNum := info.seqNum.setWidth 16
  subSeqNum := info.seqSubNum.setWidth 16

namespace CommonHeader

def common (h : CommonHeader) : BitVec 32 :=
  h.version.setWidth 32 <<< 30 ||| h.subVersion.setWidth 32 <<< 29 ||| h.extFlag.setWidth 32 <<< 28 |||
    h.streamType.setWidth 32 <<< 24 ||| h.marker.setWidth 32 <<< 23 ||| h.flag.setWidth 32 <<< 22 |||
    h.level.setWidth 32 <<< 18 ||| h.streamId.setWidth 32

def packetize (h : CommonHeader) : List UInt8 :=
  Bytes.putBig 4 h.common.toNat ++ (Bytes.putBig 4 h.timestamp.toNat ++ (Bytes.putBig 4 h.dataLen.toNat ++
    Bytes.putBig 4 (h.seqNum.setWidth 32 <<< 16 ||| h.subSeqNum.setWidth 32).toNat))

def ofWords (common timestamp dataLen seq : BitVec 32) : CommonHeader where
  version := (common >>> 30).setWidth 2
  subVersion := (common >>> 29).setWidth 1
  extFlag := (common >>> 28).setWidth 1
  streamType := (common >>> 24).setWidth 4
  marker := (common >>> 23).setWidth 1
  flag := (common >>> 22).setWidth 1
  level := (common >>> 18).setWidth 4
  streamId := common.setWidth 16
  timestamp := timestamp
  dataLen := dataLen
  seqNum := (seq >>> 16).setWidth 16
  subSeqNum := (seq &&& 0xff).setWidth 16

def depacketize (header : List UInt8) : CommonHeader :=
  ofWords (BitVec.ofNat 32 (Bytes.readBig 4 header)) (BitVec.ofNat 32 (Bytes.readBig 4 (header.drop 4)))
    (BitVec.ofNat 32 (Bytes.readBig 4 (header.drop 8))) (BitVec.ofNat 32 (Bytes.readBig 4 (header.drop 12)))

end CommonHeader

/-! ## The extension -/

def headerLen : Nat := 2
def numsLen : Nat := 2
def checkSumLen : Nat := 4

structure TwoLevelsTlv where
  -- the type of `firstLevelHeader`
  type : BitVec 16 := 0
  -- its length: how many entries follow
  nums : Nat := 0
  checkSum : Nat := 0
  ext : Option (List UInt8) := none
  extLen : Nat := 0
deriving DecidableEq, Repr

def extBufMask : BitVec 16 := 0x0001

/-- `AddFrameExtData`: the entry, at `start`. -/
def addFrameExtData (buf : List UInt8) (start : Nat) (ext : List UInt8) : Option (List UInt8) :=
  memcpyS (poke (poke buf start (Bytes.putBig 2 0)) (start + 2) (Bytes.putBig 2 (ext.length % 65536)))
    (start + 4) (alignTo4Bytes ext.length) ext

/-- `TwoLevelsTlv::Packetize`, at `offset` of the packet. -/
def tlvPacketize (ext : Option (List UInt8)) (buf : List UInt8) (size offset : Nat) : Option (List UInt8) :=
  match ext with
  | none => some buf
  | some e =>
    (addFrameExtData buf (offset + (headerLen + numsLen)) e).map fun buf =>
      poke (poke (poke buf offset (Bytes.putBig 2 extBufMask.toNat)) (offset + 2) (Bytes.putBig 2 1))
        (offset + (size - checkSumLen)) (Bytes.putBig 4 (headerLen + numsLen + alignTo4Bytes e.length + (headerLen + numsLen)))

/-- The end of `TwoLevelsTlv::Depacketize`: the word behind the extension, from which `tmp` points at the
entry's data. -/
def TwoLevelsTlv.readCheckSum (tlv : TwoLevelsTlv) (tmp : List UInt8) : TwoLevelsTlv :=
  { tlv with checkSum := Bytes.readBig 4 (tmp.drop (alignTo4Bytes tlv.extLen)) }

def TwoLevelsTlv.depacketize (tlv : TwoLevelsTlv) (data : List UInt8) : TwoLevelsTlv :=
  if data.length < 4 then tlv
  else if BitVec.ofNat 16 (Bytes.readBig 2 data) &&& extBufMask = 0 then
    readCheckSum { tlv with type := BitVec.ofNat 16 (Bytes.readBig 2 data), nums := Bytes.readBig 2 (data.drop 2) } (data.drop 4)
  else readEntry { tlv with type := BitVec.ofNat 16 (Bytes.readBig 2 data), nums := Bytes.readBig 2 (data.drop 2) } data
    (Bytes.readBig 2 (data.drop 6))
where
  readEntry (tlv : TwoLevelsTlv) (data : List UInt8) (length : Nat) : TwoLevelsTlv :=
    if data.length < 8 then tlv
    else if length = 0 ∨ data.length < 8 + length then tlv
    else
      match memcpyS (List.replicate length 0) 0 length ((data.drop 8).take length) with
      | none => readCheckSum { tlv with ext := some (List.replicate length 0) } (data.drop 8)
      | some ext => readCheckSum { tlv with ext := some ext, extLen := length } (data.drop 8)

/-! ## Packetizer and depacketizer -/

def calculateExtSize (extSize : Nat) : Nat :=
  if extSize > 0 then headerLen + numsLen + (headerLen + numsLen) + align extSize alignShift + checkSumLen else 0

def extBufferLen (ext : Option (List UInt8)) : Nat := ext.elim 0 List.length

def packetizeStream (streamType : StreamType) (buffer : List UInt8) (ext : Option (List UInt8)) (info : StreamFrameInfo)
    (now : BitVec 32) : Option (List UInt8) :=
  match tlvPacketize ext
      (poke (List.replicate (streamHeaderSize + extSize + buffer.length) 0) 0
        (streamPacketHeader streamType (0 < extSize) (extSize + buffer.length) info now).packetize)
      extSize streamHeaderSize with
  | none => none
  | some data =>
    match memcpyS data (streamHeaderSize + extSize) buffer.length buffer with
    | none => some data -- a failed copy is only logged
    | some data => some data
where
  extSize : Nat := calculateExtSize (extBufferLen ext)

structure StreamDepacketizer where
  streamType : StreamType
  header : CommonHeader := {}
  tlvs : TwoLevelsTlv := {}
  data : Option (List UInt8) := none
  dataLength : Int := 0
deriving DecidableEq, Repr

namespace StreamDepacketizer

def depacketizeHeader (d : StreamDepacketizer) (header : List UInt8) : StreamDepacketizer :=
  if d.streamType = .commonVideoStream ∨ d.streamType = .commonAudioStream then
    { d with header := CommonHeader.depacketize header }
  else d

/-- The frame, behind `tlvTotalLen` bytes of the buffer. -/
def takeData (d : StreamDepacketizer) (buffer : List UInt8) (tlvTotalLen : Nat) : StreamDepacketizer :=
  if dataLength ≤ 0 ∨ maxStreamLen < dataLength then { d with dataLength := dataLength }
  else if Word.int32 (buffer.length - tlvTotalLen) < dataLength then { d with dataLength := dataLength }
  else
    match memcpyS (List.replicate dataLength.toNat 0) 0 dataLength.toNat ((buffer.drop tlvTotalLen).take dataLength.toNat) with
    | none => { d with data := some (List.replicate dataLength.toNat 0), dataLength := -1 }
    | some data => { d with data := some data, dataLength := dataLength }
where
  dataLength : Int := Word.int32 (d.header.dataLen.toNat - tlvTotalLen)

def depacketizeBuffer (d : StreamDepacketizer) (buffer : List UInt8) : StreamDepacketizer :=
  if d.header.extFlag ≠ 0 then
    { d with tlvs := d.tlvs.depacketize buffer }.takeData buffer (((d.tlvs.depacketize buffer).checkSum + 4) % 4294967296)
  else d.takeData buffer 0

end StreamDepacketizer

end SoftBus
