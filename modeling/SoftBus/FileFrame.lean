import SoftBus.Common

/-!
# Frames of a file transfer on a proxy channel

A file goes out as a start frame, data frames numbered from `1` and, where the
peer supports it, acknowledgement requests and a final checksum frame. Layouts
and checks are those of `client_trans_proxy_file_manager.c` and
`client_trans_proxy_file_common.c`, on a little-endian host.
-/

namespace SoftBus

open Bytes

def maxFileSize : Nat := 0x500000

def fileMagicNumber : Nat := 0xBABEFACE

def proxyMaxPacketSize : Nat := 1024 - 48

def frameMagicOffset : Nat := 4

def frameHeadLen : Nat := 12

def frameDataSeqOffset : Nat := 4

def frameCrcLen : Nat := 2

def fileSendAckInterval : Nat := 32

def fileSendAckResultSuccess : BitVec 32 := 0xFFFFFFFF#32

def waitFrameAckTimeoutCount : Nat := 24

def maxFilePathNameLen : Nat := 512

theorem frame_consts : frameHeadLen = 12 ∧ frameDataSeqOffset = 4 ∧ frameCrcLen = 2 := ⟨rfl, rfl, rfl⟩

def frameDataSize (crc : Bool) : Nat :=
  if crc then proxyMaxPacketSize - frameDataSeqOffset - (frameHeadLen + frameCrcLen)
  else proxyMaxPacketSize - frameDataSeqOffset

theorem frameDataSize_true : frameDataSize true = 958 := by decide

/-! ## Checksums -/

def auchCRCHi : List UInt8 :=
  [0x00, 0xC1, 0x81, 0x40, 0x01, 0xC0, 0x80, 0x41, 0x01, 0xC0, 0x80, 0x41, 0x00, 0xC1, 0x81, 0x40,
    0x01, 0xC0, 0x80, 0x41, 0x00, 0xC1, 0x81, 0x40, 0x00, 0xC1, 0x81, 0x40, 0x01, 0xC0, 0x80, 0x41,
    0x01, 0xC0, 0x80, 0x41, 0x00, 0xC1, 0x81, 0x40, 0x00, 0xC1, 0x81, 0x40, 0x01, 0xC0, 0x80, 0x41,
    0x00, 0xC1, 0x81, 0x40, 0x01, 0xC0, 0x80, 0x41, 0x01, 0xC0, 0x80, 0x41, 0x00, 0xC1, 0x81, 0x40,
    0x01, 0xC0, 0x80, 0x41, 0x00, 0xC1, 0x81, 0x40, 0x00, 0xC1, 0x81, 0x40, 0x01, 0xC0, 0x80, 0x41,
    0x00, 0xC1, 0x81, 0x40, 0x01, 0xC0, 0x80, 0x41, 0x01, 0xC0, 0x80, 0x41, 0x00, 0xC1, 0x81, 0x40,
    0x00, 0xC1, 0x81, 0x40, 0x01, 0xC0, 0x80, 0x41, 0x01, 0xC0, 0x80, 0x41, 0x00, 0xC1, 0x81, 0x40,
    0x01, 0xC0, 0x80, 0x41, 0x00, 0xC1, 0x81, 0x40, 0x00, 0xC1, 0x81, 0x40, 0x01, 0xC0, 0x80, 0x41,
    0x01, 0xC0, 0x80, 0x41, 0x00, 0xC1, 0x81, 0x40, 0x00, 0xC1, 0x81, 0x40, 0x01, 0xC0, 0x80, 0x41,
    0x00, 0xC1, 0x81, 0x40, 0x01, 0xC0, 0x80, 0x41, 0x01, 0xC0, 0x80, 0x41, 0x00, 0xC1, 0x81, 0x40,
    0x00, 0xC1, 0x81, 0x40, 0x01, 0xC0, 0x80, 0x41, 0x01, 0xC0, 0x80, 0x41, 0x00, 0xC1, 0x81, 0x40,
    0x01, 0xC0, 0x80, 0x41, 0x00, 0xC1, 0x81, 0x40, 0x00, 0xC1, 0x81, 0x40, 0x01, 0xC0, 0x80, 0x41,
    0x00, 0xC1, 0x81, 0x40, 0x01, 0xC0, 0x80, 0x41, 0x01, 0xC0, 0x80, 0x41, 0x00, 0xC1, 0x81, 0x40,
    0x01, 0xC0, 0x80, 0x41, 0x00, 0xC1, 0x81, 0x40, 0x00, 0xC1, 0x81, 0x40, 0x01, 0xC0, 0x80, 0x41,
    0x01, 0xC0, 0x80, 0x41, 0x00, 0xC1, 0x81, 0x40, 0x00, 0xC1, 0x81, 0x40, 0x01, 0xC0, 0x80, 0x41,
    0x00, 0xC1, 0x81, 0x40, 0x01, 0xC0, 0x80, 0x41, 0x01, 0xC0, 0x80, 0x41, 0x00, 0xC1, 0x81, 0x40]

def auchCRCLo : List UInt8 :=
  [0x00, 0xC0, 0xC1, 0x01, 0xC3, 0x03, 0x02, 0xC2, 0xC6, 0x06, 0x07, 0xC7, 0x05, 0xC5, 0xC4, 0x04,
    0xCC, 0x0C, 0x0D, 0xCD, 0x0F, 0xCF, 0xCE, 0x0E, 0x0A, 0xCA, 0xCB, 0x0B, 0xC9, 0x09, 0x08, 0xC8,
    0xD8, 0x18, 0x19, 0xD9, 0x1B, 0xDB, 0xDA, 0x1A, 0x1E, 0xDE, 0xDF, 0x1F, 0xDD, 0x1D, 0x1C, 0xDC,
    0x14, 0xD4, 0xD5, 0x15, 0xD7, 0x17, 0x16, 0xD6, 0xD2, 0x12, 0x13, 0xD3, 0x11, 0xD1, 0xD0, 0x10,
    0xF0, 0x30, 0x31, 0xF1, 0x33, 0xF3, 0xF2, 0x32, 0x36, 0xF6, 0xF7, 0x37, 0xF5, 0x35, 0x34, 0xF4,
    0x3C, 0xFC, 0xFD, 0x3D, 0xFF, 0x3F, 0x3E, 0xFE, 0xFA, 0x3A, 0x3B, 0xFB, 0x39, 0xF9, 0xF8, 0x38,
    0x28, 0xE8, 0xE9, 0x29, 0xEB, 0x2B, 0x2A, 0xEA, 0xEE, 0x2E, 0x2F, 0xEF, 0x2D, 0xED, 0xEC, 0x2C,
    0xE4, 0x24, 0x25, 0xE5, 0x27, 0xE7, 0xE6, 0x26, 0x22, 0xE2, 0xE3, 0x23, 0xE1, 0x21, 0x20, 0xE0,
    0xA0, 0x60, 0x61, 0xA1, 0x63, 0xA3, 0xA2, 0x62, 0x66, 0xA6, 0xA7, 0x67, 0xA5, 0x65, 0x64, 0xA4,
    0x6C, 0xAC, 0xAD, 0x6D, 0xAF, 0x6F, 0x6E, 0xAE, 0xAA, 0x6A, 0x6B, 0xAB, 0x69, 0xA9, 0xA8, 0x68,
    0x78, 0xB8, 0xB9, 0x79, 0xBB, 0x7B, 0x7A, 0xBA, 0xBE, 0x7E, 0x7F, 0xBF, 0x7D, 0xBD, 0xBC, 0x7C,
    0xB4, 0x74, 0x75, 0xB5, 0x77, 0xB7, 0xB6, 0x76, 0x72, 0xB2, 0xB3, 0x73, 0xB1, 0x71, 0x70, 0xB0,
    0x50, 0x90, 0x91, 0x51, 0x93, 0x53, 0x52, 0x92, 0x96, 0x56, 0x57, 0x97, 0x55, 0x95, 0x94, 0x54,
    0x9C, 0x5C, 0x5D, 0x9D, 0x5F, 0x9F, 0x9E, 0x5E, 0x5A, 0x9A, 0x9B, 0x5B, 0x99, 0x59, 0x58, 0x98,
    0x88, 0x48, 0x49, 0x89, 0x4B, 0x8B, 0x8A, 0x4A, 0x4E, 0x8E, 0x8F, 0x4F, 0x8D, 0x4D, 0x4C, 0x8C,
    0x44, 0x84, 0x85, 0x45, 0x87, 0x47, 0x46, 0x86, 0x82, 0x42, 0x43, 0x83, 0x41, 0x81, 0x80, 0x40]

/-- The loop of `RTU_CRC`, with the high and the low byte of the register. -/
def rtuCrcLoop : UInt8 → UInt8 → List UInt8 → UInt8 × UInt8
  | hi, lo, [] => (hi, lo)
  | hi, lo, b :: msg =>
    let index := (lo ^^^ b).toNat
    rtuCrcLoop (auchCRCLo.getD index 0) (hi ^^^ auchCRCHi.getD index 0) msg

def rtuCrc (msg : List UInt8) : Nat :=
  let r := rtuCrcLoop 0xFF 0xFF msg
  r.1.toNat * 256 + r.2.toNat

theorem rtuCrc_lt (msg : List UInt8) : rtuCrc msg < 65536 := by
  have h₁ := (rtuCrcLoop 0xFF 0xFF msg).1.toNat_lt
  have h₂ := (rtuCrcLoop 0xFF 0xFF msg).2.toNat_lt
  simp only [rtuCrc]
  omega

/-! ## The common head: magic number and length -/

def packFileFrame (dataLen : Nat) (fileData : List UInt8) : List UInt8 :=
  put 4 fileMagicNumber ++ (put 8 dataLen ++ fileData)

section
variable (dataLen : Nat) (fileData : List UInt8)

@[simp] theorem length_packFileFrame : (packFileFrame dataLen fileData).length = 12 + fileData.length := by
  simp only [packFileFrame, List.length_append, length_put]
  omega

@[simp] theorem magic_packFileFrame : read 4 (packFileFrame dataLen fileData) = fileMagicNumber :=
  read_put_append (by decide) _

@[simp] theorem drop_packFileFrame : (packFileFrame dataLen fileData).drop frameHeadLen = fileData := by
  rw [show frameHeadLen = 4 + 8 from rfl, ← List.drop_drop, packFileFrame, drop_put_append, drop_put_append]

theorem dataLen_packFileFrame {dataLen : Nat} (h : dataLen < 18446744073709551616) :
    read 8 ((packFileFrame dataLen fileData).drop frameMagicOffset) = dataLen := by
  rw [show frameMagicOffset = 4 from rfl, packFileFrame, drop_put_append, read_put_append h]

end

/-! ## Data frames -/

def packFileDataFrame (seq : Nat) (data : List UInt8) : List UInt8 :=
  packFileFrame (data.length + frameDataSeqOffset) (put 4 seq ++ (data ++ put 2 (rtuCrc data)))

structure DataFrame where
  seq : Nat
  crc : Nat
  data : List UInt8
deriving DecidableEq, Repr

def unpackFileDataFrame (crc : Bool) (frame : List UInt8) : Except SoftbusRet DataFrame :=
  if crc then
    if frame.length ≤ frameHeadLen + frameDataSeqOffset + frameCrcLen then .error .transInvalidDataLength
    else
      let dataLen := read 8 (frame.drop frameMagicOffset)
      if read 4 frame ≠ fileMagicNumber ∨ (dataLen + frameHeadLen + frameCrcLen) % 2 ^ 64 ≠ frame.length then
        .error .invalidDataHead
      else
        let fileData := frame.drop frameHeadLen
        let data := (fileData.drop frameDataSeqOffset).take (dataLen - frameDataSeqOffset)
        if rtuCrc data ≠ read 2 (fileData.drop dataLen) then .error .err
        else .ok ⟨read 4 fileData, rtuCrc data, data⟩
  else if frame.length ≤ frameDataSeqOffset then .error .transInvalidDataLength
  else .ok ⟨read 4 frame, 0, frame.drop frameDataSeqOffset⟩

theorem unpack_packFileDataFrame {seq : Nat} (hseq : seq < 4294967296) {data : List UInt8} (hne : data ≠ [])
    (hlen : data.length ≤ 958) :
    unpackFileDataFrame true (packFileDataFrame seq data) = .ok ⟨seq, rtuCrc data, data⟩ := by
  have hpos := List.length_pos_iff.mpr hne
  have hdataLen : data.length + frameDataSeqOffset < 18446744073709551616 := by
    simp only [frameDataSeqOffset]; omega
  have hbody : (put 4 seq ++ (data ++ put 2 (rtuCrc data))).drop frameDataSeqOffset = data ++ put 2 (rtuCrc data) :=
    drop_put_append 4 _ _
  have hcrc : read 2 ((put 4 seq ++ (data ++ put 2 (rtuCrc data))).drop (data.length + frameDataSeqOffset)) =
      rtuCrc data := by
    rw [Nat.add_comm, ← List.drop_drop, hbody, List.drop_left]
    exact (congrArg (read 2) (List.append_nil _)).symm.trans (read_put_append (rtuCrc_lt data) [])
  unfold unpackFileDataFrame packFileDataFrame
  simp only [if_true, length_packFileFrame, magic_packFileFrame, drop_packFileFrame,
    dataLen_packFileFrame _ hdataLen, hbody, hcrc, Nat.add_sub_cancel, List.take_left, List.length_append, length_put]
  obtain ⟨h₁, h₂, h₃⟩ := frame_consts
  rw [if_neg (by omega), if_neg (by omega), if_neg (by simp), read_put_append hseq]

/-! ## Acknowledgements, checksums and results -/

def packAckReqAndResData (startSeq value : Nat) : List UInt8 :=
  packFileFrame (frameDataSeqOffset + frameDataSeqOffset) (put 4 startSeq ++ put 4 value)

def unpackAckReqAndResData (frame : List UInt8) : Except SoftbusRet (Nat × Nat) :=
  if frame.length < frameHeadLen + frameDataSeqOffset + frameDataSeqOffset then .error .transInvalidDataLength
  else if read 4 frame ≠ fileMagicNumber ∨
      read 8 (frame.drop frameMagicOffset) < frameDataSeqOffset + frameDataSeqOffset then
    .error .invalidDataHead
  else
    let fileData := frame.drop frameHeadLen
    .ok (read 4 fileData, read 4 (fileData.drop frameDataSeqOffset))

theorem read_put {k n : Nat} (h : n < 256 ^ k) : read k (put k n) = n := by
  have := read_put_append h []
  rwa [List.append_nil] at this

theorem unpack_packAckReqAndResData {startSeq value : Nat} (hs : startSeq < 4294967296) (hv : value < 4294967296) :
    unpackAckReqAndResData (packAckReqAndResData startSeq value) = .ok (startSeq, value) := by
  unfold unpackAckReqAndResData packAckReqAndResData
  simp only [length_packFileFrame, magic_packFileFrame, drop_packFileFrame,
    dataLen_packFileFrame _ (show frameDataSeqOffset + frameDataSeqOffset < 18446744073709551616 by decide),
    List.length_append, length_put]
  obtain ⟨h₁, h₂, -⟩ := frame_consts
  rw [if_neg (by omega), if_neg (by simp), read_put_append hs, h₂, drop_put_append, read_put hv]

/-- The return code and the number of the frame; the number is zero where it is not read. -/
def unpackFileCrcCheckSum (crc : Bool) (checkSumCRC : Nat) (frame : List UInt8) : SoftbusRet × Nat :=
  if crc then
    if frame.length ≠ frameHeadLen + frameDataSeqOffset + 8 then (.transInvalidDataLength, 0)
    else if read 4 frame ≠ fileMagicNumber ∨ read 8 (frame.drop frameMagicOffset) ≠ frameDataSeqOffset + 8 then
      (.invalidDataHead, 0)
    else
      let fileData := frame.drop frameHeadLen
      (if read 8 (fileData.drop frameDataSeqOffset) = checkSumCRC then .ok else .err, read 4 fileData)
  else (.ok, 0)

def packFileTransResult (seq side : Nat) (result : SoftbusRet) : List UInt8 :=
  packFileFrame (frameDataSeqOffset + 4 + 4) (put 4 seq ++ (put 4 side ++ putInt32 result.toInt))

structure FileTransResult where
  seq : Nat
  side : Nat
  result : Int

/-- The length check is the source's: it lets through a frame whose last field is missing. -/
def unpackFileTransResultFrame (frame : List UInt8) : Except SoftbusRet FileTransResult :=
  if frame.length < frameHeadLen + frameDataSeqOffset + frameDataSeqOffset then .error .transInvalidDataLength
  else if read 4 frame ≠ fileMagicNumber ∨
      read 8 (frame.drop frameMagicOffset) ≠ frameDataSeqOffset + 4 + 4 then
    .error .invalidDataHead
  else
    let fileData := frame.drop frameHeadLen
    .ok ⟨read 4 fileData, read 4 (fileData.drop frameDataSeqOffset),
      readInt32 ((fileData.drop frameDataSeqOffset).drop 4)⟩

/-! ## Start frames -/

/-- The start frame of `PackFileTransStartInfo` where the peer supports checksums. -/
def packStartFrame (destFile : List UInt8) (fileSize : Nat) : List UInt8 :=
  packFileFrame (destFile.length + frameDataSeqOffset + 8)
    (put 4 (frameDataSize true) ++ (put 8 fileSize ++ destFile))

structure StartInfo where
  -- Frame length and file size; a frame without checksums has neither.
  sizes : Option (Nat × Nat)
  -- The number an old peer puts before the name.
  seq : Nat
  fileName : List UInt8

def unpackFileTransStartInfo (crc : Bool) (frame : List UInt8) : Except SoftbusRet StartInfo :=
  if crc then
    if frame.length < frameHeadLen + frameDataSeqOffset then .error .invalidParam
    else
      let dataLen := read 8 (frame.drop frameMagicOffset)
      if frame.length < (frameHeadLen + dataLen) % 2 ^ 64 then .error .err
      else if read 4 frame ≠ fileMagicNumber ∨ dataLen < frameDataSeqOffset + 8 then .error .err
      else
        let fileData := frame.drop frameHeadLen
        let fileNameLen := dataLen - frameDataSeqOffset - 8
        if maxFilePathNameLen < fileNameLen then .error .invalidParam
        else .ok ⟨some (read 4 fileData, read 8 (fileData.drop frameDataSeqOffset)), 0,
          ((fileData.drop frameDataSeqOffset).drop 8).take fileNameLen⟩
  else if frame.length < frameDataSeqOffset then .error .err
  else if maxFilePathNameLen < frame.length - frameDataSeqOffset then .error .invalidParam
  else .ok ⟨none, read 4 frame, frame.drop frameDataSeqOffset⟩

/-! ## The type of a frame -/

def frameIndexToType (index frameNumber : Nat) : SessionPktType :=
  if index = 0 then .fileFirstFrame
  else if index = 1 ∧ frameNumber = 2 then .fileOnlyoneFrame
  else if index = frameNumber - 1 then .fileLastFrame
  else .fileOngoineFrame

/-- A frame as the two ends hand it to each other. -/
structure FileFrame where
  frameType : SessionPktType
  data : List UInt8
deriving DecidableEq, Repr

end SoftBus
