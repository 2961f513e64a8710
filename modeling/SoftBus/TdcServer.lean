import SoftBus.Common
import SoftBus.Lib.Run

/-!
# Session packets on a direct TCP channel, server side

`TransTdcSrvRecvData` of `trans_tcp_direct_message.c` on a little-endian host, where the
conversions of the packet head change nothing. The channel and its buffer exist, locks and allocations
succeed. A step is one read event; what `ConnRecvSocketData` has read comes with it.
-/

namespace SoftBus

open Bytes

/-- `DC_MSG_PACKET_HEAD_SIZE`, the size of `TdcPacketHead` -/
def dcMsgPacketHeadSize : Nat := 24

def maxDataBuf : Nat := 4096

/-- `MAGIC_NUMBER` -/
def tdcSrvMagicNumber : Nat := 0xBABEFACE

def moduleSession : Nat := 6

structure TdcPacketHead where
  magicNumber : Nat
  module : Nat
  seq : Nat
  flags : Nat
  dataLen : Nat
deriving DecidableEq, Repr

def packTdcPacketHead (head : TdcPacketHead) : List UInt8 :=
  put 4 head.magicNumber ++ (put 4 head.module ++ (put 8 head.seq ++ (put 4 head.flags ++ put 4 head.dataLen)))

/-- The offset of `dataLen` in the head. -/
def dataLenOffset : Nat := 20

def unpackTdcPacketHead (data : List UInt8) : TdcPacketHead :=
  { magicNumber := read 4 data
    module := read 4 (data.drop 4)
    seq := read 8 ((data.drop 4).drop 4)
    flags := read 4 (((data.drop 4).drop 4).drop 8)
    dataLen := read 4 (data.drop dataLenOffset) }

structure TdcMessage where
  flags : Nat
  seq : Nat
  plain : List UInt8
deriving DecidableEq, Repr

structure ServerDataBuf where
  size : Nat := maxDataBuf
  data : List UInt8 := List.replicate maxDataBuf 0
  w : Int := 0
deriving DecidableEq

structure TdcServer where
  buf : ServerDataBuf := {}
  processed : List TdcMessage := []
  -- the bytes read so far; no function looks at them
  received : List UInt8 := []
deriving DecidableEq

inductive TdcSrvRet where
  -- the message was handed to `ProcessMessage`, whose result is returned
  | message
  | dataNotEnough
  | err
  | decryptErr
  | memErr
  | transUnpackPackageHeadFailed
  | transTcpDatabufLessZero
  | transUpdateDataBufFailed
deriving DecidableEq, Repr

def ServerDataBuf.contents (buf : ServerDataBuf) : List UInt8 := buf.data.take buf.w.toNat

def ServerDataBuf.freeLen (buf : ServerDataBuf) : Int := buf.size - buf.w

section
variable (decrypt : Nat → Nat → List UInt8 → Option (List UInt8))

/-- `decrypt` is `DecryptMessage` with the flags and the sequence number, from which it takes the auth id. -/
def processReceivedData (s : TdcServer) : TdcSrvRet × TdcServer :=
  let head := unpackTdcPacketHead s.buf.data
  if head.module ≠ moduleSession then (.err, s)
  else match decrypt head.flags head.seq ((s.buf.data.drop dcMsgPacketHeadSize).take head.dataLen) with
    | none => (.decryptErr, s)
    | some plain =>
      let pktEnd := dcMsgPacketHeadSize + head.dataLen
      match memcpyS s.buf.data 0 s.buf.size ((s.buf.data.take s.buf.w.toNat).drop pktEnd) with
      | none => (.memErr, s)
      | some data =>
        -- the head is read again, where the bytes were moved to
        let w := s.buf.w - dcMsgPacketHeadSize - (unpackTdcPacketHead data).dataLen
        (.message, { s with
          buf := { s.buf with data, w }, processed := s.processed ++ [⟨head.flags, head.seq, plain⟩] })

def transTdcSrvProcData (s : TdcServer) : TdcSrvRet × TdcServer :=
  let bufLen := (s.buf.w % 4294967296).toNat
  if bufLen < dcMsgPacketHeadSize then (.dataNotEnough, s)
  else
    let head := unpackTdcPacketHead s.buf.data
    if head.magicNumber ≠ tdcSrvMagicNumber then (.transUnpackPackageHeadFailed, s)
    else if s.buf.size - dcMsgPacketHeadSize < head.dataLen then (.transUnpackPackageHeadFailed, s)
    else if bufLen < head.dataLen + dcMsgPacketHeadSize then (.dataNotEnough, s)
    else processReceivedData decrypt s

def TdcServer.append (s : TdcServer) (recvBuf : List UInt8) : TdcServer :=
  { s with
    buf := { s.buf with
      data := s.buf.data.take s.buf.w.toNat ++ recvBuf ++ s.buf.data.drop (s.buf.w.toNat + recvBuf.length)
      w := s.buf.w + recvBuf.length }
    received := s.received ++ recvBuf }

def transTdcUpdateDataBufWInfo (recvBuf : List UInt8) (s : TdcServer) : Option TdcServer :=
  if s.buf.freeLen < recvBuf.length then none else some (s.append recvBuf)

def transTdcSrvRecvData (recvBuf : List UInt8) (s : TdcServer) : TdcSrvRet × TdcServer :=
  if s.buf.freeLen = 0 then (.transTcpDatabufLessZero, s)
  else if recvBuf = [] then (.dataNotEnough, s)
  else match transTdcUpdateDataBufWInfo recvBuf s with
    | none => (.transUpdateDataBufFailed, s)
    | some s => transTdcSrvProcData decrypt s

def TdcServer.step (s : TdcServer) (recvBuf : List UInt8) : TdcServer :=
  (transTdcSrvRecvData decrypt recvBuf s).2

end

end SoftBus
