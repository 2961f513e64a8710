import SoftBus.Common

/-!
# Packets on a direct TCP channel

`TransTdcPackData` and `TransTdcRecvData` of `client_trans_tcp_direct_message.c`
on a little-endian host, where the conversions of the packet head change
nothing. The channel and its buffer exist, locks and allocations succeed.
-/

namespace SoftBus

open Bytes

def dcDataHeadSize : Nat := 16

/-- `DATA_EXTEND_LEN` -/
def tdcDataExtendLen : Nat := dcDataHeadSize + overheadLen

/-- `MIN_BUF_LEN` -/
def tdcMinBufLen : Nat := 1024 + tdcDataExtendLen

/-- `SLICE_HEAD_LEN` -/
def tdcSliceHeadLen : Nat := 16

/-- `MAGIC_NUMBER` -/
def tdcMagicNumber : Nat := 0xBABEFACE

def System.dataBufferMaxLen (y : System) : Nat := y.maxBytesNewLen + tdcDataExtendLen + tdcSliceHeadLen

inductive TdcFlag where
  | bytes
  | ack
  | message
deriving DecidableEq, Repr

def TdcFlag.toNat : TdcFlag → Nat
  | .bytes => 0
  | .ack => 1
  | .message => 2

structure TdcEnv where
  -- `SoftBusEncryptDataWithSeq`, with the random bytes it draws.
  encrypt : List UInt8 → BitVec 32 → List UInt8 → Option (List UInt8)
  -- `SoftBusDecryptData`
  decrypt : List UInt8 → Option (List UInt8)
  -- `ClientTransTdcOnDataReceived`
  onDataReceived : TdcFlag → List UInt8 → SoftbusRet

/-! ## Packing -/

structure TcpDataPacketHead where
  magicNumber : Nat
  seq : BitVec 32
  flags : Nat
  dataLen : Nat
deriving DecidableEq, Repr

def packTcpDataPacketHead (head : TcpDataPacketHead) : List UInt8 :=
  put 4 head.magicNumber ++ (put 4 head.seq.toNat ++ (put 4 head.flags ++ put 4 head.dataLen))

def unpackTcpDataPacketHead (data : List UInt8) : TcpDataPacketHead :=
  { magicNumber := read 4 data
    seq := BitVec.ofNat 32 (read 4 (data.drop 4))
    flags := read 4 ((data.drop 4).drop 4)
    dataLen := read 4 (((data.drop 4).drop 4).drop 4) }

/-- The arguments of a call of `TransTdcPackData`. -/
structure TdcSend where
  flag : TdcFlag
  -- The sequence number of the channel.
  sequence : BitVec 32
  data : List UInt8
  random : List UInt8
deriving DecidableEq, Repr

namespace TdcSend

/-- An acknowledgement carries the number it acknowledges. -/
def finalSeq (p : TdcSend) : BitVec 32 :=
  match p.flag with
  | .ack => BitVec.ofNat 32 (read 4 p.data)
  | _ => p.sequence

/-- The number of an acknowledgement goes out highest byte first. -/
def finalData (p : TdcSend) : List UInt8 :=
  match p.flag with
  | .ack => (put 4 p.finalSeq.toNat).reverse.take p.data.length
  | _ => p.data

def dataLen (p : TdcSend) : Nat := (p.data.length + overheadLen) % 2 ^ 32

end TdcSend

def transTdcPackData (env : TdcEnv) (p : TdcSend) : Option (List UInt8) :=
  match env.encrypt p.random p.finalSeq p.finalData with
  | none => none
  | some out =>
    if out.length ≠ p.dataLen then none
    else some (packTcpDataPacketHead ⟨tdcMagicNumber, p.finalSeq, p.flag.toNat, p.dataLen⟩ ++ out)

/-! ## Receiving -/

/-- `data` holds the bytes before the write pointer. -/
structure ClientDataBuf where
  size : Nat := tdcMinBufLen
  data : List UInt8 := []
deriving DecidableEq, Repr

structure TdcPacket where
  flag : TdcFlag
  seq : BitVec 32
  plain : List UInt8
deriving DecidableEq, Repr

structure TdcChannel where
  buf : ClientDataBuf := {}
  delivered : List TdcPacket := []
  -- The numbers passed to `TransTdcSendAck`.
  acks : List (BitVec 32) := []
deriving DecidableEq, Repr

def TdcChannel.deliver (ch : TdcChannel) (packet : TdcPacket) : TdcChannel :=
  { ch with delivered := ch.delivered ++ [packet] }

def transTdcProcessDataByFlag (env : TdcEnv) (flag : Nat) (seqNum : BitVec 32) (plain : List UInt8) (ch : TdcChannel) :
    SoftbusRet × TdcChannel :=
  match flag with
  | 0 => (env.onDataReceived .bytes plain, ch.deliver ⟨.bytes, seqNum, plain⟩)
  | 1 => (.ok, ch.deliver ⟨.ack, seqNum, plain⟩)
  | 2 => (env.onDataReceived .message plain,
      { ch with acks := ch.acks ++ [seqNum] }.deliver ⟨.message, seqNum, plain⟩)
  | _ => (.err, ch)

def transTdcProcessData (env : TdcEnv) (ch : TdcChannel) : SoftbusRet × TdcChannel :=
  let head := unpackTcpDataPacketHead ch.buf.data
  match env.decrypt ((ch.buf.data.drop dcDataHeadSize).take head.dataLen) with
  | none => (.decryptErr, ch)
  | some plain =>
    match memcpyS [] 0 ch.buf.size (ch.buf.data.drop (dcDataHeadSize + head.dataLen)) with
    | none => (.memErr, ch)
    | some data =>
      transTdcProcessDataByFlag env head.flags head.seq plain { ch with buf := { ch.buf with data } }

def transResizeDataBuffer (pkgLen : Nat) (buf : ClientDataBuf) : SoftbusRet × ClientDataBuf :=
  match memcpyS [] 0 pkgLen buf.data with
  | none => (.memErr, buf)
  | some data => (.ok, ⟨pkgLen, data⟩)

theorem transTdcProcessDataByFlag_buf (env : TdcEnv) (flag : Nat) (seqNum : BitVec 32) (plain : List UInt8)
    (ch : TdcChannel) : (transTdcProcessDataByFlag env flag seqNum plain ch).2.buf = ch.buf := by
  unfold transTdcProcessDataByFlag
  split <;> rfl

theorem transTdcProcessData_shrinks {env : TdcEnv} {ch : TdcChannel} (hlen : dcDataHeadSize ≤ ch.buf.data.length)
    (h : (transTdcProcessData env ch).1 = .ok) :
    (transTdcProcessData env ch).2.buf.data.length < ch.buf.data.length := by
  have hhead : dcDataHeadSize = 16 := rfl
  simp only [transTdcProcessData] at h ⊢
  cases hplain : env.decrypt
      ((ch.buf.data.drop dcDataHeadSize).take (unpackTcpDataPacketHead ch.buf.data).dataLen) with
  | none =>
    rw [hplain] at h
    cases h
  | some plain =>
    rw [hplain] at h
    cases hdata : memcpyS [] 0 ch.buf.size
        (ch.buf.data.drop (dcDataHeadSize + (unpackTcpDataPacketHead ch.buf.data).dataLen)) with
    | none =>
      simp only [hdata] at h
      cases h
    | some data =>
      simp only [transTdcProcessDataByFlag_buf]
      rw [(memcpyS_eq_some.mp hdata).2]
      simp only [List.take_nil, List.drop_nil, List.nil_append, List.append_nil, List.length_drop]
      omega

def transTdcProcAllData (env : TdcEnv) (dataBufferMaxLen : Nat) (ch : TdcChannel) : SoftbusRet × TdcChannel :=
  if ch.buf.data.length = 0 then (.ok, ch)
  else if _hlen : ch.buf.data.length < dcDataHeadSize then (.dataNotEnough, ch)
  else
    let head := unpackTcpDataPacketHead ch.buf.data
    if head.magicNumber ≠ tdcMagicNumber then (.err, ch)
    else if dataBufferMaxLen - dcDataHeadSize < head.dataLen ∨ head.dataLen ≤ overheadLen then (.err, ch)
    else
      let pkgLen := (head.dataLen + dcDataHeadSize) % 2 ^ 32
      if ch.buf.size < pkgLen ∧ pkgLen ≤ dataBufferMaxLen then
        let (ret, buf) := transResizeDataBuffer pkgLen ch.buf
        (ret, { ch with buf })
      else if ch.buf.data.length < pkgLen then (.dataNotEnough, ch)
      else if _hok : (transTdcProcessData env ch).1 = .ok then
        transTdcProcAllData env dataBufferMaxLen (transTdcProcessData env ch).2
      else (.err, (transTdcProcessData env ch).2)
termination_by ch.buf.data.length
decreasing_by exact transTdcProcessData_shrinks (Nat.le_of_not_lt _hlen) _hok

def ClientDataBuf.freeLen (buf : ClientDataBuf) : Nat := buf.size - buf.data.length

def transClientUpdateTdcDataBufWInfo (recvBuf : List UInt8) (buf : ClientDataBuf) : Except SoftbusRet ClientDataBuf :=
  if buf.freeLen < recvBuf.length then .error .err
  else
    match memcpyS buf.data buf.data.length recvBuf.length recvBuf with
    | none => .error .err
    | some data => .ok { buf with data }

/-- `recv` is what `ConnRecvSocketData` returns, none for an error. -/
def transTdcRecvData (env : TdcEnv) (dataBufferMaxLen : Nat) (recv : Option (List UInt8)) (ch : TdcChannel) :
    SoftbusRet × TdcChannel :=
  if ch.buf.freeLen = 0 ∨ dataBufferMaxLen < ch.buf.freeLen then (.err, ch)
  else
    match recv with
    | none => (.err, ch)
    | some [] => (.dataNotEnough, ch)
    | some recvBuf =>
      match transClientUpdateTdcDataBufWInfo recvBuf ch.buf with
      | .error _ => (.err, ch)
      | .ok buf => transTdcProcAllData env dataBufferMaxLen { ch with buf }

end SoftBus
