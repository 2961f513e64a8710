import SoftBus.DiscBleUtils

/-!
# A BLE broadcast is built

The part of `disc_ble.c` that makes the advertisement and the scan response of one of the two advertisers.
-/

namespace SoftBus

inductive AdvId where
  | con | non
deriving DecidableEq

/-- What the ledger and the adapters say of the own device. -/
structure LocalDevice where
  -- the first bytes of the hash of the udid
  deviceIdHash : Vector UInt8 8
  -- `DiscBleGetShortUserIdHash`
  userIdHash : Vector UInt8 2
  isDefaultOhosAccount : Bool
  devType : UInt16
  name : DeviceName
  btMacAddr : Option (Vector UInt8 6)
  blePower : Option Int8

structure AdvDeviceInfo where
  devName : List UInt8
  devType : UInt16
  accountHash : Vector UInt8 2
  capabilityBitmap : UInt32
  range : Int

namespace LocalDevice

variable (ld : LocalDevice)

def getDeviceName (size : Nat) : List UInt8 :=
  match discBleGetDeviceName (utf8 ld.name.chars) size with
  | .error _ => []
  | .ok deviceName => deviceName

def getConDeviceInfo (capBitMap : UInt32) : Except SoftbusRet AdvDeviceInfo :=
  if capBitMap = 0 then .error .err
  else .ok
    { devName := ld.getDeviceName discMaxDeviceNameLen
      devType := ld.devType
      accountHash := if ld.isDefaultOhosAccount then #v[0, 0] else ld.userIdHash
      capabilityBitmap := capBitMap
      range := 0 }

/-- `passiveCapBitMap` is what the received messages ask for and is published. -/
def getNonDeviceInfo (capBitMap passiveCapBitMap : UInt32) (activeCnt passiveCnt : Int) :
    Except SoftbusRet AdvDeviceInfo :=
  if capBitMap ||| passiveCapBitMap = 0 then .error .err
  else .ok
    { devName := ld.getDeviceName discMaxDeviceNameLen
      devType := ld.devType
      accountHash := #v[0, 0]
      capabilityBitmap := capBitMap ||| passiveCapBitMap
      range := activeCnt + passiveCnt }

def sentBrAddr (advId : AdvId) (numNeedBrMac : Nat) : Option (Vector UInt8 6) :=
  if advId = .non ∧ 0 < numNeedBrMac then ld.btMacAddr else none

def sentPower (advId : AdvId) (range : Int) : Option Int8 :=
  if advId = .non ∧ 0 < range then ld.blePower else none

def sentAccountHash (advId : AdvId) (info : AdvDeviceInfo) : Vector UInt8 2 :=
  match advId with
  | .con => info.accountHash
  | .non => ld.userIdHash

def assembleBroadcastData (isWakeRemote : Bool) (info : AdvDeviceInfo) (advId : AdvId) : List UInt8 :=
  let extension : UInt8 := if advId = .con then 0x10 ||| 0x80 ||| (if isWakeRemote then 0x01 else 0) else 0x10
  [4, 5, extension] ++ (ld.sentAccountHash advId info).toList ++ [info.capabilityBitmap.toUInt8, 0]

def assembleOption (data : List UInt8) (dataType : TlvType) : Option (List UInt8) → List UInt8
  | none => data
  | some value => (assembleTLV data dataType value).2

def assembleNonOptionalTlv (numNeedBrMac : Nat) (info : AdvDeviceInfo) (data : List UInt8) : List UInt8 :=
  let data := assembleOption data .brMac ((ld.sentBrAddr .non numNeedBrMac).map Vector.toList)
  assembleOption data .rangePower ((ld.sentPower .non info.range).map fun power => [power.toUInt8])

def sendDevType (devType : UInt16) : List UInt8 :=
  if 256 ≤ devType.toNat then Bytes.put 2 devType.toNat else Bytes.put 1 devType.toNat

def getBroadcastData (isWakeRemote : Bool) (numNeedBrMac : Nat) (info : AdvDeviceInfo) (advId : AdvId) : List UInt8 :=
  let data := ld.assembleBroadcastData isWakeRemote info advId
  let data := (assembleTLV data .deviceIdHash ld.deviceIdHash.toList).2
  let data := (assembleTLV data .deviceType (sendDevType info.devType)).2
  let data := if advId = .non then ld.assembleNonOptionalTlv numNeedBrMac info data else data
  let remainLen := broadcastMaxLen - data.length - 1
  let validLen := min remainLen (info.devName.length + 1)
  (assembleTLV data .deviceName (ld.getDeviceName validLen ++ [0])).2

end LocalDevice

def buildBleConfigAdvData (broadcastData : List UInt8) : Except SoftbusRet BroadcastPacket :=
  let rspData := broadcastData.drop advDataMaxLen
  if respDataMaxLen < rspData.length then .error .memErr
  else .ok ⟨broadcastData.take advDataMaxLen, rspData⟩

end SoftBus
