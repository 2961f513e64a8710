import SoftBus.Common
import SoftBus.Lib.Truncate

/-!
# The fields of a BLE broadcast

`disc_ble_utils.c`: a broadcast is a head of fixed size and a sequence of fields. A byte before each field has its type and its
length. A length above 15 is not told, and such a field ends with its first zero. `mbstowcs` and `wctomb` are the
UTF-8 codec.
-/

namespace SoftBus

def advDataMaxLen : Nat := 24

def respDataMaxLen : Nat := 26

def broadcastMaxLen : Nat := advDataMaxLen + respDataMaxLen

def discMaxDeviceNameLen : Nat := 65

def discMaxDeviceIdLen : Nat := 96

def discMaxCustDataLen : Nat := 513

def maxAccountHashLen : Nat := 96

def wideStrMaxLen : Nat := 128

def posTlv : Nat := 7

def tlvMaxDataLen : Nat := 15

inductive TlvType where
  | deviceIdHash | deviceType | deviceName | cust | brMac | rangePower
deriving DecidableEq

def TlvType.toUInt8 : TlvType → UInt8
  | .deviceIdHash => 1
  | .deviceType => 2
  | .deviceName => 3
  | .cust => 4
  | .brMac => 5
  | .rangePower => 6

def TlvType.ofUInt8 (type : UInt8) : Option TlvType :=
  [.deviceIdHash, .deviceType, .deviceName, .cust, .brMac, .rangePower].find? (·.toUInt8 = type)

/-! ## The device name -/

def utf8Len (c : Char) : Nat := (String.utf8EncodeChar c).length

def utf8 (chars : List Char) : List UInt8 := chars.flatMap String.utf8EncodeChar

structure DeviceName where
  chars : List Char
  noNul : '\x00' ∉ chars
  short : (utf8 chars).length ≤ 127

def mbstowcs (multiByteStr : List UInt8) : Option (List Char) :=
  multiByteStr.toByteArray.utf8Decode?.map Array.toList

def calculateMbsTruncateSize (multiByteStr : List UInt8) (capacity : Nat) : Except SoftbusRet Nat :=
  if multiByteStr.length = 0 then .ok 0
  else if wideStrMaxLen < multiByteStr.length then .error .invalidParam
  else
    match mbstowcs multiByteStr with
    -- `(size_t)-1` is not below 1, and no character is cut off
    | none => .ok multiByteStr.length
    | some [] => .error .err
    | some wideStr =>
      .ok (multiByteStr.length - Truncate.cutEnd utf8Len capacity multiByteStr.length wideStr.reverse 0)

def discBleGetDeviceName (localDevName : List UInt8) (size : Nat) : Except SoftbusRet (List UInt8) :=
  if size = 0 then .error .invalidParam
  else
    match calculateMbsTruncateSize localDevName (size - 1) with
    | .error _ => .error .err
    | .ok truncateLen =>
      if size < (localDevName.take truncateLen).length then .error .memErr else .ok (localDevName.take truncateLen)

/-! ## Fields are written -/

def tlvHead (dataType : TlvType) (dataLen : Nat) : UInt8 :=
  (dataType.toUInt8 <<< 4) &&& 0xF0 ||| if dataLen ≤ tlvMaxDataLen then UInt8.ofNat dataLen &&& 0x0F else 0

def assembleTLV (data : List UInt8) (dataType : TlvType) (value : List UInt8) : SoftbusRet × List UInt8 :=
  let remainLen := broadcastMaxLen - data.length
  if remainLen = 0 then (.err, data)
  else
    let validLen := min value.length (remainLen - 1)
    -- `memcpy_s` takes no destination of size 0
    (if validLen = 0 then .memErr else .ok, data ++ tlvHead dataType value.length :: value.take validLen)

/-! ## Fields are read -/

def hexDigit (alpha n : UInt8) : UInt8 := if n < 10 then 48 + n else alpha + n - 10

def hexByte (alpha b : UInt8) : List UInt8 := [hexDigit alpha (b / 16), hexDigit alpha (b % 16)]

def convertBytesToHexString (outBuf : List UInt8) (outBufLen : Nat) (inBuf : List UInt8) : Option (List UInt8) :=
  if outBufLen < inBuf.length * 2 + 1 then none
  else some (inBuf.flatMap (hexByte 97) ++ outBuf.drop (inBuf.length * 2))

def convertBytesToUpperCaseHexString (inBuf : List UInt8) : List UInt8 := inBuf.flatMap (hexByte 65)

def macToStr (binMac : List UInt8) : List UInt8 :=
  List.intercalate [58] ((binMac.take 6).map (hexByte 97))

def convertBtMacToStr (binMac : List UInt8) : Except SoftbusRet (List UInt8) :=
  if binMac.length < 6 then .error .invalidParam else .ok (macToStr binMac)

/-- `DeviceWrapper` with its `DeviceInfo`. Address 0 is the BLE address, those after it are BR addresses. -/
structure DeviceWrapper where
  devId : List UInt8
  accountHash : List UInt8
  devType : Nat
  devName : List UInt8
  udidHash : List UInt8
  brMacs : List (List UInt8)
  capabilityBitmap : UInt32
  custData : List UInt8
  power : Int8

/-- What cJSON prints for an object with this text under `castPlus`, or the error of the call that fails. -/
abbrev CustJson := List UInt8 → Except SoftbusRet (List UInt8)

namespace DeviceWrapper

def found : DeviceWrapper :=
  { devId := List.replicate discMaxDeviceIdLen 0
    accountHash := List.replicate maxAccountHashLen 0
    devType := 0
    devName := List.replicate discMaxDeviceNameLen 0
    udidHash := List.replicate udidHashLen 0
    brMacs := []
    capabilityBitmap := 0
    custData := List.replicate discMaxCustDataLen 0
    -- `SOFTBUS_ILLEGAL_BLE_POWER`
    power := 11 }

variable (custJson : CustJson) (device : DeviceWrapper)

def copyBrAddrValue (src : List UInt8) : Except SoftbusRet DeviceWrapper :=
  match convertBtMacToStr src with
  | .error ret => .error ret
  | .ok brMac => .ok { device with brMacs := device.brMacs ++ [brMac] }

def copyDeviceIdHashValue (data : List UInt8) : Except SoftbusRet DeviceWrapper :=
  match memcpyS device.udidHash 0 discMaxDeviceIdLen data with
  | none => .error .err
  | some udidHash =>
    match convertBytesToHexString device.devId discMaxDeviceIdLen (udidHash.take data.length) with
    | none => .error .err
    | some devId => .ok { device with udidHash, devId }

def copyDeviceNameValue (data : List UInt8) : Except SoftbusRet DeviceWrapper :=
  match memcpyS device.devName 0 discMaxDeviceNameLen data with
  | none => .error .err
  | some devName => .ok { device with devName }

def parseDeviceType (data : List UInt8) : Except SoftbusRet DeviceWrapper :=
  match memcpyS [0, 0] 0 2 data with
  | none => .error .err
  | some recvDevType => .ok { device with devType := Bytes.get (recvDevType.take (if data.length = 2 then 2 else 1)) }

def copyPowerValue (data : List UInt8) : Except SoftbusRet DeviceWrapper :=
  match memcpyS [device.power.toUInt8] 0 1 data with
  | none => .error .memErr
  | some power => .ok { device with power := (power.headD 0).toInt8 }

/-- `first` is `data[0]`, which is there also if the length is 0. -/
def parseCustData (first : UInt8) (data : List UInt8) : Except SoftbusRet DeviceWrapper :=
  if first ≠ 1 then .ok device
  else
    let custString := convertBytesToUpperCaseHexString data
    match custJson (custString.drop 2) with
    | .error ret => .error ret
    | .ok custData =>
      match memcpyS device.custData 0 discMaxCustDataLen (custData ++ [0]) with
      | none => .error .err
      | some custData => .ok { device with custData }

def deviceNameLen (len : Nat) (rest : List UInt8) : Nat :=
  if len = 0 then min ((cString rest).length + 1) rest.length else len

/-- One field, with what lies behind its head. The length is the one the cursor moves by. -/
def parseTlv (type : Option TlvType) (len : Nat) (rest : List UInt8) : Except SoftbusRet DeviceWrapper × Nat :=
  match type with
  | some .deviceIdHash => (device.copyDeviceIdHashValue (rest.take len), len)
  | some .deviceType => (device.parseDeviceType (rest.take len), len)
  | some .deviceName => (device.copyDeviceNameValue (rest.take (deviceNameLen len rest)), deviceNameLen len rest)
  | some .cust => (device.parseCustData custJson (rest.headD 0) (rest.take len), len)
  | some .brMac => (device.copyBrAddrValue (rest.take len), len)
  | some .rangePower => (device.copyPowerValue (rest.take len), len)
  | none => (.ok device, len)

def parseRecvTlvs (custJson : CustJson) (device : DeviceWrapper) : List UInt8 → Except SoftbusRet DeviceWrapper
  | [] => .ok device
  | head :: rest =>
    let type := TlvType.ofUInt8 ((head &&& 0xF0) >>> 4)
    let len := (head &&& 0x0F).toNat
    if rest.length < len ∨ len = 0 ∧ rest.length = 0 then .error .err
    else
      match device.parseTlv custJson type len rest with
      | (.error ret, _) => .error ret
      | (.ok device, len) => parseRecvTlvs custJson device (rest.drop len)
termination_by data => data.length
decreasing_by
  rw [List.length_drop, List.length_cons]
  omega

end DeviceWrapper

structure BroadcastPacket where
  bcData : List UInt8
  rspData : List UInt8

def getDeviceInfoFromDisAdvData (custJson : CustJson) (device : DeviceWrapper) (packet : BroadcastPacket) :
    Except SoftbusRet DeviceWrapper :=
  let bcLen := packet.bcData.length
  let rspLen := packet.rspData.length
  if advDataMaxLen < bcLen ∨ bcLen < posTlv ∨ respDataMaxLen < rspLen then .error .invalidParam
  else
    match memcpyS device.accountHash 0 2 ((packet.bcData.drop 3).take 2) with
    | none => .error .memErr
    | some accountHash =>
      let device := { device with accountHash, capabilityBitmap := (packet.bcData.getD 5 0).toUInt32 }
      if bcLen - posTlv = 0 then .ok device
      else device.parseRecvTlvs custJson (packet.bcData.drop posTlv ++ packet.rspData)

end SoftBus
