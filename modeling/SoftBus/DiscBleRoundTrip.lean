import Mathlib.Data.List.GetD
import SoftBus.DiscBleBroadcast

/-!
# A BLE broadcast is read back

Each field that is written is read back on its own, so the fields in a row are. The name comes last and takes what is
left of the broadcast.
-/

namespace SoftBus

/-! ## The name -/

theorem length_utf8 (chars : List Char) : (utf8 chars).length = Truncate.total utf8Len chars := by
  rw [utf8, List.length_flatMap]
  rfl

theorem mbstowcs_utf8 (chars : List Char) : mbstowcs (utf8 chars) = some chars := by
  have hdecode : (utf8 chars).toByteArray.utf8Decode? = some chars.toArray := List.utf8Decode?_utf8Encode
  rw [mbstowcs, hdecode]
  rfl

theorem utf8Len_le (c : Char) : utf8Len c ≤ 4 := by
  rw [utf8Len, String.length_utf8EncodeChar]
  exact Char.utf8Size_le_four c

theorem utf8Len_pos (c : Char) : 0 < utf8Len c := by
  rw [utf8Len, String.length_utf8EncodeChar]
  exact Char.utf8Size_pos c

theorem zero_notMem_utf8EncodeChar {c : Char} (h : c ≠ '\x00') : 0 ∉ String.utf8EncodeChar c := by
  have hne : c.val.toNat ≠ 0 := fun hz => h (Char.ext (UInt32.toNat_inj.mp hz))
  have hofNat : ∀ n : Nat, 0 < n → n < 256 → (0 : UInt8) ≠ UInt8.ofNat n := by
    intro n hpos hlt hz
    have hnat := congrArg UInt8.toNat hz
    rw [UInt8.toNat_ofNat', Nat.mod_eq_of_lt hlt] at hnat
    exact absurd hnat (Nat.ne_of_lt hpos)
  unfold String.utf8EncodeChar
  dsimp only
  split
  · exact List.not_mem_cons_of_ne_of_not_mem (hofNat _ (by omega) (by omega)) List.not_mem_nil
  · split
    · simp only [List.mem_cons, List.not_mem_nil, or_false, not_or]
      exact ⟨hofNat _ (by omega) (by omega), hofNat _ (by omega) (by omega)⟩
    · split
      · simp only [List.mem_cons, List.not_mem_nil, or_false, not_or]
        exact ⟨hofNat _ (by omega) (by omega), hofNat _ (by omega) (by omega), hofNat _ (by omega) (by omega)⟩
      · simp only [List.mem_cons, List.not_mem_nil, or_false, not_or]
        exact ⟨hofNat _ (by omega) (by omega), hofNat _ (by omega) (by omega), hofNat _ (by omega) (by omega),
          hofNat _ (by omega) (by omega)⟩

theorem zero_notMem_utf8 {chars : List Char} (h : '\x00' ∉ chars) : 0 ∉ utf8 chars := by
  intro hz
  obtain ⟨c, hc, hz⟩ := List.mem_flatMap.mp hz
  refine zero_notMem_utf8EncodeChar ?_ hz
  rintro rfl
  exact h hc

theorem utf8_take_of_start {chars p : List Char} (h : p <+: chars) : (utf8 chars).take (Truncate.total utf8Len p) = utf8 p := by
  obtain ⟨r, rfl⟩ := h
  rw [utf8, List.flatMap_append]
  exact List.take_left' (length_utf8 p)

theorem calculateMbsTruncateSize_utf8 (name : DeviceName) (capacity : Nat) : ∃ p,
    Truncate.Longest utf8Len capacity name.chars p ∧
      calculateMbsTruncateSize (utf8 name.chars) capacity = .ok (Truncate.total utf8Len p) := by
  have hlen := length_utf8 name.chars
  have hshort := name.short
  obtain ⟨p, hp, hcut⟩ := Truncate.cutEnd_longest utf8Len capacity name.chars.reverse 0
    (Truncate.total_reverse utf8Len name.chars)
  rw [List.reverse_reverse] at hp
  refine ⟨p, hp, ?_⟩
  unfold calculateMbsTruncateSize
  rw [mbstowcs_utf8]
  cases hchars : name.chars with
  | nil =>
    rw [hchars] at hp
    rw [List.prefix_nil.mp hp.start]
    rfl
  | cons c chars =>
    rw [hchars] at hlen hshort hcut
    have hpos : 0 < (utf8 (c :: chars)).length := by
      have := utf8Len_pos c
      rw [hlen, Truncate.total_cons]
      omega
    rw [if_neg (Nat.ne_of_gt hpos), if_neg (by unfold wideStrMaxLen; omega), hlen]
    exact congrArg Except.ok (by omega)

theorem discBleGetDeviceName_utf8 (name : DeviceName) {size : Nat} (h : 0 < size) : ∃ p,
    Truncate.Longest utf8Len (size - 1) name.chars p ∧ discBleGetDeviceName (utf8 name.chars) size = .ok (utf8 p) := by
  obtain ⟨p, hp, hsize⟩ := calculateMbsTruncateSize_utf8 name (size - 1)
  refine ⟨p, hp, ?_⟩
  have hfits := hp.fits
  rw [discBleGetDeviceName, if_neg (Nat.ne_of_gt h), hsize]
  dsimp only
  rw [utf8_take_of_start hp.start, length_utf8, if_neg (by omega)]

/-! ## One field -/

def tlv (dataType : TlvType) (value : List UInt8) : List UInt8 := tlvHead dataType value.length :: value

def optionTlv (dataType : TlvType) (value : Option (List UInt8)) : List UInt8 := value.elim [] (tlv dataType)

@[simp] theorem length_tlv (dataType : TlvType) (value : List UInt8) : (tlv dataType value).length = value.length + 1 := rfl

theorem assembleTLV_snd {data value : List UInt8} (dataType : TlvType) (h : data.length + value.length < broadcastMaxLen) :
    (assembleTLV data dataType value).2 = data ++ tlv dataType value := by
  rw [assembleTLV, if_neg (by omega)]
  dsimp only
  rw [Nat.min_eq_left (by omega), List.take_length]
  rfl

theorem assembleOption_eq {data : List UInt8} {value : Option (List UInt8)} (dataType : TlvType)
    (h : ∀ v ∈ value, data.length + v.length < broadcastMaxLen) :
    LocalDevice.assembleOption data dataType value = data ++ optionTlv dataType value := by
  cases value with
  | none => exact (List.append_nil data).symm
  | some v => exact assembleTLV_snd dataType (h v rfl)

theorem tlvHead_type (dataType : TlvType) (n : Fin 16) :
    TlvType.ofUInt8 ((tlvHead dataType n &&& 0xF0) >>> 4) = some dataType ∧
      (tlvHead dataType n &&& 0x0F).toNat = n := by
  revert n
  cases dataType <;> decide +kernel

def toldLen (n : Nat) : Nat := if n ≤ tlvMaxDataLen then n else 0

theorem tlvHead_toldLen (dataType : TlvType) (n : Nat) : tlvHead dataType n = tlvHead dataType (toldLen n) := by
  unfold toldLen
  split
  · rfl
  case isFalse h =>
    unfold tlvHead
    rw [if_neg h]
    rfl

theorem toldLen_lt (n : Nat) : toldLen n < 16 := by
  unfold toldLen tlvMaxDataLen
  split <;> omega

namespace DeviceWrapper

section
variable {custJson : CustJson} (device : DeviceWrapper) (rest : List UInt8)

theorem parseRecvTlvs_nil : device.parseRecvTlvs custJson [] = .ok device := by rw [parseRecvTlvs]

theorem parseRecvTlvs_tlv {dataType : TlvType} {value : List UInt8} {device' : DeviceWrapper} (hne : value ≠ [])
    (h : device.parseTlv custJson (some dataType) (toldLen value.length) (value ++ rest) = (.ok device', value.length)) :
    device.parseRecvTlvs custJson (tlv dataType value ++ rest) = device'.parseRecvTlvs custJson rest := by
  obtain ⟨htype, hlen⟩ := tlvHead_type dataType ⟨toldLen value.length, toldLen_lt _⟩
  dsimp only at htype hlen
  have hpos : 0 < value.length := List.length_pos_of_ne_nil hne
  have htold : toldLen value.length ≤ value.length := by
    unfold toldLen
    split <;> omega
  rw [tlv, tlvHead_toldLen, List.cons_append, parseRecvTlvs]
  rw [htype, hlen, h, List.length_append, if_neg (by omega)]
  dsimp only
  rw [List.drop_left]

section
variable {value : List UInt8} (hne : value ≠ []) (hshort : value.length ≤ tlvMaxDataLen)
include hne hshort

theorem parseRecvTlvs_deviceIdHash :
    device.parseRecvTlvs custJson (tlv .deviceIdHash value ++ rest) = parseRecvTlvs custJson { device with
      udidHash := value ++ device.udidHash.drop value.length
      devId := value.flatMap (hexByte 97) ++ device.devId.drop (value.length * 2) } rest := by
  refine parseRecvTlvs_tlv device rest hne ?_
  rw [toldLen, if_pos hshort, parseTlv, List.take_left, copyDeviceIdHashValue, memcpyS,
    if_neg (by unfold tlvMaxDataLen at hshort; unfold discMaxDeviceIdLen; omega)]
  dsimp only
  rw [List.take_zero, List.nil_append, Nat.zero_add, List.take_left, convertBytesToHexString,
    if_neg (by unfold tlvMaxDataLen at hshort; unfold discMaxDeviceIdLen; omega)]

theorem parseRecvTlvs_brMac (hmac : value.length = 6) :
    device.parseRecvTlvs custJson (tlv .brMac value ++ rest) =
      parseRecvTlvs custJson { device with brMacs := device.brMacs ++ [macToStr value] } rest := by
  refine parseRecvTlvs_tlv device rest hne ?_
  rw [toldLen, if_pos hshort, parseTlv, List.take_left, copyBrAddrValue, convertBtMacToStr, if_neg (by omega)]

end

theorem parseRecvTlvs_deviceType (devType : UInt16) :
    device.parseRecvTlvs custJson (tlv .deviceType (LocalDevice.sendDevType devType) ++ rest) =
      parseRecvTlvs custJson { device with devType := devType.toNat } rest := by
  have hlt : devType.toNat < 65536 := devType.toNat_lt
  unfold LocalDevice.sendDevType
  split
  case isTrue h =>
    refine parseRecvTlvs_tlv device rest nofun ?_
    change (parseDeviceType device (Bytes.put 2 devType.toNat), 2) = _
    have hget : Bytes.get (Bytes.put 2 devType.toNat) = devType.toNat := by
      rw [Bytes.get_put, Nat.mod_eq_of_lt (by omega)]
    rw [parseDeviceType]
    exact congrArg (fun n => (Except.ok { device with devType := n }, 2)) hget
  case isFalse h =>
    refine parseRecvTlvs_tlv device rest nofun ?_
    change (parseDeviceType device (Bytes.put 1 devType.toNat), 1) = _
    have hget : Bytes.get (Bytes.put 1 devType.toNat) = devType.toNat := by
      rw [Bytes.get_put, Nat.mod_eq_of_lt (by omega)]
    rw [parseDeviceType]
    exact congrArg (fun n => (Except.ok { device with devType := n }, 1)) hget

theorem parseRecvTlvs_rangePower (power : Int8) :
    device.parseRecvTlvs custJson (tlv .rangePower [power.toUInt8] ++ rest) =
      parseRecvTlvs custJson { device with power } rest :=
  parseRecvTlvs_tlv device rest nofun rfl

theorem parseRecvTlvs_deviceName {name : List UInt8} (hnul : 0 ∉ name) (hshort : name.length < discMaxDeviceNameLen) :
    device.parseRecvTlvs custJson (tlv .deviceName (name ++ [0])) =
      .ok { device with devName := name ++ [0] ++ device.devName.drop (name.length + 1) } := by
  have hlen : (name ++ [0]).length = name.length + 1 := by rw [List.length_append, List.length_singleton]
  have hname : deviceNameLen (toldLen (name ++ [0]).length) (name ++ [0]) = (name ++ [0]).length := by
    unfold toldLen deviceNameLen
    rw [cString_append hnul, hlen, Nat.min_self]
    split <;> rfl
  rw [← List.append_nil (tlv _ _), parseRecvTlvs_tlv device [] (by simp) ?_, parseRecvTlvs_nil]
  rw [List.append_nil, parseTlv, hname, List.take_length, copyDeviceNameValue, memcpyS,
    if_neg (by rw [hlen]; unfold discMaxDeviceNameLen at hshort ⊢; omega), hlen, List.take_zero, List.nil_append,
    Nat.zero_add]

end

end DeviceWrapper

/-! ## The broadcast -/

namespace LocalDevice

section
variable {custJson : CustJson} (ld : LocalDevice) (isWakeRemote : Bool) (numNeedBrMac : Nat) (info : AdvDeviceInfo)
  (advId : AdvId)

def nameRoom : Nat :=
  broadcastMaxLen - (posTlv + (1 + 8) + (1 + (sendDevType info.devType).length) +
    (if (ld.sentBrAddr advId numNeedBrMac).isSome then 1 + 6 else 0) +
    (if (ld.sentPower advId info.range).isSome then 1 + 1 else 0)) - 2

def brField : List UInt8 := optionTlv .brMac ((ld.sentBrAddr advId numNeedBrMac).map Vector.toList)

def powerField : List UInt8 := optionTlv .rangePower ((ld.sentPower advId info.range).map fun power => [power.toUInt8])

theorem length_brField :
    (ld.brField numNeedBrMac advId).length = if (ld.sentBrAddr advId numNeedBrMac).isSome then 1 + 6 else 0 := by
  unfold brField
  cases ld.sentBrAddr advId numNeedBrMac with
  | none => rfl
  | some addr => simp [optionTlv]

theorem length_powerField :
    (ld.powerField info advId).length = if (ld.sentPower advId info.range).isSome then 1 + 1 else 0 := by
  unfold powerField
  cases ld.sentPower advId info.range <;> rfl

theorem length_sendDevType (devType : UInt16) : (sendDevType devType).length ≤ 2 := by
  unfold sendDevType
  split <;> simp

theorem assembleNonOptionalTlv_eq {data : List UInt8} (h : data.length ≤ 19) :
    (if advId = .non then ld.assembleNonOptionalTlv numNeedBrMac info data else data) =
      data ++ ld.brField numNeedBrMac advId ++ ld.powerField info advId := by
  cases advId with
  | con => simp [brField, powerField, sentBrAddr, sentPower, optionTlv]
  | non =>
    have hbr : (ld.brField numNeedBrMac .non).length ≤ 7 := by
      rw [length_brField]
      split <;> omega
    rw [if_pos rfl, assembleNonOptionalTlv, assembleOption_eq .brMac, assembleOption_eq .rangePower]
    · rfl
    · intro v hv
      obtain ⟨power, -, rfl⟩ := Option.mem_map.mp hv
      change (data ++ ld.brField numNeedBrMac .non).length + 1 < 50
      rw [List.length_append]
      omega
    · intro v hv
      obtain ⟨addr, -, rfl⟩ := Option.mem_map.mp hv
      rw [Vector.length_toList]
      change data.length + 6 < 50
      omega

theorem getDeviceName_longest (size : Nat) (h : 0 < size) : ∃ p,
    Truncate.Longest utf8Len (size - 1) ld.name.chars p ∧ ld.getDeviceName size = utf8 p := by
  obtain ⟨p, hp, hname⟩ := discBleGetDeviceName_utf8 ld.name h
  refine ⟨p, hp, ?_⟩
  rw [getDeviceName, hname]

theorem getDeviceName_room {room : Nat} (hroom : room ≤ 60) : ∃ p, Truncate.Longest utf8Len room ld.name.chars p ∧
    ld.getDeviceName (min (room + 1) ((ld.getDeviceName discMaxDeviceNameLen).length + 1)) = utf8 p := by
  obtain ⟨q, hq, hshort⟩ := ld.getDeviceName_longest discMaxDeviceNameLen (by decide)
  obtain ⟨p, hp, hname⟩ := ld.getDeviceName_longest (min (room + 1) ((utf8 q).length + 1)) (by omega)
  rw [hshort]
  refine ⟨p, ?_, hname⟩
  have hsize : min (room + 1) ((utf8 q).length + 1) - 1 = min room (Truncate.total utf8Len q) := by
    rw [length_utf8]
    omega
  rw [hsize] at hp
  rcases hq.full utf8Len _ utf8Len_le with rfl | hfull
  · exact hp.of_min
  · rw [Nat.min_eq_left (by unfold discMaxDeviceNameLen at hfull; omega)] at hp
    exact hp

def fieldsBefore : List UInt8 :=
  tlv .deviceIdHash ld.deviceIdHash.toList ++ tlv .deviceType (sendDevType info.devType) ++
    ld.brField numNeedBrMac advId ++ ld.powerField info advId

theorem length_assembleBroadcastData : (ld.assembleBroadcastData isWakeRemote info advId).length = posTlv := by
  simp [assembleBroadcastData, posTlv]

theorem assembleBroadcastData_accountHash :
    ((ld.assembleBroadcastData isWakeRemote info advId).drop 3).take 2 = (ld.sentAccountHash advId info).toList := by
  change ((ld.sentAccountHash advId info).toList ++ [_, _]).take 2 = _
  exact List.take_left' Vector.length_toList

theorem assembleBroadcastData_capability :
    (ld.assembleBroadcastData isWakeRemote info advId).getD 5 0 = info.capabilityBitmap.toUInt8 := by
  have hlength : (ld.sentAccountHash advId info).toList.length = 2 := Vector.length_toList
  change ((ld.sentAccountHash advId info).toList ++ [_, _]).getD 2 0 = _
  rw [List.getD_append_right _ _ _ _ (by omega), hlength]
  rfl

theorem assembled_eq :
    (let data := ld.assembleBroadcastData isWakeRemote info advId
      let data := (assembleTLV data .deviceIdHash ld.deviceIdHash.toList).2
      let data := (assembleTLV data .deviceType (sendDevType info.devType)).2
      if advId = .non then ld.assembleNonOptionalTlv numNeedBrMac info data else data) =
      ld.assembleBroadcastData isWakeRemote info advId ++ ld.fieldsBefore numNeedBrMac info advId := by
  have htype := length_sendDevType info.devType
  have hhead := ld.length_assembleBroadcastData isWakeRemote info advId
  have hid : (ld.assembleBroadcastData isWakeRemote info advId ++ tlv .deviceIdHash ld.deviceIdHash.toList).length = 16 := by
    rw [List.length_append, hhead, length_tlv, Vector.length_toList]
    rfl
  dsimp only
  rw [assembleTLV_snd .deviceIdHash (by rw [hhead, Vector.length_toList]; decide),
    assembleTLV_snd .deviceType (by rw [hid, broadcastMaxLen, advDataMaxLen, respDataMaxLen]; omega),
    assembleNonOptionalTlv_eq _ _ _ _ (by rw [List.length_append, hid, length_tlv]; omega)]
  simp only [fieldsBefore, List.append_assoc]

theorem length_fieldsBefore :
    posTlv + (ld.fieldsBefore numNeedBrMac info advId).length + 2 + ld.nameRoom numNeedBrMac info advId =
      broadcastMaxLen := by
  have htype := length_sendDevType info.devType
  unfold fieldsBefore nameRoom
  simp only [List.length_append, length_tlv, Vector.length_toList, length_brField, length_powerField]
  unfold broadcastMaxLen advDataMaxLen respDataMaxLen posTlv
  split <;> split <;> omega

variable {info} in
theorem getBroadcastData_eq (hname : info.devName = ld.getDeviceName discMaxDeviceNameLen) : ∃ p,
    Truncate.Longest utf8Len (ld.nameRoom numNeedBrMac info advId) ld.name.chars p ∧
      ld.getBroadcastData isWakeRemote numNeedBrMac info advId =
        ld.assembleBroadcastData isWakeRemote info advId ++ (ld.fieldsBefore numNeedBrMac info advId ++
          tlv .deviceName (utf8 p ++ [0])) := by
  have hlen := ld.length_fieldsBefore numNeedBrMac info advId
  have hdata : (ld.assembleBroadcastData isWakeRemote info advId ++ ld.fieldsBefore numNeedBrMac info advId).length =
      posTlv + (ld.fieldsBefore numNeedBrMac info advId).length := by
    rw [List.length_append, length_assembleBroadcastData]
  have hmax : broadcastMaxLen = 50 := rfl
  have hroom : ld.nameRoom numNeedBrMac info advId ≤ 60 := by omega
  obtain ⟨p, hp, hshort⟩ := ld.getDeviceName_room hroom
  refine ⟨p, hp, ?_⟩
  have hfits := hp.fits
  have hremain : broadcastMaxLen - (posTlv + (ld.fieldsBefore numNeedBrMac info advId).length) - 1 =
      ld.nameRoom numNeedBrMac info advId + 1 := by omega
  have hall := ld.assembled_eq isWakeRemote numNeedBrMac info advId
  dsimp only at hall
  unfold getBroadcastData
  dsimp only
  rw [hall, hdata, hremain, hname, hshort, assembleTLV_snd, List.append_assoc]
  rw [hdata, List.length_append, List.length_singleton, length_utf8]
  omega

/-! ## The broadcast is read -/

theorem parseRecvTlvs_brField (device : DeviceWrapper) (rest : List UInt8) :
    device.parseRecvTlvs custJson (ld.brField numNeedBrMac advId ++ rest) = DeviceWrapper.parseRecvTlvs custJson { device with
      brMacs := device.brMacs ++ ((ld.sentBrAddr advId numNeedBrMac).map (macToStr ·.toList)).toList } rest := by
  unfold brField
  cases ld.sentBrAddr advId numNeedBrMac with
  | none =>
    change device.parseRecvTlvs custJson rest =
      DeviceWrapper.parseRecvTlvs custJson { device with brMacs := device.brMacs ++ [] } rest
    rw [List.append_nil]
  | some addr =>
    have hlength : addr.toList.length = 6 := Vector.length_toList
    have hne : addr.toList ≠ [] := fun hnil => by simp [hnil] at hlength
    exact device.parseRecvTlvs_brMac rest hne (by rw [hlength]; decide) hlength

theorem parseRecvTlvs_powerField (device : DeviceWrapper) (rest : List UInt8) :
    device.parseRecvTlvs custJson (ld.powerField info advId ++ rest) = DeviceWrapper.parseRecvTlvs custJson { device with
      power := (ld.sentPower advId info.range).getD device.power } rest := by
  unfold powerField
  cases ld.sentPower advId info.range with
  | none => rfl
  | some power => exact device.parseRecvTlvs_rangePower rest power

theorem parseRecvTlvs_fieldsBefore (device : DeviceWrapper) (rest : List UInt8) :
    device.parseRecvTlvs custJson (ld.fieldsBefore numNeedBrMac info advId ++ rest) =
      DeviceWrapper.parseRecvTlvs custJson { device with
      udidHash := ld.deviceIdHash.toList ++ device.udidHash.drop 8
      devId := ld.deviceIdHash.toList.flatMap (hexByte 97) ++ device.devId.drop 16
      devType := info.devType.toNat
      brMacs := device.brMacs ++ ((ld.sentBrAddr advId numNeedBrMac).map (macToStr ·.toList)).toList
      power := (ld.sentPower advId info.range).getD device.power } rest := by
  have hlength : ld.deviceIdHash.toList.length = 8 := Vector.length_toList
  have hne : ld.deviceIdHash.toList ≠ [] := fun hnil => by simp [hnil] at hlength
  rw [fieldsBefore, List.append_assoc, List.append_assoc, List.append_assoc,
    device.parseRecvTlvs_deviceIdHash _ hne (by rw [hlength]; decide), DeviceWrapper.parseRecvTlvs_deviceType,
    parseRecvTlvs_brField, parseRecvTlvs_powerField, hlength]

end

end LocalDevice

theorem buildBleConfigAdvData_ok {data : List UInt8} (h : data.length ≤ broadcastMaxLen) :
    buildBleConfigAdvData data = .ok ⟨data.take advDataMaxLen, data.drop advDataMaxLen⟩ := by
  unfold broadcastMaxLen at h
  rw [buildBleConfigAdvData, List.length_drop, if_neg (by omega)]

theorem hexDigit_ne_zero {n : UInt8} (h : n < 16) : hexDigit 97 n ≠ 0 := by
  have hlt : n.toNat < 16 := h
  intro hz
  have hnat := congrArg UInt8.toNat hz
  unfold hexDigit at hnat
  split at hnat
  · rw [UInt8.toNat_add] at hnat
    change (48 + n.toNat) % 256 = 0 at hnat
    omega
  · rw [UInt8.toNat_sub, UInt8.toNat_add] at hnat
    change (256 - 10 + (97 + n.toNat) % 256) % 256 = 0 at hnat
    omega

theorem zero_notMem_hexByte (b : UInt8) : 0 ∉ hexByte 97 b := by
  have hb := b.toNat_lt
  have hdiv : b / 16 < 16 := by
    change (b / 16).toNat < 16
    rw [UInt8.toNat_div]
    change b.toNat / 16 < 16
    omega
  have hmod : b % 16 < 16 := by
    change (b % 16).toNat < 16
    rw [UInt8.toNat_mod]
    exact Nat.mod_lt _ (by decide)
  simp only [hexByte, List.mem_cons, List.not_mem_nil, or_false, not_or]
  exact ⟨(hexDigit_ne_zero hdiv).symm, (hexDigit_ne_zero hmod).symm⟩

theorem zero_notMem_hex (l : List UInt8) : 0 ∉ l.flatMap (hexByte 97) := by
  intro hz
  obtain ⟨b, -, hz⟩ := List.mem_flatMap.mp hz
  exact zero_notMem_hexByte b hz

theorem getDeviceInfoFromDisAdvData_cut (custJson : CustJson) (device : DeviceWrapper) {head fields : List UInt8}
    (hhead : head.length = posTlv) (hpos : 0 < fields.length) (hmax : head.length + fields.length ≤ broadcastMaxLen) :
    getDeviceInfoFromDisAdvData custJson device ⟨(head ++ fields).take advDataMaxLen, (head ++ fields).drop advDataMaxLen⟩ =
      DeviceWrapper.parseRecvTlvs custJson { device with
        accountHash := (head.drop 3).take 2 ++ device.accountHash.drop 2
        capabilityBitmap := (head.getD 5 0).toUInt32 } fields := by
  have hadv : advDataMaxLen = 24 := rfl
  have htlv : posTlv = 7 := rfl
  have htotal : broadcastMaxLen = advDataMaxLen + respDataMaxLen := rfl
  have htake : (head ++ fields).take advDataMaxLen = head ++ fields.take (advDataMaxLen - posTlv) := by
    rw [List.take_append, List.take_of_length_le (by omega), hhead]
  have hrest : fields.take (advDataMaxLen - posTlv) ++ (head ++ fields).drop advDataMaxLen = fields := by
    rw [List.drop_append, List.drop_eq_nil_of_le (by omega), List.nil_append, hhead, List.take_append_drop]
  have hhash : ((head ++ fields.take (advDataMaxLen - posTlv)).drop 3).take 2 = (head.drop 3).take 2 := by
    rw [List.drop_append_of_le_length (by omega), List.take_append_of_le_length (by rw [List.length_drop]; omega)]
  have hhash2 : ((head.drop 3).take 2).length = 2 := by
    rw [List.length_take, List.length_drop]
    omega
  have hcap : (head ++ fields.take (advDataMaxLen - posTlv)).getD 5 0 = head.getD 5 0 :=
    List.getD_append _ _ _ _ (by omega)
  have hdrop : (head ++ fields.take (advDataMaxLen - posTlv)).drop posTlv = fields.take (advDataMaxLen - posTlv) := by
    rw [← hhead, List.drop_left]
  have hbc : (head ++ fields.take (advDataMaxLen - posTlv)).length = posTlv + min (advDataMaxLen - posTlv) fields.length := by
    rw [List.length_append, List.length_take, hhead]
  have hrsp : ((head ++ fields).drop advDataMaxLen).length ≤ respDataMaxLen := by
    rw [List.length_drop, List.length_append]
    omega
  rw [getDeviceInfoFromDisAdvData, htake]
  dsimp only
  rw [if_neg (by omega), hhash, memcpyS, if_neg (by omega)]
  dsimp only
  rw [if_neg (by omega), hcap, hdrop, hrest, hhash2, List.take_zero, List.nil_append]

/-- What was sent is found. -/
theorem ble_broadcast_round_trip (custJson : CustJson) (ld : LocalDevice) (advId : AdvId) (isWakeRemote : Bool)
    (numNeedBrMac : Nat) (devType : UInt16) (accountHash : Vector UInt8 2) (capability : UInt8) (range : Int) :
    let devName := ld.getDeviceName discMaxDeviceNameLen
    let info : AdvDeviceInfo := ⟨devName, devType, accountHash, capability.toUInt32, range⟩
    ∃ packet device name,
      buildBleConfigAdvData (ld.getBroadcastData isWakeRemote numNeedBrMac info advId) = .ok packet ∧
      getDeviceInfoFromDisAdvData custJson .found packet = .ok device ∧
      cString device.devId = ld.deviceIdHash.toList.flatMap (hexByte 97) ∧
      device.devType = devType.toNat ∧
      device.accountHash.take 2 = (ld.sentAccountHash advId info).toList ∧
      device.capabilityBitmap = capability.toUInt32 ∧
      device.brMacs = ((ld.sentBrAddr advId numNeedBrMac).map (macToStr ·.toList)).toList ∧
      device.power = (ld.sentPower advId range).getD DeviceWrapper.found.power ∧
      Truncate.Longest utf8Len (ld.nameRoom numNeedBrMac info advId) ld.name.chars name ∧
      cString device.devName = utf8 name := by
  intro devName info
  obtain ⟨p, hp, hdata⟩ := ld.getBroadcastData_eq isWakeRemote numNeedBrMac advId (show info.devName = _ from rfl)
  have hhead := ld.length_assembleBroadcastData isWakeRemote info advId
  have hlen := ld.length_fieldsBefore numNeedBrMac info advId
  have hfits := hp.fits
  have hnul : 0 ∉ utf8 p := zero_notMem_utf8 fun hmem => ld.name.noNul (hp.start.subset hmem)
  have hname : (utf8 p ++ [0]).length = Truncate.total utf8Len p + 1 := by
    rw [List.length_append, List.length_singleton, length_utf8]
  have hfields : (ld.fieldsBefore numNeedBrMac info advId ++ tlv .deviceName (utf8 p ++ [0])).length =
      (ld.fieldsBefore numNeedBrMac info advId).length + Truncate.total utf8Len p + 2 := by
    rw [List.length_append, length_tlv, hname]
    omega
  have hshort : (utf8 p).length < discMaxDeviceNameLen := by
    rw [length_utf8]
    unfold discMaxDeviceNameLen broadcastMaxLen advDataMaxLen respDataMaxLen at *
    omega
  have hpos : 0 < (ld.fieldsBefore numNeedBrMac info advId ++ tlv .deviceName (utf8 p ++ [0])).length := by omega
  have hmax : (ld.assembleBroadcastData isWakeRemote info advId).length +
      (ld.fieldsBefore numNeedBrMac info advId ++ tlv .deviceName (utf8 p ++ [0])).length ≤ broadcastMaxLen := by omega
  have hread := getDeviceInfoFromDisAdvData_cut custJson .found hhead hpos hmax
  rw [LocalDevice.parseRecvTlvs_fieldsBefore, DeviceWrapper.parseRecvTlvs_deviceName _ hnul hshort] at hread
  rw [hdata]
  refine ⟨_, _, p, buildBleConfigAdvData_ok (by rw [List.length_append]; exact hmax), hread,
    cString_append (zero_notMem_hex _) _, rfl, ?_, ?_, rfl, rfl, hp, ?_⟩
  · dsimp only
    rw [LocalDevice.assembleBroadcastData_accountHash]
    exact List.take_left' Vector.length_toList
  · dsimp only
    rw [LocalDevice.assembleBroadcastData_capability]
    exact congrArg UInt8.toUInt32 (UInt8.toUInt8_toUInt32 capability)
  · dsimp only
    rw [List.append_assoc]
    exact cString_append hnul _

end SoftBus
