import SoftBus.AuthCommon

/-!
# The exchange of device infos

`PostDeviceInfoMessage` and `ProcessDeviceInfoMessage`. The text of the device info is
compressed if both ends can do so, encrypted under the key of the session and sent. Neither the
packet nor its head says to the receiver whether the text is compressed; the receiver decides by the
capability that was agreed on.
-/

namespace SoftBus

def trueStringTag : List UInt8 := [116, 114, 117, 101]

def falseStringTag : List UInt8 := [102, 97, 108, 115, 101]

/-- `SetCompressFlag`: the comparison stops at the end of `compressCapa`. -/
def setCompressFlag (feature : Bool) (compressCapa : List UInt8) : Bool :=
  feature && decide (compressCapa <+: trueStringTag)

/-- The text of a device info as the JSON library prints it, into a buffer of less than 2 GiB. -/
structure DeviceInfoText where
  chars : List UInt8
  text : 0 ∉ chars
  fits : chars.length + 1 < 2 ^ 31

def DeviceInfoText.bytes (msg : DeviceInfoText) : List UInt8 := msg.chars ++ [0]

structure AuthEnd (Key : Type) where
  connInfo : AuthConnInfo
  isServer : Bool
  isSupportCompress : Bool
  sessionKeyList : SessionKeyList Key

inductive DeviceInfoFlag where
  | uncompress | compress | relay
deriving DecidableEq

structure DeviceInfoPacket where
  seq : BitVec 64
  flag : DeviceInfoFlag
  data : List UInt8

inductive DeviceInfoRet where
  | err | encryptErr | decryptErr | authUnpackDevinfoFail
deriving DecidableEq

/-- `DataCompress` or `DataDecompress`: `none` if it does not return `SOFTBUS_OK`, the empty list if
it does and gives no data. -/
abbrev Codec := List UInt8 → Option (List UInt8)

section
variable {Key : Type} (gcm : AesGcm Key)

def getSessionKeyList (authSeq : BitVec 64) (info : AuthEnd Key) : SessionKeyList Key :=
  match getSessionKeyByIndex info.sessionKeyList (toInt32 authSeq) with
  | none => []
  | some key => addSessionKey [] (toInt32 authSeq) key

def AuthEnd.compresses (info : AuthEnd Key) : Bool := info.connInfo.type ≠ .wifi && info.isSupportCompress

/-- What is encrypted, and the flag of the packet. -/
def deviceInfoInput (compress : Codec) (info : AuthEnd Key) (msg : DeviceInfoText) : List UInt8 × DeviceInfoFlag :=
  if info.compresses then
    match compress msg.bytes with
    | none => (msg.bytes, .uncompress)
    | some [] => (msg.bytes, .compress)
    | some data => (data, .compress)
  else (msg.bytes, .uncompress)

def postDeviceInfoMessage (compress : Codec) (iv : List UInt8) (authSeq : BitVec 64) (info : AuthEnd Key)
    (msg : DeviceInfoText) : Except DeviceInfoRet DeviceInfoPacket :=
  let (inputData, compressFlag) := deviceInfoInput compress info msg
  match encryptInner gcm iv (getSessionKeyList authSeq info) inputData with
  | none => .error .encryptErr
  | some data =>
    if info.connInfo.type = .wifi ∧ info.isServer = true then .ok ⟨0, .relay, data⟩
    else .ok ⟨authSeq, compressFlag, data⟩

/-- `ProcessDeviceInfoMessage` after the decryption: the text that `UnpackDeviceInfoMessage` accepts. -/
def unpackDeviceInfo (decompress : Codec) (unpackDeviceInfoMessage : List UInt8 → Bool) (info : AuthEnd Key)
    (msg : List UInt8) : Except DeviceInfoRet (List UInt8) :=
  let unpack (devInfo : List UInt8) : Except DeviceInfoRet (List UInt8) :=
    if unpackDeviceInfoMessage devInfo then .ok devInfo else .error .authUnpackDevinfoFail
  if info.compresses then
    match decompress msg with
    | none => .error .err
    | some [] => unpack msg
    | some decompressData => unpack decompressData
  else unpack msg

def processDeviceInfoMessage (decompress : Codec) (unpackDeviceInfoMessage : List UInt8 → Bool) (authSeq : BitVec 64)
    (info : AuthEnd Key) (data : List UInt8) : Except DeviceInfoRet (List UInt8) :=
  match decryptInner gcm (getSessionKeyList authSeq info) data with
  | none => .error .decryptErr
  | some msg => unpackDeviceInfo decompress unpackDeviceInfoMessage info msg

def exchangeDeviceInfo (compress decompress : Codec) (unpackDeviceInfoMessage : List UInt8 → Bool) (iv : List UInt8)
    (authSeq : BitVec 64) (sender receiver : AuthEnd Key) (msg : DeviceInfoText) :
    Except DeviceInfoRet (List UInt8) :=
  match postDeviceInfoMessage gcm compress iv authSeq sender msg with
  | .error e => .error e
  | .ok packet => processDeviceInfoMessage gcm decompress unpackDeviceInfoMessage authSeq receiver packet.data

end

/-! ## When the text arrives -/

def Inverts (decompress compress : Codec) : Prop :=
  ∀ x data, x ≠ [] → data ≠ [] → compress x = some data → decompress data = some x

/-- Two ends of one connection after the authentication. -/
structure Agreed {Key : Type} (authSeq : BitVec 64) (sender receiver : AuthEnd Key) (key : Key) : Prop where
  type : sender.connInfo.type = receiver.connInfo.type
  isSupportCompress : sender.isSupportCompress = receiver.isSupportCompress
  senderKey : getSessionKeyByIndex sender.sessionKeyList (toInt32 authSeq) = some key
  receiverKey : getSessionKeyByIndex receiver.sessionKeyList (toInt32 authSeq) = some key

section
variable {Key : Type} {gcm : AesGcm Key} {compress decompress : Codec} {unpack : List UInt8 → Bool} {iv : List UInt8}
  {authSeq : BitVec 64} {sender receiver : AuthEnd Key} {key : Key} {msg : DeviceInfoText}

theorem DeviceInfoText.bytes_ne_nil (msg : DeviceInfoText) : msg.bytes ≠ [] := by simp [bytes]

theorem deviceInfoInput_ne_nil (compress : Codec) (info : AuthEnd Key) (msg : DeviceInfoText) :
    (deviceInfoInput compress info msg).1 ≠ [] := by
  unfold deviceInfoInput
  split
  · split
    · exact msg.bytes_ne_nil
    · exact msg.bytes_ne_nil
    · simpa using ‹_›
  · exact msg.bytes_ne_nil

theorem Agreed.compresses (h : Agreed authSeq sender receiver key) : sender.compresses = receiver.compresses := by
  simp only [AuthEnd.compresses, h.type, h.isSupportCompress]

theorem exchange_eq :
    exchangeDeviceInfo gcm compress decompress unpack iv authSeq sender receiver msg =
      match encryptInner gcm iv (getSessionKeyList authSeq sender) (deviceInfoInput compress sender msg).1 with
      | none => .error .encryptErr
      | some data => processDeviceInfoMessage gcm decompress unpack authSeq receiver data := by
  unfold exchangeDeviceInfo postDeviceInfoMessage
  dsimp only
  cases encryptInner gcm iv (getSessionKeyList authSeq sender) (deviceInfoInput compress sender msg).1 with
  | none => rfl
  | some data =>
    dsimp only
    by_cases hrelay : sender.connInfo.type = .wifi ∧ sender.isServer = true
    · rw [if_pos hrelay]
    · rw [if_neg hrelay]

theorem exchange_of_short (h : Agreed authSeq sender receiver key)
    (hshort : (deviceInfoInput compress sender msg).1.length + encryptOverHeadLen ≤ maxMallocSize) :
    exchangeDeviceInfo gcm compress decompress unpack iv authSeq sender receiver msg =
      unpackDeviceInfo decompress unpack receiver (deviceInfoInput compress sender msg).1 := by
  have hsender : getLatestSessionKey (getSessionKeyList authSeq sender) = some ⟨toInt32 authSeq, key⟩ := by
    rw [getSessionKeyList, h.senderKey]
    rfl
  have hreceiver : getSessionKeyByIndex (getSessionKeyList authSeq receiver) (toInt32 authSeq) = some key := by
    rw [getSessionKeyList, h.receiverKey]
    simp [addSessionKey, removeOldKey, sessionKeyMaxNum, getSessionKeyByIndex]
  obtain ⟨data, henc, hdec⟩ := encryptInner_of_fits gcm iv (deviceInfoInput_ne_nil compress sender msg) hsender hshort
    hreceiver
  rw [exchange_eq, henc]
  dsimp only
  rw [processDeviceInfoMessage, hdec]

theorem exchange_of_long (hlong : maxMallocSize < (deviceInfoInput compress sender msg).1.length + encryptOverHeadLen) :
    exchangeDeviceInfo gcm compress decompress unpack iv authSeq sender receiver msg = .error .encryptErr := by
  rw [exchange_eq, encryptInner_of_not_fits hlong]

theorem unpackDeviceInfo_compressed {data : List UInt8} (hcomp : receiver.compresses = true)
    (hdata : decompress data = some msg.bytes) (hunpack : unpack msg.bytes = true) :
    unpackDeviceInfo decompress unpack receiver data = .ok msg.bytes := by
  have hnil := msg.bytes_ne_nil
  unfold unpackDeviceInfo
  rw [if_pos hcomp, hdata]
  generalize msg.bytes = bytes at hnil hunpack ⊢
  cases bytes with
  | nil => exact absurd rfl hnil
  | cons x l => exact if_pos hunpack

theorem unpackDeviceInfo_raw (hcomp : receiver.compresses = true)
    (hraw : ¬ ∃ data, data ≠ [] ∧ compress msg.bytes = some data)
    (hrefuse : ∀ data x, decompress data = some x → x ≠ [] ∧ compress x = some data) :
    unpackDeviceInfo decompress unpack receiver msg.bytes ≠ .ok msg.bytes := by
  unfold unpackDeviceInfo
  rw [if_pos hcomp]
  cases hd : decompress msg.bytes with
  | none => simp
  | some x =>
    obtain ⟨hx, hcx⟩ := hrefuse _ _ hd
    have hne : x ≠ msg.bytes := by
      rintro rfl
      exact hraw ⟨_, hx, hcx⟩
    cases x with
    | nil => exact absurd rfl hx
    | cons y l =>
      dsimp only
      split
      · simpa using hne
      · simp

end

/-- The text arrives, whatever the decompression does with other data, exactly if it need not
be compressed or was compressed, and what is encrypted is not too long. -/
theorem deviceInfo_exchange_iff {Key : Type} (gcm : AesGcm Key) (compress : Codec) (iv : List UInt8)
    (authSeq : BitVec 64) (sender receiver : AuthEnd Key) (key : Key) (msg : DeviceInfoText)
    (hagreed : Agreed authSeq sender receiver key) (hcodec : ∃ decompress, Inverts decompress compress) :
    (∀ decompress unpack, Inverts decompress compress → unpack msg.bytes = true →
        exchangeDeviceInfo gcm compress decompress unpack iv authSeq sender receiver msg = .ok msg.bytes) ↔
      (sender.compresses = true → ∃ data, data ≠ [] ∧ compress msg.bytes = some data) ∧
        (deviceInfoInput compress sender msg).1.length + encryptOverHeadLen ≤ maxMallocSize := by
  obtain ⟨decompress₀, hinv₀⟩ := hcodec
  constructor
  · intro h
    by_cases hshort : (deviceInfoInput compress sender msg).1.length + encryptOverHeadLen ≤ maxMallocSize
    · refine ⟨fun hcomp => ?_, hshort⟩
      by_contra hraw
      -- the decompression that knows only what the compression makes
      classical
      let decompress : Codec := fun data =>
        if data ≠ [] ∧ ∃ x, x ≠ [] ∧ compress x = some data then decompress₀ data else none
      have hinv : Inverts decompress compress := by
        intro x data hx hdata hcx
        rw [← hinv₀ x data hx hdata hcx]
        exact if_pos ⟨hdata, x, hx, hcx⟩
      have hrefuse : ∀ data x, decompress data = some x → x ≠ [] ∧ compress x = some data := by
        intro data x hx
        by_cases hmade : data ≠ [] ∧ ∃ x, x ≠ [] ∧ compress x = some data
        · obtain ⟨hdata, y, hy, hcy⟩ := hmade
          rw [hinv y data hy hdata hcy] at hx
          cases hx
          exact ⟨hy, hcy⟩
        · simp only [decompress, if_neg hmade] at hx
          cases hx
      have hinput : (deviceInfoInput compress sender msg).1 = msg.bytes := by
        unfold deviceInfoInput
        rw [if_pos hcomp]
        split
        · rfl
        · rfl
        · exact absurd ⟨_, by simpa using ‹_›, ‹_›⟩ hraw
      have hok := h decompress (fun _ => true) hinv rfl
      rw [exchange_of_short hagreed hshort, hinput] at hok
      exact unpackDeviceInfo_raw (hagreed.compresses ▸ hcomp) hraw hrefuse hok
    · have hok := h decompress₀ (fun _ => true) hinv₀ rfl
      rw [exchange_of_long (Nat.lt_of_not_le hshort)] at hok
      cases hok
  · rintro ⟨hcomp, hshort⟩ decompress unpack hinv hunpack
    rw [exchange_of_short hagreed hshort]
    cases hc : sender.compresses with
    | true =>
      obtain ⟨data, hdata, hcx⟩ := hcomp hc
      have hinput : (deviceInfoInput compress sender msg).1 = data := by
        rw [deviceInfoInput, if_pos hc, hcx]
        cases data with
        | nil => exact absurd rfl hdata
        | cons => rfl
      rw [hinput]
      exact unpackDeviceInfo_compressed (hagreed.compresses ▸ hc) (hinv _ _ msg.bytes_ne_nil hdata hcx) hunpack
    | false =>
      have hrecv : receiver.compresses = false := hagreed.compresses ▸ hc
      simp [deviceInfoInput, unpackDeviceInfo, hc, hrecv, hunpack]

def plainGcm : AesGcm Unit where
  encrypt _ _ data := List.replicate overheadLen 0 ++ data
  decrypt _ data := some (data.drop overheadLen)
  length_encrypt _ _ data := length_replicate_append 0 data
  decrypt_encrypt _ _ data := by simp

def bleEnd (isServer : Bool) : AuthEnd Unit := ⟨.ble [1] [2], isServer, true, [⟨7, ()⟩]⟩

def shortInfo : DeviceInfoText := ⟨[123, 125], by decide, by decide⟩

def markCompress : Codec := fun data => some (1 :: data)

def markDecompress : Codec
  | [] => none
  | _ :: data => some data

theorem deviceInfo_exchange_ble :
    exchangeDeviceInfo plainGcm markCompress markDecompress (fun _ => true) [] 7 (bleEnd false) (bleEnd true) shortInfo =
      .ok shortInfo.bytes := by
  have hinv : Inverts markDecompress markCompress := by
    rintro x data - - ⟨⟩
    rfl
  exact (deviceInfo_exchange_iff plainGcm markCompress [] 7 (bleEnd false) (bleEnd true) () shortInfo
    ⟨rfl, rfl, by decide, by decide⟩ ⟨_, hinv⟩).mpr ⟨fun _ => ⟨_, by simp, rfl⟩, by decide⟩ _ _ hinv rfl

/-- The compression fails, the sender sends the text as it is, the receiver tries to decompress it. -/
theorem deviceInfo_lost_uncompressed :
    Agreed 7 (bleEnd false) (bleEnd true) () ∧ Inverts (fun _ => none) (fun _ => none) ∧
      exchangeDeviceInfo plainGcm (fun _ => none) (fun _ => none) (fun _ => true) [] 7 (bleEnd false) (bleEnd true)
        shortInfo = .error .err :=
  ⟨⟨rfl, rfl, by decide, by decide⟩, nofun, rfl⟩

end SoftBus
