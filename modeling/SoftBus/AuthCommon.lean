import SoftBus.Common

/-!
# What the authentication modules share

Link types, the addresses of a peer and how they are compared, and the session keys of an auth
manager.
-/

namespace SoftBus

inductive AuthLinkType where
  | wifi | br | ble | p2p | enhancedP2p
deriving DecidableEq

inductive AuthConnInfo where
  | wifi (ip : List UInt8) (port : BitVec 32)
  | br (brMac : List UInt8)
  | ble (bleMac deviceIdHash : List UInt8)
  | p2p (ip : List UInt8) (port : BitVec 32)
  | enhancedP2p (ip : List UInt8) (port : BitVec 32)
deriving DecidableEq

def AuthConnInfo.type : AuthConnInfo → AuthLinkType
  | wifi .. => .wifi
  | br .. => .br
  | ble .. => .ble
  | p2p .. => .p2p
  | enhancedP2p .. => .enhancedP2p

def shortHashLen : Nat := 8

def compareConnInfo (info1 info2 : AuthConnInfo) (cmpShortHash : Bool) : Bool :=
  match info1, info2 with
  | .wifi ip1 _, .wifi ip2 _ => ip1 = ip2
  | .br mac1, .br mac2 => strCmpIgnoreCase mac1 mac2
  | .ble mac1 hash1, .ble mac2 hash2 =>
    let len := if cmpShortHash then shortHashLen else udidHashLen
    hash1.take len = hash2.take len || strCmpIgnoreCase mac1 mac2
  | .p2p ip1 port1, .p2p ip2 port2 => port1 = port2 && ip1 = ip2
  | .enhancedP2p ip1 port1, .enhancedP2p ip2 port2 => port1 = port2 && ip1 = ip2
  | _, _ => false

theorem compareConnInfo_self (connInfo : AuthConnInfo) (cmpShortHash : Bool) :
    compareConnInfo connInfo connInfo cmpShortHash = true := by
  cases connInfo <;> simp [compareConnInfo, strCmpIgnoreCase_iff]

/-! `ExchangeDataType`; the peer may send any number. -/

def exchangeUdid : BitVec 32 := 0

def exchangeNetworkId : BitVec 32 := 1

def exchangeFail : BitVec 32 := 2

def toInt32 (value : BitVec 64) : BitVec 32 := value.truncate 32

/-! ## Session keys -/

section
variable {Key : Type}

structure SessionKeyItem (Key : Type) where
  index : BitVec 32
  key : Key
deriving DecidableEq

abbrev SessionKeyList (Key : Type) := List (SessionKeyItem Key)

def sessionKeyMaxNum : Nat := 10

def removeOldKey (list : SessionKeyList Key) : SessionKeyList Key :=
  if list.length ≤ sessionKeyMaxNum then list else list.tail

def addSessionKey (list : SessionKeyList Key) (index : BitVec 32) (key : Key) : SessionKeyList Key :=
  removeOldKey (list ++ [⟨index, key⟩])

def getLatestSessionKey (list : SessionKeyList Key) : Option (SessionKeyItem Key) := list.getLast?

def getSessionKeyByIndex (list : SessionKeyList Key) (index : BitVec 32) : Option Key :=
  (list.find? (·.index = index)).map (·.key)

def encryptIndexLen : Nat := 4

def encryptOverHeadLen : Nat := overheadLen + encryptIndexLen

/-- AES-GCM as the adapter uses it. Only a changed packet or another key is refused. -/
structure AesGcm (Key : Type) where
  encrypt : Key → List UInt8 → List UInt8 → List UInt8
  decrypt : Key → List UInt8 → Option (List UInt8)
  length_encrypt : ∀ key iv data, (encrypt key iv data).length = data.length + overheadLen
  decrypt_encrypt : ∀ key iv data, decrypt key (encrypt key iv data) = some data

theorem length_replicate_append (b : UInt8) (data : List UInt8) :
    (List.replicate overheadLen b ++ data).length = data.length + overheadLen := by
  rw [List.length_append, List.length_replicate, Nat.add_comm]

/-- `iv` is the random part of the initial vector. The adapter hands back the length as an `int32_t` and
takes a negative one for a failure. -/
def encryptData (gcm : AesGcm Key) (iv : List UInt8) (list : SessionKeyList Key) (inData : List UInt8) (outLen : Nat) :
    Option (List UInt8) :=
  if inData = [] ∨ outLen < (inData.length + encryptOverHeadLen) % 4294967296 then none
  else match getLatestSessionKey list with
    | none => none
    | some item =>
      let index := Bytes.put encryptIndexLen item.index.toNat
      if 2 ^ 31 ≤ inData.length + overheadLen then none
      else some (index ++ gcm.encrypt item.key (index ++ iv) inData)

def decryptData (gcm : AesGcm Key) (list : SessionKeyList Key) (inData : List UInt8) (outLen : Nat) :
    Option (List UInt8) :=
  if inData.length ≤ encryptOverHeadLen ∨ outLen < inData.length - encryptOverHeadLen then none
  else match getSessionKeyByIndex list (BitVec.ofNat 32 (Bytes.read encryptIndexLen inData)) with
    | none => none
    | some key => match gcm.decrypt key (inData.drop encryptIndexLen) with
      | none => none
      | some [] => none
      | some outData => some outData

def encryptInner (gcm : AesGcm Key) (iv : List UInt8) (list : SessionKeyList Key) (inData : List UInt8) :
    Option (List UInt8) :=
  let encDataLen := (inData.length + encryptOverHeadLen) % 4294967296
  if inData = [] ∨ maxMallocSize < encDataLen then none else encryptData gcm iv list inData encDataLen

def decryptInner (gcm : AesGcm Key) (list : SessionKeyList Key) (inData : List UInt8) : Option (List UInt8) :=
  let decDataLen := inData.length - encryptOverHeadLen + 1
  if inData.length ≤ encryptOverHeadLen ∨ maxMallocSize < decDataLen then none else decryptData gcm list inData decDataLen

section
variable {gcm : AesGcm Key} {iv data out : List UInt8} {list list' : SessionKeyList Key} {item : SessionKeyItem Key}

theorem encryptData_eq_some {outLen : Nat} (hkey : getLatestSessionKey list = some item)
    (h : encryptData gcm iv list data outLen = some out) :
    data ≠ [] ∧ data.length + overheadLen < 2 ^ 31 ∧ out = Bytes.put encryptIndexLen item.index.toNat ++
      gcm.encrypt item.key (Bytes.put encryptIndexLen item.index.toNat ++ iv) data := by
  unfold encryptData at h
  rw [hkey] at h
  split at h
  · cases h
  rename_i hcheck
  dsimp only at h
  split at h
  · cases h
  rename_i hlong
  cases h
  exact ⟨(not_or.mp hcheck).1, Nat.lt_of_not_le hlong, rfl⟩

theorem decryptData_encryptData {outLen outLen' : Nat} (h : encryptData gcm iv list data outLen = some out)
    (hkey : getLatestSessionKey list = some item) (hkey' : getSessionKeyByIndex list' item.index = some item.key)
    (hlen' : out.length - encryptOverHeadLen ≤ outLen') : decryptData gcm list' out outLen' = some data := by
  obtain ⟨hnil, -, rfl⟩ := encryptData_eq_some hkey h
  have hlen : 0 < data.length := List.length_pos_iff.mpr hnil
  have hindex : BitVec.ofNat 32 (Bytes.read encryptIndexLen (Bytes.put encryptIndexLen item.index.toNat ++
      gcm.encrypt item.key (Bytes.put encryptIndexLen item.index.toNat ++ iv) data)) = item.index := by
    rw [Bytes.read_put_append item.index.isLt, BitVec.ofNat_toNat, BitVec.setWidth_eq]
  unfold decryptData
  rw [if_neg (not_or.mpr ⟨?_, Nat.not_lt.mpr hlen'⟩), hindex, hkey']
  · dsimp only
    rw [Bytes.drop_put_append, gcm.decrypt_encrypt]
    cases data with
    | nil => exact absurd rfl hnil
    | cons => rfl
  · rw [List.length_append, Bytes.length_put, gcm.length_encrypt, encryptOverHeadLen]
    omega

/-- What fits into the memory is encrypted, and decrypted by who has the key. -/
theorem encryptInner_of_fits (gcm : AesGcm Key) (iv : List UInt8) (hnil : data ≠ [])
    (hkey : getLatestSessionKey list = some item) (hfits : data.length + encryptOverHeadLen ≤ maxMallocSize)
    (hkey' : getSessionKeyByIndex list' item.index = some item.key) :
    ∃ out, encryptInner gcm iv list data = some out ∧ decryptInner gcm list' out = some data := by
  have hmalloc : maxMallocSize = 536870912 := rfl
  have hover : encryptOverHeadLen = overheadLen + 4 := rfl
  obtain ⟨out, henc⟩ : ∃ out, encryptData gcm iv list data ((data.length + encryptOverHeadLen) % 4294967296) = some out := by
    rw [encryptData, if_neg (not_or.mpr ⟨hnil, Nat.lt_irrefl _⟩), hkey]
    exact ⟨_, if_neg (by omega)⟩
  obtain ⟨-, -, hout⟩ := encryptData_eq_some hkey henc
  have hlen : out.length = data.length + encryptOverHeadLen := by
    rw [hout, List.length_append, Bytes.length_put, gcm.length_encrypt, encryptOverHeadLen]
    omega
  have hpos := List.length_pos_iff.mpr hnil
  have hmod : (data.length + encryptOverHeadLen) % 4294967296 = data.length + encryptOverHeadLen :=
    Nat.mod_eq_of_lt (by omega)
  refine ⟨out, (if_neg (not_or.mpr ⟨hnil, ?_⟩)).trans henc, ?_⟩
  · rw [hmod]
    omega
  · rw [decryptInner, if_neg (by omega)]
    exact decryptData_encryptData henc hkey hkey' (Nat.le_succ _)

theorem encryptInner_of_not_fits (hlong : maxMallocSize < data.length + encryptOverHeadLen) :
    encryptInner gcm iv list data = none := by
  have hmalloc : maxMallocSize = 536870912 := rfl
  have hover : encryptOverHeadLen = overheadLen + 4 := rfl
  have hhead : overheadLen = 28 := rfl
  unfold encryptInner
  dsimp only
  split
  · rfl
  rename_i hcheck
  unfold encryptData
  split
  · rfl
  split
  · rfl
  · exact if_pos (by omega)

end

end

end SoftBus
