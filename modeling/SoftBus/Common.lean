import SoftBus.Lib.Bytes

/-!
# What the transmission modules share

Return codes, packet types, the length limits of `softbus_feature_config.c` and
the bounds-checked copy.
-/

namespace SoftBus

inductive SoftbusRet where
  | ok
  | err
  | invalidParam
  | mallocErr
  | memErr
  | sliceError
  | decryptErr
  | encryptErr
  | dataNotEnough
  | transInvalidDataLength
  | transProxyInvalidSliceHead
  | assemblePackNoInvalid
  | assemblePackExceedLength
  | assemblePackDataNull
  | invalidDataHead
  | fileErr
  | notFind
deriving DecidableEq, Repr

/-- The value of the C enumerator in `softbus_error_code.h`. -/
def SoftbusRet.toInt : SoftbusRet → Int
  | .ok => 0
  | .err => -426442708
  | .invalidParam => -426442749
  | .mallocErr => -426442741
  | .memErr => -426442748
  | .sliceError => -426442727
  | .decryptErr => -426442738
  | .encryptErr => -426442739
  | .dataNotEnough => -426442728
  | .transInvalidDataLength => -426115059
  | .transProxyInvalidSliceHead => -426115048
  | .assemblePackNoInvalid => -426115047
  | .assemblePackExceedLength => -426115046
  | .assemblePackDataNull => -426115045
  | .invalidDataHead => -426442731
  | .fileErr => -426442729
  | .notFind => -426442723

def udidHashLen : Nat := 32

def maxMallocSize : Nat := 512 * 1024 * 1024

def wrapSub (w a b : Nat) : Nat := (a + 2 ^ w - b) % 2 ^ w

inductive SessionPktType where
  | bytes
  | ack
  | message
  | fileFirstFrame
  | fileOngoineFrame
  | fileLastFrame
  | fileOnlyoneFrame
  | fileAllfileSent
  | fileCrcCheckFrame
  | fileResultFrame
  | fileAckRequestSent
  | fileAckResponseSent
  | asyncMessage
deriving DecidableEq, Repr

def SessionPktType.all : List SessionPktType :=
  [.bytes, .ack, .message, .fileFirstFrame, .fileOngoineFrame, .fileLastFrame, .fileOnlyoneFrame,
    .fileAllfileSent, .fileCrcCheckFrame, .fileResultFrame, .fileAckRequestSent, .fileAckResponseSent,
    .asyncMessage]

def SessionPktType.toInt : SessionPktType → Int
  | .bytes => 0
  | .ack => 1
  | .message => 2
  | .fileFirstFrame => 3
  | .fileOngoineFrame => 4
  | .fileLastFrame => 5
  | .fileOnlyoneFrame => 6
  | .fileAllfileSent => 7
  | .fileCrcCheckFrame => 8
  | .fileResultFrame => 9
  | .fileAckRequestSent => 10
  | .fileAckResponseSent => 11
  | .asyncMessage => 12

def SessionPktType.ofInt (i : Int) : Option SessionPktType :=
  SessionPktType.all.find? fun t => t.toInt = i

@[simp] theorem SessionPktType.ofInt_toInt (t : SessionPktType) : ofInt t.toInt = some t := by
  cases t <;> decide

theorem SessionPktType.toInt_bounds (t : SessionPktType) : 0 ≤ t.toInt ∧ t.toInt ≤ 12 := by
  cases t <;> decide

/-- The builds the feature configuration tells apart. -/
inductive System where
  | standard
  | small
  | mini
deriving DecidableEq, Repr

/-- `DEFAULT_NEW_BYTES_LEN` -/
def System.maxBytesNewLen : System → Nat
  | .standard => 4 * 1024 * 1024
  | .small => 1 * 1024 * 1024
  | .mini => 4 * 1024

/-- `DEFAULT_NEW_MESSAGE_LEN` -/
def System.maxMessageNewLen : System → Nat
  | .standard => 4 * 1024
  | .small => 4 * 1024
  | .mini => 4 * 1024

theorem System.maxBytesNewLen_le (y : System) : y.maxBytesNewLen ≤ 4194304 := by
  cases y <;> decide

theorem System.maxMessageNewLen_le (y : System) : y.maxMessageNewLen ≤ 4096 := by
  cases y <;> decide

def toUpperCase (ch : UInt8) : UInt8 := if 97 ≤ ch ∧ ch ≤ 122 then ch - 97 + 65 else ch

/-- `StrCmpIgnoreCase` returns `SOFTBUS_OK`. A string is the list of its bytes before
the terminator. -/
def strCmpIgnoreCase : List UInt8 → List UInt8 → Bool
  | [], [] => true
  | ch1 :: str1, ch2 :: str2 => if toUpperCase ch1 ≠ toUpperCase ch2 then false else strCmpIgnoreCase str1 str2
  | _, _ => false

theorem strCmpIgnoreCase_iff : ∀ {str1 str2 : List UInt8},
    strCmpIgnoreCase str1 str2 = true ↔ str1.map toUpperCase = str2.map toUpperCase
  | [], [] => by simp [strCmpIgnoreCase]
  | [], _ :: _ => by simp [strCmpIgnoreCase]
  | _ :: _, [] => by simp [strCmpIgnoreCase]
  | ch1 :: str1, ch2 :: str2 => by
    rw [strCmpIgnoreCase, List.map_cons, List.map_cons, List.cons.injEq]
    by_cases h : toUpperCase ch1 = toUpperCase ch2
    · rw [if_neg (not_not_intro h), strCmpIgnoreCase_iff]
      exact ⟨fun h' => ⟨h, h'⟩, And.right⟩
    · rw [if_pos h]
      exact ⟨nofun, fun h' => absurd h'.1 h⟩

def cString (buf : List UInt8) : List UInt8 := buf.takeWhile (· != 0)

theorem cString_append {s : List UInt8} (h : 0 ∉ s) (l : List UInt8) : cString (s ++ 0 :: l) = s := by
  have hall : ∀ b ∈ s, (b != 0) = true := fun b hb => bne_iff_ne.mpr fun hz => h (hz ▸ hb)
  rw [cString, List.takeWhile_append_of_pos hall, List.takeWhile_cons_of_neg (by simp), List.append_nil]

def overheadLen : Nat := 28

/-- `memcpy_s` to offset `off` of `dest`, with `destMax` bytes left there. A
buffer is the list of its bytes up to the last one written. -/
def memcpyS (dest : List UInt8) (off destMax : Nat) (src : List UInt8) : Option (List UInt8) :=
  if destMax = 0 ∨ 0x7fffffff < destMax ∨ destMax < src.length then none
  else some (dest.take off ++ src ++ dest.drop (off + src.length))

theorem memcpyS_eq_some {dest src buf : List UInt8} {off destMax : Nat} :
    memcpyS dest off destMax src = some buf ↔
      (destMax ≠ 0 ∧ destMax ≤ 0x7fffffff ∧ src.length ≤ destMax) ∧
        buf = dest.take off ++ src ++ dest.drop (off + src.length) := by
  unfold memcpyS
  split
  · exact iff_of_false nofun fun h => by omega
  · rw [Option.some.injEq, eq_comm]
    exact ⟨fun h => ⟨by omega, h⟩, fun h => h.2⟩

theorem memcpyS_length_eq_some {dest src buf : List UInt8} {destMax : Nat} :
    memcpyS dest dest.length destMax src = some buf ↔
      (destMax ≠ 0 ∧ destMax ≤ 0x7fffffff ∧ src.length ≤ destMax) ∧ buf = dest ++ src := by
  rw [memcpyS_eq_some, List.take_length, List.drop_eq_nil_of_le (by omega), List.append_nil]

end SoftBus
