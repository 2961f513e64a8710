import SoftBus.Lib.Run
import SoftBus.Lib.Word

/-!
# Sequence verification of received packets

`SeqVerifyInfo` keeps a window `[minSeq, maxSeq)` of sequence numbers and a
bitmap: bit `j` stands for the number `maxSeq - j`. The checks are those of
`softbus_sequence_verification.c`, with `int32_t` as 32-bit words that wrap.

Each check also reports the amounts by which it shifted a 64-bit word, and
whether it fell into a branch the source marks as not reachable.
-/

namespace SoftBus

def maxSeqBias : Int := 60

structure SeqVerifyInfo where
  maxSeq : BitVec 32
  minSeq : BitVec 32
  recvBitmap : BitVec 64
deriving DecidableEq, Repr

inductive Verdict where
  | pass
  | reject
  -- `return false` under the comment "can not reach here"
  | unreachable
deriving DecidableEq, Repr

structure SeqCheck where
  verdict : Verdict
  info : SeqVerifyInfo
  shifts : List Nat
deriving DecidableEq, Repr

def isDifferentSign (seqA seqB : BitVec 32) : Bool :=
  !((0 ≤ seqA.toInt && 0 ≤ seqB.toInt) || (seqA.toInt < 0 && seqB.toInt < 0))

section
variable (v : SeqVerifyInfo)

def isPassDuplicateCheck (recvSeq : BitVec 32) : SeqCheck :=
  let offset := (v.maxSeq - recvSeq).toNat
  let isRepeat := v.recvBitmap &&& (1#64 <<< offset)
  if isRepeat ≠ 0 then ⟨.reject, v, [offset]⟩
  else ⟨.pass, { v with recvBitmap := v.recvBitmap ||| (1#64 <<< offset) }, [offset, offset]⟩

def isPassOverMaxCheck (recvSeq : BitVec 32) : SeqCheck :=
  if (recvSeq - v.maxSeq).toInt < 0 then ⟨.reject, v, []⟩
  else if maxSeqBias ≤ (recvSeq - v.minSeq).toInt then ⟨.reject, v, []⟩
  else
    let seqOffset := (recvSeq - v.maxSeq + 1).toNat
    ⟨.pass,
      { v with maxSeq := recvSeq + 1, recvBitmap := (v.recvBitmap <<< seqOffset) ||| (1#64 <<< 1) },
      [seqOffset, 1]⟩

def isPassAllRangeCheck (recvSeq : BitVec 32) : SeqCheck :=
  if recvSeq = v.minSeq then ⟨.pass, { v with minSeq := recvSeq + 1 }, []⟩
  else if v.minSeq.toInt < recvSeq.toInt then
    if recvSeq.toInt < v.maxSeq.toInt then isPassDuplicateCheck v recvSeq
    else isPassOverMaxCheck v recvSeq
  else ⟨.reject, v, []⟩

def isPassNormalCheck (recvSeq : BitVec 32) : SeqCheck :=
  if recvSeq = v.minSeq then ⟨.pass, { v with minSeq := recvSeq + 1, maxSeq := recvSeq + 1 }, []⟩
  else if !isDifferentSign recvSeq v.minSeq then
    if v.maxSeq.toInt < recvSeq.toInt then isPassOverMaxCheck v recvSeq
    else ⟨.reject, v, []⟩
  else isPassOverMaxCheck v recvSeq

def isPassNoflipDisorderCheck (recvSeq : BitVec 32) : SeqCheck :=
  if 0 ≤ v.minSeq.toInt then
    if 0 ≤ recvSeq.toInt then isPassAllRangeCheck v recvSeq
    else isPassOverMaxCheck v recvSeq
  else if v.maxSeq.toInt < 0 then
    if recvSeq.toInt < 0 then isPassAllRangeCheck v recvSeq
    else isPassOverMaxCheck v recvSeq
  else ⟨.unreachable, v, []⟩

def isPassFlipPositiveCheck (recvSeq : BitVec 32) : SeqCheck :=
  if 0 ≤ recvSeq.toInt then
    if recvSeq.toInt < v.maxSeq.toInt then isPassDuplicateCheck v recvSeq
    else isPassOverMaxCheck v recvSeq
  else
    if recvSeq = v.minSeq then ⟨.pass, { v with minSeq := recvSeq + 1 }, []⟩
    else if v.minSeq.toInt < recvSeq.toInt then isPassDuplicateCheck v recvSeq
    else ⟨.reject, v, []⟩

def isPassFlipNegativeCheck (recvSeq : BitVec 32) : SeqCheck :=
  if 0 ≤ recvSeq.toInt then
    if recvSeq = v.minSeq then ⟨.pass, { v with minSeq := recvSeq + 1 }, []⟩
    else if v.minSeq.toInt < recvSeq.toInt then isPassDuplicateCheck v recvSeq
    else ⟨.reject, v, []⟩
  else
    if recvSeq.toInt < v.maxSeq.toInt then isPassDuplicateCheck v recvSeq
    else isPassOverMaxCheck v recvSeq

def isPassSeqCheck (recvSeq : BitVec 32) : SeqCheck :=
  let isDifferentSign := isDifferentSign v.minSeq v.maxSeq
  if v.minSeq = v.maxSeq then isPassNormalCheck v recvSeq
  else if v.minSeq.toInt < v.maxSeq.toInt ∧ !isDifferentSign then isPassNoflipDisorderCheck v recvSeq
  else if v.maxSeq.toInt < v.minSeq.toInt ∧ isDifferentSign then isPassFlipNegativeCheck v recvSeq
  else if v.minSeq.toInt < v.maxSeq.toInt ∧ isDifferentSign then isPassFlipPositiveCheck v recvSeq
  else ⟨.unreachable, v, []⟩

/-! ## Runs of calls -/

def SeqVerifyInfo.init : SeqVerifyInfo := ⟨0, 0, 0⟩

def SeqVerifyInfo.next (recvSeq : BitVec 32) : SeqVerifyInfo :=
  (isPassSeqCheck v recvSeq).info

def SeqVerifyInfo.window : Nat := (v.maxSeq - v.minSeq).toNat

def acceptedSeqs : SeqVerifyInfo → List (BitVec 32) → List (BitVec 32) :=
  Run.collect SeqVerifyInfo.next fun v recvSeq =>
    if (isPassSeqCheck v recvSeq).verdict = .pass then [recvSeq] else []

/-- How far a run moves `maxSeq` forward. -/
def maxSeqAdvance (l : List (BitVec 32)) : Nat :=
  (Run.collect SeqVerifyInfo.next (fun v recvSeq => [((v.next recvSeq).maxSeq - v.maxSeq).toNat]) v l).sum

end

end SoftBus
