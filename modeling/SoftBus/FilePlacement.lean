import SoftBus.FileRecv
import SoftBus.Lib.Run

/-!
# Where data frames go

Frames of the current window are appended at `fileOffset`, after as many empty frames as numbers were skipped. Frames of
an earlier window go to the place of their number. The two agree as long as no frame of the current window comes after
one with the same or a higher number.
-/

namespace SoftBus

open Word BlockFile

namespace SingleFileInfo

def filled (file : SingleFileInfo) (seq : Nat) : SingleFileInfo :=
  if file.startSeq ≤ seq then writeEmptyFrame file (seqDiff seq file).toNat else file

/-- Where `ProcessOneFrameCRC` writes the body of a frame. -/
def bodyOffset (file : SingleFileInfo) (seq : Nat) : Nat :=
  if file.startSeq ≤ seq then (file.filled seq).fileOffset else (seq - 1) * file.oneFrameLen

/-! ## Runs of the receiver -/

inductive FrameEvent where
  | data (io : FrameIo) (frameType : SessionPktType) (frame : DataFrame)
  | ackRequest (startSeq : Nat)

def next (file : SingleFileInfo) : FrameEvent → SingleFileInfo
  | .data io frameType frame =>
    match processOneFrameCRC io frameType frame file with
    | .ok file' => file'
    | .error file' => file'
  | .ackRequest startSeq => if startSeq = file.startSeq then ackRequestFile startSeq file else file

/-- A frame that is accepted, of a file of `frames` data frames that are full but for the last one. -/
def Accepts (frames lastLen : Nat) (file : SingleFileInfo) : FrameEvent → Prop
  | .data io frameType frame =>
    (processOneFrameCRC io frameType frame file).isOk = true ∧ frame.seq < 4294967296 ∧ frame.seq ≤ frames ∧
      frame.data.length = if frame.seq = frames then lastLen else file.oneFrameLen
  | .ackRequest _ => True

/-- The body of the frame is written at the place of its number, and `fileOffset` covers all frames up to `seq`. -/
def Placed (lastLen : Nat) (file : SingleFileInfo) : FrameEvent → Prop
  | .data io frameType frame =>
    (file.next (.data io frameType frame)).file =
        pwrite 0 (file.filled frame.seq).file frame.data (file.bodyOffset frame.seq) ∧
      file.bodyOffset frame.seq = (frame.seq - 1) * file.oneFrameLen ∧
      (file.next (.data io frameType frame)).seq * file.oneFrameLen ≤
        (file.next (.data io frameType frame)).fileOffset + (file.oneFrameLen - lastLen)
  | .ackRequest _ => True

/-- A frame of the current window comes after the last one, in terms of `int32_t`. -/
def InOrder (file : SingleFileInfo) : FrameEvent → Prop
  | .data _ _ frame => frame.seq < file.startSeq ∨ 0 ≤ seqDiff frame.seq file
  | .ackRequest _ => True

instance (frames lastLen : Nat) (file : SingleFileInfo) : ∀ event, Decidable (file.Accepts frames lastLen event)
  | .data _ _ _ => inferInstanceAs (Decidable (_ ∧ _))
  | .ackRequest _ => .isTrue trivial

instance (lastLen : Nat) (file : SingleFileInfo) : ∀ event, Decidable (file.Placed lastLen event)
  | .data _ _ _ => inferInstanceAs (Decidable (_ ∧ _))
  | .ackRequest _ => .isTrue trivial

instance (file : SingleFileInfo) : ∀ event, Decidable (file.InOrder event)
  | .data _ _ _ => inferInstanceAs (Decidable (_ ∨ _))
  | .ackRequest _ => .isTrue trivial

/-! ## One frame -/

section
variable {io : FrameIo} {frameType : SessionPktType} {frame : DataFrame} {file file' : SingleFileInfo}

theorem placed_of_ok (h : processOneFrameCRC io frameType frame file = .ok file') :
    1 ≤ frame.seq ∧ file'.oneFrameLen = file.oneFrameLen ∧
    file'.file = pwrite 0 (file.filled frame.seq).file frame.data (file.bodyOffset frame.seq) ∧
    (file.startSeq ≤ frame.seq → file'.seq = frame.seq ∧
      file'.fileOffset = file.bodyOffset frame.seq + frame.data.length ∧ file'.fileOffset ≤ maxFileSize) ∧
    (frame.seq < file.startSeq → file'.seq = file.seq ∧ file'.fileOffset = file.fileOffset) := by
  unfold bodyOffset filled
  obtain ⟨⟨hpos, -⟩, ⟨hnew, h⟩ | ⟨hold, h⟩⟩ := processOneFrameCRC_ok h
  · obtain ⟨⟨sum, rfl⟩, hmax⟩ := processNewFrame_ok h
    obtain ⟨content, hempty⟩ := writeEmptyFrame_eq (seqDiff frame.seq file).toNat file
    rw [if_pos hnew, if_pos hnew]
    exact ⟨hpos, by rw [hempty], rfl, fun _ => ⟨rfl, rfl, hmax⟩, fun hlt => by omega⟩
  · rw [if_neg (by omega), if_neg (by omega), pwriteFrame_ok h]
    exact ⟨hpos, rfl, rfl, fun hle => by omega, fun _ => ⟨rfl, rfl⟩⟩

theorem bodyOffset_of_le (hle : file.startSeq ≤ frame.seq) :
    file.bodyOffset frame.seq = file.fileOffset + (seqDiff frame.seq file).toNat * file.oneFrameLen := by
  obtain ⟨content, hempty⟩ := writeEmptyFrame_eq (seqDiff frame.seq file).toNat file
  rw [bodyOffset, if_pos hle, filled, if_pos hle, hempty]

end

/-! ## The place of a frame -/

structure Aligned (frames lastLen : Nat) (file : SingleFileInfo) : Prop where
  last : 0 < lastLen ∧ lastLen ≤ file.oneFrameLen
  seq : file.seq ≤ frames
  limit : file.fileOffset ≤ maxFileSize
  offset : file.fileOffset + (if file.seq = frames then file.oneFrameLen - lastLen else 0) = file.seq * file.oneFrameLen

section
variable {frames lastLen : Nat} {file : SingleFileInfo} {io : FrameIo} {frameType : SessionPktType} {frame : DataFrame}

theorem Aligned.seq_le (h : file.Aligned frames lastLen) : file.seq ≤ maxFileSize + 1 := by
  obtain ⟨hpos, hle⟩ := h.last
  have hoff := h.offset
  have hlimit := h.limit
  by_contra hlt
  have hmul : (maxFileSize + 2) * file.oneFrameLen ≤ file.seq * file.oneFrameLen := Nat.mul_le_mul_right _ (by omega)
  have hmul' : (maxFileSize + 1) * 1 ≤ (maxFileSize + 1) * file.oneFrameLen := Nat.mul_le_mul_left _ (by omega)
  rw [Nat.succ_mul] at hmul
  split at hoff <;> omega

theorem frame_mul_succ (hpos : 1 ≤ frame.seq) (len : Nat) : frame.seq * len = (frame.seq - 1) * len + len := by
  rw [← Nat.succ_mul, Nat.succ_eq_add_one, Nat.sub_add_cancel hpos]

theorem Aligned.bodyOffset_eq_iff (h : file.Aligned frames lastLen) (hle : file.startSeq ≤ frame.seq)
    (hpos : 1 ≤ frame.seq) (hlt : frame.seq < 4294967296) (hseq : frame.seq ≤ frames) :
    file.bodyOffset frame.seq = (frame.seq - 1) * file.oneFrameLen ↔ 0 ≤ seqDiff frame.seq file := by
  have hmax := h.seq_le
  have hoff := h.offset
  have hmaxFileSize : maxFileSize = 5242880 := rfl
  rw [bodyOffset_of_le hle]
  constructor
  · intro heq
    by_contra hneg
    rw [show (seqDiff frame.seq file).toNat = 0 by omega, Nat.zero_mul, Nat.add_zero] at heq
    have hshort : (if file.seq = frames then file.oneFrameLen - lastLen else 0) < file.oneFrameLen := by
      have hlast := h.last
      split <;> omega
    have hlow : frame.seq - 1 ≤ file.seq :=
      Nat.le_of_mul_le_mul_right (c := file.oneFrameLen) (by omega) (by omega)
    have hhigh : file.seq < frame.seq := by
      refine Nat.lt_of_mul_lt_mul_right (a := file.oneFrameLen) ?_
      rw [← hoff, heq, frame_mul_succ hpos]
      omega
    have hzero : (frame.seq : Int) - file.seq - 1 = 0 := by omega
    rw [seqDiff, hzero] at hneg
    exact hneg (by decide)
  · intro hdiff
    unfold seqDiff int32 at hdiff ⊢
    have hlt' : file.seq < frame.seq := by omega
    rw [if_neg (by omega)] at hoff
    have hsub : ((2147483648 + ((frame.seq : Int) - file.seq - 1)) % 4294967296 - 2147483648).toNat =
        frame.seq - 1 - file.seq := by omega
    rw [hsub, ← Nat.add_zero file.fileOffset, hoff, ← Nat.add_mul, Nat.add_sub_cancel' (by omega)]

theorem Aligned.placed_iff (h : file.Aligned frames lastLen) {event : FrameEvent} (ha : file.Accepts frames lastLen event) :
    (file.Placed lastLen event ↔ file.InOrder event) ∧
    (file.InOrder event → (file.next event).Aligned frames lastLen) := by
  cases event with
  | ackRequest startSeq =>
    refine ⟨Iff.rfl, fun _ => ?_⟩
    unfold next
    dsimp only
    split
    · exact ⟨h.last, h.seq, h.limit, h.offset⟩
    · exact h
  | data io frameType frame =>
    obtain ⟨hok, hlt, hseq, hlen⟩ := ha
    cases hproc : processOneFrameCRC io frameType frame file with
    | error file' =>
      rw [hproc] at hok
      exact nomatch hok
    | ok file' =>
      have hnext : file.next (.data io frameType frame) = file' := by
        unfold next
        dsimp only
        rw [hproc]
      obtain ⟨hpos, hone, hfile, hnew, hold⟩ := placed_of_ok hproc
      have hplace : file.bodyOffset frame.seq = (frame.seq - 1) * file.oneFrameLen ↔
          file.InOrder (.data io frameType frame) := by
        unfold InOrder
        dsimp only
        rcases Nat.lt_or_ge frame.seq file.startSeq with hlt' | hle
        · rw [bodyOffset, if_neg (by omega)]
          exact ⟨fun _ => .inl hlt', fun _ => rfl⟩
        · rw [h.bodyOffset_eq_iff hle hpos hlt hseq, or_iff_right (by omega)]
      have haligned : file.bodyOffset frame.seq = (frame.seq - 1) * file.oneFrameLen →
          file'.Aligned frames lastLen := by
        intro hbody
        rcases Nat.lt_or_ge frame.seq file.startSeq with hlt' | hle
        · obtain ⟨hs, hoff⟩ := hold hlt'
          exact ⟨by rw [hone]; exact h.last, by rw [hs]; exact h.seq, by rw [hoff]; exact h.limit,
            by rw [hs, hoff, hone]; exact h.offset⟩
        · obtain ⟨hs, hoff, hmax⟩ := hnew hle
          refine ⟨by rw [hone]; exact h.last, by rw [hs]; exact hseq, hmax, ?_⟩
          have hlast := h.last
          rw [hs, hoff, hone, hbody, hlen, frame_mul_succ hpos]
          split <;> omega
      refine ⟨?_, fun horder => by rw [hnext]; exact haligned (hplace.mpr horder)⟩
      unfold Placed
      dsimp only
      rw [hnext]
      refine ⟨fun hplaced => hplace.mp hplaced.2.1, fun horder => ?_⟩
      have hbody := hplace.mpr horder
      have hoff := (haligned hbody).offset
      rw [hone] at hoff
      refine ⟨hfile, hbody, ?_⟩
      split at hoff <;> omega

end

end SingleFileInfo

open SingleFileInfo in
/-- Frames that are accepted are all at their places exactly if none of the current window comes after one with the same
or a higher number. -/
theorem frames_placed_iff (frames lastLen oneFrameLen fileSize : Nat) (fileName : List UInt8) (hframes : 0 < frames)
    (hlast : 0 < lastLen ∧ lastLen ≤ oneFrameLen) (events : List FrameEvent)
    (h : Run.Always next (Accepts frames lastLen) (.ofStartInfo ⟨some (oneFrameLen, fileSize), 0, fileName⟩) events) :
    Run.Always next (Placed lastLen) (.ofStartInfo ⟨some (oneFrameLen, fileSize), 0, fileName⟩) events ↔
      Run.Always next InOrder (.ofStartInfo ⟨some (oneFrameLen, fileSize), 0, fileName⟩) events := by
  have hstart : Aligned frames lastLen (.ofStartInfo ⟨some (oneFrameLen, fileSize), 0, fileName⟩) :=
    ⟨hlast, Nat.zero_le _, Nat.zero_le _, by rw [if_neg (by exact hframes.ne)]; exact (Nat.zero_mul _).symm⟩
  have hiff := Run.always_iff_of_inv (I := Aligned frames lastLen)
    (P := fun file event => Accepts frames lastLen file event ∧ Placed lastLen file event)
    (Q := fun file event => Accepts frames lastLen file event ∧ InOrder file event)
    (fun _ _ hfile => and_congr_right fun ha => (hfile.placed_iff ha).1)
    (fun _ _ hfile hgood => (hfile.placed_iff hgood.1).2 ((hfile.placed_iff hgood.1).1.mp hgood.2)) hstart events
  rw [Run.always_and, Run.always_and, and_iff_right h, and_iff_right h] at hiff
  exact hiff

def lossyFrames : List SingleFileInfo.FrameEvent :=
  [.data .ok .fileOngoineFrame ⟨1, 0, [1, 2]⟩, .data .ok .fileLastFrame ⟨3, 0, [5]⟩, .ackRequest 1,
    .data .ok .fileOngoineFrame ⟨2, 0, [3, 4]⟩, .data .ok .fileOngoineFrame ⟨2, 0, [3, 4]⟩]

open SingleFileInfo in
theorem frames_placed_lossy :
    Run.Always next InOrder (.ofStartInfo ⟨some (2, 5), 0, []⟩) lossyFrames ∧
    Run.Always next (Placed 1) (.ofStartInfo ⟨some (2, 5), 0, []⟩) lossyFrames ∧
    (Run.final next (.ofStartInfo ⟨some (2, 5), 0, []⟩) lossyFrames).file = [1, 2, 3, 4, 5] :=
  ⟨by decide, (frames_placed_iff 3 1 2 5 [] (by decide) (by decide) lossyFrames (by decide)).mpr (by decide), by decide⟩

open SingleFileInfo in
/-- The first frame comes twice. The second time it is written behind the first. -/
theorem duplicate_frame_misplaced :
    let events : List FrameEvent :=
      [.data .ok .fileOngoineFrame ⟨1, 0, [1, 2]⟩, .data .ok .fileOngoineFrame ⟨1, 0, [1, 2]⟩]
    Run.Always next (Accepts 3 1) (.ofStartInfo ⟨some (2, 5), 0, []⟩) events ∧
    ¬ Run.Always next (Placed 1) (.ofStartInfo ⟨some (2, 5), 0, []⟩) events ∧
    (Run.final next (.ofStartInfo ⟨some (2, 5), 0, []⟩) events).file = [1, 2, 1, 2] := by
  decide

end SoftBus
