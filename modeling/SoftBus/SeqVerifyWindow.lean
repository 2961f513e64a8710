import SoftBus.SeqVerifySound

/-!
# The verification window across the sign

Near `minSeq` all branches of the check do the same: they compare distances from `minSeq` modulo `2 ^ 32`. So a number of
the open window is only refused if it has been accepted before, wherever the window lies.
-/

namespace SoftBus

namespace SeqVerifyInfo

/-- At most `2 ^ 30` away from `minSeq`, on either side. -/
def Near (v : SeqVerifyInfo) (recvSeq : BitVec 32) : Prop :=
  (recvSeq - v.minSeq).toNat ≤ 2 ^ 30 ∨ (v.minSeq - recvSeq).toNat ≤ 2 ^ 30

instance (v : SeqVerifyInfo) (recvSeq : BitVec 32) : Decidable (v.Near recvSeq) := inferInstanceAs (Decidable (_ ∨ _))

/-- `isPassOverMaxCheck` where it accepts. -/
def extend (v : SeqVerifyInfo) (recvSeq : BitVec 32) : SeqCheck :=
  let seqOffset := (recvSeq - v.maxSeq + 1).toNat
  ⟨.pass, { v with maxSeq := recvSeq + 1, recvBitmap := (v.recvBitmap <<< seqOffset) ||| (1#64 <<< 1) },
    [seqOffset, 1]⟩

def windowCheck (v : SeqVerifyInfo) (recvSeq : BitVec 32) : SeqCheck :=
  if recvSeq = v.minSeq then
    ⟨.pass, { v with minSeq := recvSeq + 1, maxSeq := if v.minSeq = v.maxSeq then recvSeq + 1 else v.maxSeq }, []⟩
  else if (recvSeq - v.minSeq).toNat < v.window then isPassDuplicateCheck v recvSeq
  else if (recvSeq - v.minSeq).toNat < 60 then v.extend recvSeq
  else ⟨.reject, v, []⟩

/-! ## The branches -/

section
variable {v : SeqVerifyInfo} {r : BitVec 32} (hw : v.window ≤ 60) (hnear : v.Near r)
include hw hnear

omit hw in
theorem near_int : (r.toInt - v.minSeq.toInt) % 4294967296 ≤ 1073741824 ∨
    3221225472 ≤ (r.toInt - v.minSeq.toInt) % 4294967296 := by
  have h₁ := Word.toNat_sub r v.minSeq
  have h₂ := Word.toNat_sub v.minSeq r
  unfold Near at hnear
  omega

theorem isPassOverMaxCheck_eq (hne : r ≠ v.minSeq) (hout : v.window ≤ (r - v.minSeq).toNat) :
    isPassOverMaxCheck v r = v.windowCheck r := by
  have hint := near_int hnear
  have hwin := window_eq v
  have hd := Word.toNat_sub r v.minSeq
  have hmin := Word.toInt_sub r v.minSeq
  have hmax := Word.toInt_sub r v.maxSeq
  unfold isPassOverMaxCheck windowCheck maxSeqBias extend
  rw [if_neg hne, if_neg (Nat.not_lt.mpr hout)]
  by_cases hbias : (r - v.minSeq).toNat < 60
  · rw [if_neg (by omega), if_neg (by omega), if_pos hbias]
  · rw [if_neg hbias]
    split
    · rfl
    · rw [if_pos (by omega)]

theorem reject_eq (hbehind : 60 ≤ (r - v.minSeq).toNat) : ⟨.reject, v, []⟩ = v.windowCheck r := by
  have hne : r ≠ v.minSeq := by
    rintro rfl
    simp at hbehind
  unfold windowCheck
  rw [if_neg hne, if_neg (by omega), if_neg (by omega)]

omit hw hnear in
theorem duplicate_eq (hne : r ≠ v.minSeq) (hin : (r - v.minSeq).toNat < v.window) :
    isPassDuplicateCheck v r = v.windowCheck r := by
  unfold windowCheck
  rw [if_neg hne, if_pos hin]

omit hw hnear in
theorem advanceMin_eq (hmin : v.minSeq ≠ v.maxSeq) (hr : r = v.minSeq) :
    ⟨.pass, { v with minSeq := r + 1 }, []⟩ = v.windowCheck r := by
  unfold windowCheck
  rw [if_pos hr, if_neg hmin]

theorem isPassAllRangeCheck_eq (hlt : v.minSeq.toInt < v.maxSeq.toInt) (hr : 0 ≤ r.toInt ↔ 0 ≤ v.minSeq.toInt) :
    isPassAllRangeCheck v r = v.windowCheck r := by
  have hint := near_int hnear
  have hwin := window_eq v
  have hd := Word.toNat_sub r v.minSeq
  have hne : v.minSeq ≠ v.maxSeq := by
    rw [ne_eq, Word.eq_iff]
    omega
  have hb := Word.toInt_bounds r
  have hm := Word.toInt_bounds v.maxSeq
  have hm' := Word.toInt_bounds v.minSeq
  unfold isPassAllRangeCheck
  split
  · next heq => exact advanceMin_eq hne heq
  · next hrne =>
    split
    · split
      · exact duplicate_eq hrne (by omega)
      · exact isPassOverMaxCheck_eq hw hnear hrne (by omega)
    · rw [Word.eq_iff] at hrne
      exact reject_eq hw hnear (by omega)

theorem isPassNormalCheck_eq (heq : v.minSeq = v.maxSeq) : isPassNormalCheck v r = v.windowCheck r := by
  have hint := near_int hnear
  have hwin : v.window = 0 := by simp [window, heq]
  have hd := Word.toNat_sub r v.minSeq
  have hs := isDifferentSign_iff r v.minSeq
  have hb := Word.toInt_bounds r
  have hm := Word.toInt_bounds v.minSeq
  unfold isPassNormalCheck
  split
  · next hr =>
    unfold windowCheck
    rw [if_pos hr, if_pos heq]
  · next hrne =>
    split
    · next hsame =>
      rw [Bool.not_eq_true', ← Bool.not_eq_true, hs] at hsame
      split
      · exact isPassOverMaxCheck_eq hw hnear hrne (by omega)
      · rw [Word.eq_iff] at hrne
        rw [← heq] at *
        exact reject_eq hw hnear (by omega)
    · exact isPassOverMaxCheck_eq hw hnear hrne (by omega)

theorem isPassNoflipDisorderCheck_eq (hlt : v.minSeq.toInt < v.maxSeq.toInt)
    (hsign : 0 ≤ v.minSeq.toInt ↔ 0 ≤ v.maxSeq.toInt) : isPassNoflipDisorderCheck v r = v.windowCheck r := by
  have hint := near_int hnear
  have hwin := window_eq v
  have hd := Word.toNat_sub r v.minSeq
  have hb := Word.toInt_bounds r
  have hm := Word.toInt_bounds v.maxSeq
  have hm' := Word.toInt_bounds v.minSeq
  have hover (hr : ¬ (0 ≤ r.toInt ↔ 0 ≤ v.minSeq.toInt)) : isPassOverMaxCheck v r = v.windowCheck r := by
    have hrne : r ≠ v.minSeq := by
      rintro rfl
      exact hr Iff.rfl
    exact isPassOverMaxCheck_eq hw hnear hrne (by omega)
  unfold isPassNoflipDisorderCheck
  split
  · split
    · exact isPassAllRangeCheck_eq hw hnear hlt (by omega)
    · exact hover (by omega)
  · split
    · split
      · exact isPassAllRangeCheck_eq hw hnear hlt (by omega)
      · exact hover (by omega)
    · omega

theorem isPassFlipPositiveCheck_eq (hmin : v.minSeq.toInt < 0) (hmax : 0 ≤ v.maxSeq.toInt) :
    isPassFlipPositiveCheck v r = v.windowCheck r := by
  have hint := near_int hnear
  have hwin := window_eq v
  have hd := Word.toNat_sub r v.minSeq
  have hb := Word.toInt_bounds r
  have hm := Word.toInt_bounds v.maxSeq
  have hm' := Word.toInt_bounds v.minSeq
  have hne : v.minSeq ≠ v.maxSeq := by
    rw [ne_eq, Word.eq_iff]
    omega
  unfold isPassFlipPositiveCheck
  split
  · have hrne : r ≠ v.minSeq := by
      rw [ne_eq, Word.eq_iff]
      omega
    split
    · exact duplicate_eq hrne (by omega)
    · exact isPassOverMaxCheck_eq hw hnear hrne (by omega)
  · split
    · next heq => exact advanceMin_eq hne heq
    · next hrne =>
      split
      · exact duplicate_eq hrne (by omega)
      · rw [Word.eq_iff] at hrne
        exact reject_eq hw hnear (by omega)

theorem isPassFlipNegativeCheck_eq (hmin : 0 ≤ v.minSeq.toInt) (hmax : v.maxSeq.toInt < 0) :
    isPassFlipNegativeCheck v r = v.windowCheck r := by
  have hint := near_int hnear
  have hwin := window_eq v
  have hd := Word.toNat_sub r v.minSeq
  have hb := Word.toInt_bounds r
  have hm := Word.toInt_bounds v.minSeq
  have hm' := Word.toInt_bounds v.maxSeq
  have hne : v.minSeq ≠ v.maxSeq := by
    rw [ne_eq, Word.eq_iff]
    omega
  unfold isPassFlipNegativeCheck
  split
  · split
    · next heq => exact advanceMin_eq hne heq
    · next hrne =>
      split
      · exact duplicate_eq hrne (by omega)
      · rw [Word.eq_iff] at hrne
        exact reject_eq hw hnear (by omega)
  · have hrne : r ≠ v.minSeq := by
      rw [ne_eq, Word.eq_iff]
      omega
    split
    · exact duplicate_eq hrne (by omega)
    · exact isPassOverMaxCheck_eq hw hnear hrne (by omega)

theorem isPassSeqCheck_eq : isPassSeqCheck v r = v.windowCheck r := by
  have hwin := window_eq v
  have hd := isDifferentSign_iff v.minSeq v.maxSeq
  have hm := Word.toInt_bounds v.maxSeq
  have hn := Word.toInt_bounds v.minSeq
  unfold isPassSeqCheck
  simp only [Bool.not_eq_true', ← Bool.not_eq_true, hd, not_not]
  split
  · next heq => exact isPassNormalCheck_eq hw hnear heq
  · next hne =>
    rw [Word.eq_iff] at hne
    split
    · next h => exact isPassNoflipDisorderCheck_eq hw hnear h.1 h.2
    split
    · exact isPassFlipNegativeCheck_eq hw hnear (by omega) (by omega)
    split
    · exact isPassFlipPositiveCheck_eq hw hnear (by omega) (by omega)
    · omega

end

/-! ## The marks -/

/-- The numbers of the window that are marked have been accepted. Marks below the window are left behind by the
in-order path and mean nothing. -/
structure MarksAccepted (v : SeqVerifyInfo) (acc : List (BitVec 32)) : Prop where
  window : v.window ≤ 60
  bitZero : v.recvBitmap.getLsbD 0 = false
  marked : ∀ s, (s - v.minSeq).toNat < v.window → v.recvBitmap.getLsbD (v.maxSeq - s).toNat = true → s ∈ acc

section
variable {v : SeqVerifyInfo} {acc : List (BitVec 32)} {r : BitVec 32} (h : v.MarksAccepted acc)
include h

theorem MarksAccepted.inOrder : MarksAccepted { v with minSeq := v.minSeq + 1, maxSeq := v.minSeq + 1 } acc := by
  have hw : SeqVerifyInfo.window { v with minSeq := v.minSeq + 1, maxSeq := v.minSeq + 1 } = 0 := by simp [SeqVerifyInfo.window]
  refine ⟨by omega, h.bitZero, fun s hs => ?_⟩
  rw [hw] at hs
  exact absurd hs (Nat.not_lt_zero _)

theorem MarksAccepted.advanceMin (hne : v.minSeq ≠ v.maxSeq) : MarksAccepted { v with minSeq := v.minSeq + 1 } acc := by
  have hwin := window_eq v
  have hwin' := window_eq { v with minSeq := v.minSeq + 1 }
  have hadd := Word.toInt_add_one v.minSeq
  have hbound := h.window
  rw [ne_eq, Word.eq_iff] at hne
  have hmin := Word.toInt_bounds v.minSeq
  have hmax := Word.toInt_bounds v.maxSeq
  dsimp only at hwin'
  refine ⟨by omega, h.bitZero, fun s hs hbit => h.marked s ?_ hbit⟩
  have hd := Word.toNat_sub s v.minSeq
  have hd' := Word.toNat_sub s (v.minSeq + 1)
  dsimp only at hs
  omega

theorem MarksAccepted.mark (hr : (r - v.minSeq).toNat < v.window) :
    MarksAccepted { v with recvBitmap := v.recvBitmap ||| (1#64 <<< (v.maxSeq - r).toNat) } (acc ++ [r]) := by
  have hwin := window_eq v
  have hbound := h.window
  have hd := Word.toNat_sub r v.minSeq
  have hk := Word.toNat_sub v.maxSeq r
  have hlt : (v.maxSeq - r).toNat < 64 := by omega
  refine ⟨h.window, ?_, fun s hs hbit => ?_⟩
  · rw [Word.getLsbD_or_bit _ _ _ hlt, h.bitZero, Bool.false_or, decide_eq_false_iff_not]
    omega
  · rw [Word.getLsbD_or_bit _ _ _ hlt, Bool.or_eq_true, decide_eq_true_eq] at hbit
    rw [List.mem_append, List.mem_singleton]
    rcases hbit with hbit | hbit
    · exact .inl (h.marked s hs hbit)
    · exact .inr (sub_right_injective (BitVec.eq_of_toNat_eq hbit)).symm

theorem MarksAccepted.extend (hr : v.window ≤ (r - v.minSeq).toNat) (hbias : (r - v.minSeq).toNat < 60) :
    MarksAccepted (v.extend r).info (acc ++ [r]) := by
  have hwin := window_eq v
  have hbound := h.window
  have hd := Word.toNat_sub r v.minSeq
  have hadd := Word.toInt_add_one r
  have hwin' := window_eq (v.extend r).info
  have hoff := Word.toNat_sub (r + 1) v.maxSeq
  rw [show r + 1 - v.maxSeq = r - v.maxSeq + 1 from (sub_add_eq_add_sub _ _ _).symm] at hoff
  simp only [SeqVerifyInfo.extend] at hwin' ⊢
  refine ⟨by omega, ?_, fun s hs hbit => ?_⟩
  · rw [Word.getLsbD_or_bit _ _ _ (by decide), BitVec.getLsbD_shiftLeft]
    have hpos : 0 < (r - v.maxSeq + 1).toNat := by omega
    simp only [hpos, decide_true, Bool.not_true, Bool.and_false, Bool.false_and, Bool.false_or]
    decide
  · have hs' := Word.toNat_sub s v.minSeq
    have hbit' := Word.toNat_sub (r + 1) s
    have hold := Word.toNat_sub v.maxSeq s
    dsimp only at hs hbit
    rw [Word.getLsbD_or_bit _ _ _ (by decide), BitVec.getLsbD_shiftLeft, Bool.or_eq_true, decide_eq_true_eq,
      Bool.and_eq_true, Bool.and_eq_true, Bool.not_eq_true', decide_eq_false_iff_not] at hbit
    rw [List.mem_append, List.mem_singleton]
    rcases hbit with ⟨⟨-, hge⟩, hbit⟩ | hone
    · by_cases hin : (s - v.minSeq).toNat < v.window
      · refine .inl (h.marked s hin ?_)
        rwa [show (v.maxSeq - s).toNat = (r + 1 - s).toNat - (r - v.maxSeq + 1).toNat by omega]
      · -- a number that the window did not span: the shift brought in no mark for it
        rw [show (r + 1 - s).toNat - (r - v.maxSeq + 1).toNat = 0 by omega, h.bitZero] at hbit
        exact nomatch hbit
    · refine .inr ((Word.eq_iff s r).mpr ?_)
      have hsl := Word.toInt_bounds s
      have hrl := Word.toInt_bounds r
      omega

theorem MarksAccepted.append (l : List (BitVec 32)) : v.MarksAccepted (acc ++ l) :=
  ⟨h.window, h.bitZero, fun s hs hbit => List.mem_append_left l (h.marked s hs hbit)⟩

theorem MarksAccepted.next (hnear : v.Near r) :
    MarksAccepted (v.next r) (acc ++ if (isPassSeqCheck v r).verdict = .pass then [r] else []) := by
  unfold SeqVerifyInfo.next
  rw [isPassSeqCheck_eq h.window hnear]
  unfold windowCheck
  split
  · next hr =>
    subst hr
    refine MarksAccepted.append ?_ _
    dsimp only
    split
    · exact h.inOrder
    · next hne => exact h.advanceMin hne
  · split
    · next hin =>
      unfold isPassDuplicateCheck
      dsimp only
      split
      · exact h.append _
      · exact h.mark hin
    · split
      · next hin hbias => exact h.extend (Nat.le_of_not_lt hin) hbias
      · exact h.append _

theorem MarksAccepted.pass (hr : (r - v.minSeq).toNat < 60) (hnew : r ∉ acc) :
    (isPassSeqCheck v r).verdict = .pass := by
  rw [isPassSeqCheck_eq h.window (.inl (by omega))]
  unfold windowCheck
  split
  · rfl
  · split
    · next hin =>
      unfold isPassDuplicateCheck
      dsimp only
      split
      · next hbit =>
        rw [Word.and_bit_ne_zero] at hbit
        exact absurd (h.marked r hin hbit) hnew
      · rfl
    · rfl

end

theorem MarksAccepted.run : ∀ (l : List (BitVec 32)) {v : SeqVerifyInfo} {acc : List (BitVec 32)}, v.MarksAccepted acc →
    Run.Always SeqVerifyInfo.next Near v l → (Run.final SeqVerifyInfo.next v l).MarksAccepted (acc ++ acceptedSeqs v l)
  | [], _, _, h, _ => h.append _
  | r :: l, v, acc, h, hnear => by
    have hrun := MarksAccepted.run l (h.next hnear.1) hnear.2
    rwa [List.append_assoc] at hrun

theorem MarksAccepted.init : SeqVerifyInfo.init.MarksAccepted [] := by
  refine ⟨by decide, by decide, fun s hs => ?_⟩
  exact absurd hs (Nat.not_lt_zero _)

/-- In every run of calls near `minSeq` the branches on signs come to one check on distances. -/
theorem seq_check_refines_window (l : List (BitVec 32)) (hnear : Run.Always next Near .init l) :
    Run.Always next (fun v recvSeq => isPassSeqCheck v recvSeq = v.windowCheck recvSeq) .init l :=
  Run.always_of_inv (I := fun v => ∃ acc, v.MarksAccepted acc)
    (fun _ _ ⟨_, h⟩ hnear => ⟨⟨_, h.next hnear⟩, isPassSeqCheck_eq h.window hnear⟩) l ⟨[], MarksAccepted.init⟩ hnear

theorem seq_check_refines_window_disorder : Run.Always next
    (fun v recvSeq => isPassSeqCheck v recvSeq = v.windowCheck recvSeq) .init [0, 1, 3, 2] :=
  seq_check_refines_window _ (by decide)

end SeqVerifyInfo

open SeqVerifyInfo in
/-- After every run of calls near `minSeq`, the numbers of the open window that are marked have been
accepted, and one that has not been accepted yet is accepted. -/
theorem open_window_accepted (l : List (BitVec 32)) (hnear : Run.Always SeqVerifyInfo.next Near .init l) :
    (∀ recvSeq, (recvSeq - (Run.final SeqVerifyInfo.next .init l).minSeq).toNat <
        (Run.final SeqVerifyInfo.next .init l).window →
      (Run.final SeqVerifyInfo.next .init l).recvBitmap.getLsbD
        ((Run.final SeqVerifyInfo.next .init l).maxSeq - recvSeq).toNat = true → recvSeq ∈ acceptedSeqs .init l) ∧
    ∀ recvSeq, (recvSeq - (Run.final SeqVerifyInfo.next .init l).minSeq).toNat < 60 → recvSeq ∉ acceptedSeqs .init l →
      (isPassSeqCheck (Run.final SeqVerifyInfo.next .init l) recvSeq).verdict = .pass := by
  have h := MarksAccepted.run l MarksAccepted.init hnear
  rw [List.nil_append] at h
  exact ⟨h.marked, fun recvSeq => h.pass⟩

theorem open_window_accepted_disorder :
    (isPassSeqCheck (Run.final SeqVerifyInfo.next .init [0, 1, 3, 2]) 4).verdict = .pass :=
  (open_window_accepted [0, 1, 3, 2] (by decide)).2 4 (by decide) (by decide)

end SoftBus
