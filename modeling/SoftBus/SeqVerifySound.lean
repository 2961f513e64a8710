import SoftBus.SeqVerify

/-!
# The verification window and replay protection
-/

namespace SoftBus

/-! ## The window -/

/-- What one call may do to a sound window: no shift beyond the word, no branch
marked as not reachable, at most `maxSeqBias` numbers spanned afterwards. -/
structure SeqCheck.Safe (c : SeqCheck) : Prop where
  reachable : c.verdict ≠ .unreachable
  shifts : ∀ k ∈ c.shifts, k ≤ 63
  window : (c.info.window : Int) ≤ maxSeqBias

/-- `recvSeq` lies on the other side of the sign from `minSeq` and more than
half the number space ahead of it, but less than that ahead of `maxSeq`. -/
def SeqVerifyInfo.Overruns (v : SeqVerifyInfo) (recvSeq : BitVec 32) : Prop :=
  isDifferentSign recvSeq v.minSeq = true ∧ 2 ^ 31 ≤ (recvSeq - v.minSeq).toNat ∧
    (recvSeq - v.minSeq).toNat < 2 ^ 31 + v.window

theorem window_eq (v : SeqVerifyInfo) :
    (v.window : Int) = (v.maxSeq.toInt - v.minSeq.toInt) % 4294967296 :=
  Word.toNat_sub _ _

theorem isDifferentSign_iff (a b : BitVec 32) :
    isDifferentSign a b = true ↔ ¬ (0 ≤ a.toInt ↔ 0 ≤ b.toInt) := by
  simp only [isDifferentSign, Bool.not_eq_true', Bool.or_eq_false_iff, Bool.and_eq_false_iff,
    decide_eq_false_iff_not]
  omega

theorem overruns_iff (v : SeqVerifyInfo) (r : BitVec 32) :
    v.Overruns r ↔ ¬ (0 ≤ r.toInt ↔ 0 ≤ v.minSeq.toInt) ∧
      2147483648 ≤ (r.toInt - v.minSeq.toInt) % 4294967296 ∧
      (r.toInt - v.minSeq.toInt) % 4294967296 < 2147483648 + v.window := by
  have := Word.toNat_sub r v.minSeq
  unfold SeqVerifyInfo.Overruns
  rw [isDifferentSign_iff]
  constructor <;> rintro ⟨h₁, h₂, h₃⟩ <;> refine ⟨h₁, ?_, ?_⟩ <;> omega

section
variable {v : SeqVerifyInfo} {r : BitVec 32}

theorem reject_safe (hw : v.window ≤ 60) : (SeqCheck.mk .reject v []).Safe :=
  ⟨by simp, by simp, by simp only [maxSeqBias]; omega⟩

theorem duplicate_safe (hw : v.window ≤ 60) (ho : (v.maxSeq.toInt - r.toInt) % 4294967296 ≤ 63) :
    (isPassDuplicateCheck v r).Safe := by
  have hn := Word.toNat_sub v.maxSeq r
  have hk : (v.maxSeq - r).toNat ≤ 63 := by omega
  unfold isPassDuplicateCheck
  dsimp only
  split
  · exact ⟨by simp, by simpa using hk, by simp only [maxSeqBias]; omega⟩
  · refine ⟨by simp, by simpa using hk, ?_⟩
    simp only [SeqVerifyInfo.window, maxSeqBias] at *; omega

theorem advanceMin_safe (hw : v.window ≤ 60) (hne : v.minSeq ≠ v.maxSeq) :
    (SeqCheck.mk .pass { v with minSeq := v.minSeq + 1 } []).Safe := by
  refine ⟨by simp, by simp, ?_⟩
  rw [ne_eq, Word.eq_iff] at hne
  have h₁ := window_eq v
  have h₂ := window_eq { v with minSeq := v.minSeq + 1 }
  have h₃ := Word.toInt_add_one v.minSeq
  have := Word.toInt_bounds v.minSeq
  have := Word.toInt_bounds v.maxSeq
  simp only [maxSeqBias] at *; omega

theorem overMax_safe_iff (hw : v.window ≤ 60) :
    (isPassOverMaxCheck v r).Safe ↔
      ¬ ((r.toInt - v.maxSeq.toInt) % 4294967296 < 2147483648 ∧
        2147483648 ≤ (r.toInt - v.maxSeq.toInt) % 4294967296 + v.window) := by
  have hM := Word.toInt_sub r v.maxSeq
  have hm := Word.toInt_sub r v.minSeq
  have hk := Word.toNat_sub (r + 1) v.maxSeq
  have hr := Word.toInt_add_one r
  have hwin := window_eq v
  have hs : r - v.maxSeq + 1 = r + 1 - v.maxSeq := sub_add_eq_add_sub _ _ _
  have hb : maxSeqBias = 60 := rfl
  unfold isPassOverMaxCheck
  rw [hs]
  split
  · exact iff_of_true (reject_safe hw) (by omega)
  split
  · exact iff_of_true (reject_safe hw) (by omega)
  constructor
  · rintro ⟨_, hsh, _⟩
    have := hsh (r + 1 - v.maxSeq).toNat (by simp)
    omega
  · intro h
    refine ⟨by simp, ?_, ?_⟩
    · simp only [List.mem_cons, List.not_mem_nil, or_false]
      rintro k (rfl | rfl)
      · omega
      · omega
    · have hwin' := window_eq { v with maxSeq := r + 1 }
      simp only [SeqVerifyInfo.window, maxSeqBias] at *; omega

theorem allRange_safe (hw : v.window ≤ 60) (hlt : v.minSeq.toInt < v.maxSeq.toInt)
    (hs : 0 ≤ r.toInt ↔ 0 ≤ v.minSeq.toInt) : (isPassAllRangeCheck v r).Safe := by
  have hwin := window_eq v
  have := Word.toInt_bounds v.maxSeq
  have := Word.toInt_bounds v.minSeq
  have := Word.toInt_bounds r
  unfold isPassAllRangeCheck
  split
  · next heq =>
    subst heq
    exact advanceMin_safe hw fun h => by rw [Word.eq_iff] at h; omega
  split
  · split
    · exact duplicate_safe hw (by omega)
    · exact (overMax_safe_iff hw).mpr (by omega)
  · exact reject_safe hw

theorem normal_safe (heq : v.minSeq = v.maxSeq) : (isPassNormalCheck v r).Safe := by
  have hw : v.window = 0 := by simp [SeqVerifyInfo.window, heq]
  have hw' : v.window ≤ 60 := by omega
  have hover : (isPassOverMaxCheck v r).Safe := (overMax_safe_iff hw').mpr (by omega)
  unfold isPassNormalCheck
  split
  · exact ⟨by simp, by simp, by simp [SeqVerifyInfo.window, maxSeqBias]⟩
  split
  · split
    · exact hover
    · exact reject_safe hw'
  · exact hover

theorem noflip_safe_iff (hw : v.window ≤ 60) (hlt : v.minSeq.toInt < v.maxSeq.toInt)
    (hs : 0 ≤ v.minSeq.toInt ↔ 0 ≤ v.maxSeq.toInt) :
    (isPassNoflipDisorderCheck v r).Safe ↔ ¬ v.Overruns r := by
  have hwin := window_eq v
  have := Word.toInt_bounds v.maxSeq
  have := Word.toInt_bounds v.minSeq
  have := Word.toInt_bounds r
  have hover := overMax_safe_iff (r := r) hw
  rw [overruns_iff]
  unfold isPassNoflipDisorderCheck
  split
  · split
    · exact iff_of_true (allRange_safe hw hlt (by omega)) (by omega)
    · rw [hover]; omega
  split
  · split
    · exact iff_of_true (allRange_safe hw hlt (by omega)) (by omega)
    · rw [hover]; omega
  · omega

theorem flipPositive_safe_iff (hw : v.window ≤ 60) (hmin : v.minSeq.toInt < 0) (hmax : 0 ≤ v.maxSeq.toInt) :
    (isPassFlipPositiveCheck v r).Safe ↔ ¬ v.Overruns r := by
  have hwin := window_eq v
  have := Word.toInt_bounds v.maxSeq
  have := Word.toInt_bounds v.minSeq
  have := Word.toInt_bounds r
  rw [overruns_iff]
  unfold isPassFlipPositiveCheck
  split
  · split
    · exact iff_of_true (duplicate_safe hw (by omega)) (by omega)
    · rw [overMax_safe_iff hw]; omega
  split
  · next heq =>
    subst heq
    exact iff_of_true (advanceMin_safe hw fun h => by rw [h] at hmin; omega) (by omega)
  split
  · exact iff_of_true (duplicate_safe hw (by omega)) (by omega)
  · exact iff_of_true (reject_safe hw) (by omega)

theorem flipNegative_safe_iff (hw : v.window ≤ 60) (hmin : 0 ≤ v.minSeq.toInt) (hmax : v.maxSeq.toInt < 0) :
    (isPassFlipNegativeCheck v r).Safe ↔ ¬ v.Overruns r := by
  have hwin := window_eq v
  have := Word.toInt_bounds v.minSeq
  have := Word.toInt_bounds v.maxSeq
  have := Word.toInt_bounds r
  rw [overruns_iff]
  unfold isPassFlipNegativeCheck
  split
  · split
    · next heq =>
      subst heq
      exact iff_of_true (advanceMin_safe hw fun h => by rw [h] at hmin; omega) (by omega)
    split
    · exact iff_of_true (duplicate_safe hw (by omega)) (by omega)
    · exact iff_of_true (reject_safe hw) (by omega)
  split
  · exact iff_of_true (duplicate_safe hw (by omega)) (by omega)
  · rw [overMax_safe_iff hw]; omega

theorem isPassSeqCheck_safe_iff (hw : v.window ≤ 60) : (isPassSeqCheck v r).Safe ↔ ¬ v.Overruns r := by
  have hwin := window_eq v
  have hd := isDifferentSign_iff v.minSeq v.maxSeq
  have := Word.toInt_bounds v.maxSeq
  have := Word.toInt_bounds v.minSeq
  unfold isPassSeqCheck
  simp only [Bool.not_eq_true', ← Bool.not_eq_true, hd, not_not]
  split
  · next heq =>
    refine iff_of_true (normal_safe heq) ?_
    have : v.window = 0 := by simp [SeqVerifyInfo.window, heq]
    rw [overruns_iff]; omega
  · next hne =>
    rw [Word.eq_iff] at hne
    split
    · next h => exact noflip_safe_iff hw h.1 h.2
    split
    · exact flipNegative_safe_iff hw (by omega) (by omega)
    split
    · exact flipPositive_safe_iff hw (by omega) (by omega)
    · omega

end

/-- A run keeps the window, stays inside the bitmap word and out of the
branches marked as not reachable exactly when no received number overruns. -/
theorem window_safe_iff (l : List (BitVec 32)) :
    Run.Always SeqVerifyInfo.next (fun v r => (isPassSeqCheck v r).Safe) .init l ↔
      Run.Always SeqVerifyInfo.next (fun v r => ¬ v.Overruns r) .init l := by
  refine Run.always_iff_of_inv (I := fun v => v.window ≤ 60) ?_ ?_ (by decide) l
  · intro v r hw
    exact isPassSeqCheck_safe_iff hw
  · intro v r _ hs
    have := hs.window
    simp only [maxSeqBias, SeqVerifyInfo.next] at *; omega

/-- One early packet opens a window of two numbers, and the next, just over
half the number space ahead, is taken and shifts the bitmap by `2 ^ 31`. -/
theorem window_overrun :
    ¬ Run.Always SeqVerifyInfo.next (fun v r => (isPassSeqCheck v r).Safe) .init [1, 0x80000001] := by
  rintro ⟨_, h, _⟩
  exact absurd (h.shifts 2147483648 (by decide)) (by decide)

/-! ## Replays -/

/-- `minSeq` arrives again after it was taken out of order. -/
def SeqVerifyInfo.ReplaysMin (v : SeqVerifyInfo) (recvSeq : BitVec 32) : Prop :=
  recvSeq = v.minSeq ∧ v.minSeq ≠ v.maxSeq ∧ v.recvBitmap.getLsbD v.window = true

instance (v : SeqVerifyInfo) (recvSeq : BitVec 32) : Decidable (v.ReplaysMin recvSeq) :=
  inferInstanceAs (Decidable (_ ∧ _ ∧ _))

theorem isPassSeqCheck_cases {v : SeqVerifyInfo} (r : BitVec 32) (h0 : 0 ≤ v.minSeq.toInt)
    (hle : v.minSeq.toInt ≤ v.maxSeq.toInt) (hb : v.maxSeq.toInt - v.minSeq.toInt ≤ 60) :
    (r = v.minSeq ∧ v.minSeq = v.maxSeq ∧
      isPassSeqCheck v r = ⟨.pass, { v with minSeq := r + 1, maxSeq := r + 1 }, []⟩) ∨
    (r = v.minSeq ∧ v.minSeq ≠ v.maxSeq ∧
      isPassSeqCheck v r = ⟨.pass, { v with minSeq := r + 1 }, []⟩) ∨
    (v.minSeq.toInt < r.toInt ∧ r.toInt < v.maxSeq.toInt ∧
      isPassSeqCheck v r = isPassDuplicateCheck v r) ∨
    (r ≠ v.minSeq ∧ v.maxSeq.toInt ≤ r.toInt ∧ isPassSeqCheck v r = isPassOverMaxCheck v r) ∨
    (r ≠ v.minSeq ∧ isPassSeqCheck v r = ⟨.reject, v, []⟩) ∨
    (r.toInt < 0 ∧ isPassSeqCheck v r = isPassOverMaxCheck v r) := by
  have hd := isDifferentSign_iff v.minSeq v.maxSeq
  have hr := isDifferentSign_iff r v.minSeq
  have hnd : isDifferentSign v.minSeq v.maxSeq = false := by
    rw [← Bool.not_eq_true, hd]; omega
  unfold isPassSeqCheck
  simp only [hnd, Bool.not_false, and_true]
  split
  · next heq =>
    unfold isPassNormalCheck
    split
    · next hrm => exact .inl ⟨hrm, heq, rfl⟩
    · next hrm =>
      split
      · next hs =>
        rw [Bool.not_eq_true', ← Bool.not_eq_true, hr] at hs
        split
        · exact .inr (.inr (.inr (.inl ⟨hrm, by omega, rfl⟩)))
        · exact .inr (.inr (.inr (.inr (.inl ⟨hrm, rfl⟩))))
      · next hs =>
        rw [Bool.not_eq_true', Bool.not_eq_false, hr] at hs
        exact .inr (.inr (.inr (.inr (.inr ⟨by omega, rfl⟩))))
  · next hne =>
    have hlt : v.minSeq.toInt < v.maxSeq.toInt := by rw [Word.eq_iff] at hne; omega
    rw [if_pos hlt]
    unfold isPassNoflipDisorderCheck
    rw [if_pos h0]
    split
    · unfold isPassAllRangeCheck
      split
      · next hrm => exact .inr (.inl ⟨hrm, hne, rfl⟩)
      · next hrm =>
        split
        · split
          · exact .inr (.inr (.inl ⟨by assumption, by assumption, rfl⟩))
          · exact .inr (.inr (.inr (.inl ⟨hrm, by omega, rfl⟩)))
        · exact .inr (.inr (.inr (.inr (.inl ⟨hrm, rfl⟩))))
    · exact .inr (.inr (.inr (.inr (.inr ⟨by omega, rfl⟩))))

structure ReplayInv (v : SeqVerifyInfo) (acc : List (BitVec 32)) : Prop where
  nonneg : 0 ≤ v.minSeq.toInt
  ordered : v.minSeq.toInt ≤ v.maxSeq.toInt
  bias : v.maxSeq.toInt - v.minSeq.toInt ≤ 60
  bitZero : v.recvBitmap.getLsbD 0 = false
  below : ∀ s ∈ acc, s.toInt < v.maxSeq.toInt
  marked : ∀ s : BitVec 32, v.minSeq.toInt ≤ s.toInt → s.toInt < v.maxSeq.toInt →
    (v.recvBitmap.getLsbD (v.maxSeq.toInt - s.toInt).toNat = true ↔ s ∈ acc)
  nodup : acc.Nodup

section
variable {v : SeqVerifyInfo} {acc : List (BitVec 32)} (hi : ReplayInv v acc)
include hi

theorem window_toNat : v.window = (v.maxSeq.toInt - v.minSeq.toInt).toNat := by
  have := window_eq v
  have := hi.ordered
  have := hi.bias
  omega

theorem ReplayInv.nodup_concat {r : BitVec 32} (hr : r ∉ acc) : (acc ++ [r]).Nodup :=
  List.concat_eq_append ▸ hi.nodup.concat hr

theorem ReplayInv.not_mem_of_le {r : BitVec 32} (hr : v.maxSeq.toInt ≤ r.toInt) : r ∉ acc :=
  fun hmem => absurd (hi.below r hmem) (not_lt.mpr hr)

theorem replayInv_inOrder (hnn : 0 ≤ (v.maxSeq + 1).toInt) :
    ReplayInv { v with minSeq := v.maxSeq + 1, maxSeq := v.maxSeq + 1 } (acc ++ [v.maxSeq]) := by
  have h1 := Word.toInt_add_one v.maxSeq
  have hM := Word.toInt_bounds v.maxSeq
  have h0 := hi.nonneg
  have hord := hi.ordered
  refine ⟨hnn, le_rfl, by simp, hi.bitZero, ?_, ?_, ?_⟩
  · intro s hs
    rcases List.mem_append.mp hs with hs | hs
    · have := hi.below s hs; simp only; omega
    · rw [List.mem_singleton] at hs; subst hs; simp only; omega
  · intro s h₁ h₂; simp only at h₁ h₂; omega
  · exact hi.nodup_concat (hi.not_mem_of_le le_rfl)

theorem replayInv_advanceMin (hne : v.minSeq ≠ v.maxSeq) (hbit : v.recvBitmap.getLsbD v.window = false) :
    ReplayInv { v with minSeq := v.minSeq + 1 } (acc ++ [v.minSeq]) := by
  rw [ne_eq, Word.eq_iff] at hne
  have h1 := Word.toInt_add_one v.minSeq
  have hM := Word.toInt_bounds v.maxSeq
  have h0 := hi.nonneg
  have hord := hi.ordered
  have hb := hi.bias
  have hnew : v.minSeq ∉ acc := by
    rw [← hi.marked v.minSeq le_rfl (by omega), ← window_toNat hi, hbit]; simp
  refine ⟨by simp only; omega, by simp only; omega, by simp only; omega, hi.bitZero, ?_, ?_, ?_⟩
  · intro s hs
    rcases List.mem_append.mp hs with hs | hs
    · exact hi.below s hs
    · rw [List.mem_singleton] at hs; subst hs; simp only; omega
  · intro s h₁ h₂
    simp only at h₁ h₂ ⊢
    rw [hi.marked s (by omega) h₂, List.mem_append, List.mem_singleton]
    refine ⟨.inl, fun h => h.resolve_right fun he => ?_⟩
    rw [he] at h₁; omega
  · exact hi.nodup_concat hnew

theorem replayInv_mark {r : BitVec 32} (hlo : v.minSeq.toInt < r.toInt) (hhi : r.toInt < v.maxSeq.toInt)
    (hbit : v.recvBitmap.getLsbD (v.maxSeq - r).toNat = false) :
    ReplayInv { v with recvBitmap := v.recvBitmap ||| (1#64 <<< (v.maxSeq - r).toNat) } (acc ++ [r]) := by
  have hk := Word.toNat_sub v.maxSeq r
  have hM := Word.toInt_bounds v.maxSeq
  have h0 := hi.nonneg
  have hb := hi.bias
  have hoff : (v.maxSeq - r).toNat = (v.maxSeq.toInt - r.toInt).toNat := by omega
  have hnew : r ∉ acc := by
    rw [← hi.marked r (by omega) hhi, ← hoff, hbit]; simp
  have hlt : (v.maxSeq - r).toNat < 64 := by omega
  refine ⟨h0, hi.ordered, hb, ?_, ?_, ?_, ?_⟩
  · rw [Word.getLsbD_or_bit _ _ _ hlt, hi.bitZero, Bool.false_or, decide_eq_false_iff_not]; omega
  · intro s hs
    rcases List.mem_append.mp hs with hs | hs
    · exact hi.below s hs
    · rw [List.mem_singleton] at hs; subst hs; exact hhi
  · intro s h₁ h₂
    simp only at h₁ h₂ ⊢
    rw [Word.getLsbD_or_bit _ _ _ hlt, Bool.or_eq_true, hi.marked s h₁ h₂, List.mem_append,
      List.mem_singleton, decide_eq_true_eq, Word.eq_iff s r]
    refine or_congr Iff.rfl ⟨fun h => ?_, fun h => ?_⟩ <;> omega
  · exact hi.nodup_concat hnew

theorem replayInv_extend {r : BitVec 32} (hhi : v.maxSeq.toInt ≤ r.toInt)
    (hbias : (r - v.minSeq).toInt < maxSeqBias) (hnn : 0 ≤ (r + 1).toInt) :
    ReplayInv { v with maxSeq := r + 1,
                       recvBitmap := (v.recvBitmap <<< (r - v.maxSeq + 1).toNat) ||| (1#64 <<< 1) }
      (acc ++ [r]) := by
  have hs : r - v.maxSeq + 1 = r + 1 - v.maxSeq := sub_add_eq_add_sub _ _ _
  have hk := Word.toNat_sub (r + 1) v.maxSeq
  have hsub := Word.toInt_sub r v.minSeq
  have h1 := Word.toInt_add_one r
  have hr := Word.toInt_bounds r
  have h0 := hi.nonneg
  have hord := hi.ordered
  have hb := hi.bias
  simp only [maxSeqBias] at hbias
  rw [hs]
  have hoff : (r + 1 - v.maxSeq).toNat = (r.toInt + 1 - v.maxSeq.toInt).toNat := by omega
  refine ⟨h0, by simp only; omega, by simp only; omega, ?_, ?_, ?_, ?_⟩
  · rw [Word.getLsbD_or_bit _ _ _ (by decide), BitVec.getLsbD_shiftLeft]
    simp only [Nat.reduceLT, decide_true, Bool.true_and, Nat.zero_sub, hi.bitZero, Bool.and_false,
      Bool.false_or, decide_eq_false_iff_not]
    omega
  · intro s hs
    rcases List.mem_append.mp hs with hs | hs
    · have := hi.below s hs; simp only; omega
    · rw [List.mem_singleton] at hs; subst hs; simp only; omega
  · intro s h₁ h₂
    simp only at h₁ h₂ ⊢
    rw [Word.getLsbD_or_bit _ _ _ (by decide), BitVec.getLsbD_shiftLeft, Bool.or_eq_true, List.mem_append,
      List.mem_singleton, decide_eq_true_eq, Word.eq_iff s r]
    have hlast : 1 = ((r + 1).toInt - s.toInt).toNat ↔ s.toInt = r.toInt := by
      constructor <;> intro h <;> omega
    rw [hlast]
    refine or_congr ?_ Iff.rfl
    by_cases hold : s.toInt < v.maxSeq.toInt
    · -- an old number of the window: its mark moved with the shift
      rw [← hi.marked s h₁ hold]
      have e : ((r + 1).toInt - s.toInt).toNat - (r + 1 - v.maxSeq).toNat =
          (v.maxSeq.toInt - s.toInt).toNat := by omega
      rw [e]
      have g₁ : ((r + 1).toInt - s.toInt).toNat < 64 := by omega
      have g₂ : ¬ ((r + 1).toInt - s.toInt).toNat < (r + 1 - v.maxSeq).toNat := by omega
      simp only [g₁, g₂, decide_true, decide_false, Bool.not_false, Bool.true_and]
    · -- a number the window did not span before: nothing was there to move
      have hout : s ∉ acc := fun hmem => hold (hi.below s hmem)
      refine iff_of_false ?_ hout
      by_cases hlt : ((r + 1).toInt - s.toInt).toNat < (r + 1 - v.maxSeq).toNat
      · simp only [hlt, decide_true, Bool.not_true, Bool.and_false, Bool.false_and, Bool.false_eq_true,
          not_false_eq_true]
      · have e : ((r + 1).toInt - s.toInt).toNat - (r + 1 - v.maxSeq).toNat = 0 := by omega
        rw [e, hi.bitZero]; simp
  · exact hi.nodup_concat (hi.not_mem_of_le hhi)

theorem replayInv_next {r : BitVec 32} (hgood : ¬ v.ReplaysMin r)
    (hadv : v.maxSeq.toInt + ((v.next r).maxSeq - v.maxSeq).toNat < 2147483648) :
    ReplayInv (v.next r) (acc ++ if (isPassSeqCheck v r).verdict = .pass then [r] else []) := by
  have h0 := hi.nonneg
  have hord := hi.ordered
  have hb := hi.bias
  have hadv' := Word.toNat_sub (v.next r).maxSeq v.maxSeq
  have hnextlt := Word.toInt_bounds (v.next r).maxSeq
  have hnn : v.maxSeq.toInt ≤ (v.next r).maxSeq.toInt := by omega
  unfold SeqVerifyInfo.next at *
  rcases isPassSeqCheck_cases r h0 hord hb with
    ⟨hr, he, h⟩ | ⟨hr, hne, h⟩ | ⟨hlo, hhi, h⟩ | ⟨-, hhi, h⟩ | ⟨-, h⟩ | ⟨hneg, h⟩
  · rw [h] at hnn ⊢
    rw [hr, he] at hnn ⊢
    exact replayInv_inOrder hi (by simp only at hnn; omega)
  · rw [h, hr]
    exact replayInv_advanceMin hi hne (by simpa [SeqVerifyInfo.ReplaysMin, hr, hne] using hgood)
  · rw [h]
    unfold isPassDuplicateCheck
    dsimp only
    split
    · simpa using hi
    · next hbit =>
      rw [Word.and_bit_ne_zero, Bool.not_eq_true] at hbit
      exact replayInv_mark hi hlo hhi hbit
  · rw [h] at hnn ⊢
    unfold isPassOverMaxCheck at *
    split
    · simpa using hi
    split
    · simpa using hi
    · next h₁ h₂ =>
      rw [if_neg h₁, if_neg h₂] at hnn
      exact replayInv_extend hi hhi (by omega) (by simp only at hnn; omega)
  · rw [h]; simpa using hi
  · -- a negative number is either behind the window or takes `maxSeq` past the largest one
    have hle := Word.toInt_bounds r
    have h1 := Word.toInt_add_one r
    have hsub := Word.toInt_sub r v.maxSeq
    rw [h] at hnn ⊢
    unfold isPassOverMaxCheck at *
    split
    · simpa using hi
    split
    · simpa using hi
    · next h₁ h₂ =>
      rw [if_neg h₁, if_neg h₂] at hnn
      simp only at hnn
      omega

theorem replaysMin_accepts {r : BitVec 32} (hbad : v.ReplaysMin r) :
    (isPassSeqCheck v r).verdict = .pass ∧ r ∈ acc := by
  obtain ⟨rfl, hne, hbit⟩ := hbad
  have hlt : v.minSeq.toInt < v.maxSeq.toInt := by
    have := hi.ordered
    rw [ne_eq, Word.eq_iff] at hne; omega
  refine ⟨?_, ?_⟩
  · rcases isPassSeqCheck_cases v.minSeq hi.nonneg hi.ordered hi.bias with
      ⟨-, he, -⟩ | ⟨-, -, h⟩ | ⟨hlo, -⟩ | ⟨hr, -⟩ | ⟨hr, -⟩ | ⟨hneg, -⟩
    · exact absurd he hne
    · rw [h]
    · exact absurd hlo (lt_irrefl _)
    · exact absurd rfl hr
    · exact absurd rfl hr
    · have := hi.nonneg; omega
  · rw [window_toNat hi] at hbit
    exact (hi.marked v.minSeq le_rfl hlt).mp hbit

end

theorem accepted_nodup_iff : ∀ (l : List (BitVec 32)) {v : SeqVerifyInfo} {acc : List (BitVec 32)},
    ReplayInv v acc → v.maxSeq.toInt + maxSeqAdvance v l < 2147483648 →
    ((acc ++ acceptedSeqs v l).Nodup ↔ Run.Always SeqVerifyInfo.next (fun v r => ¬ v.ReplaysMin r) v l)
  | [], _, acc, hi, _ => by simpa [acceptedSeqs] using hi.nodup
  | r :: l, v, acc, hi, hadv => by
    have hsum : maxSeqAdvance v (r :: l) =
        ((v.next r).maxSeq - v.maxSeq).toNat + maxSeqAdvance (v.next r) l := by simp [maxSeqAdvance]
    have hacc : acceptedSeqs v (r :: l) =
        (if (isPassSeqCheck v r).verdict = .pass then [r] else []) ++ acceptedSeqs (v.next r) l := rfl
    rw [Run.always_cons, hacc]
    by_cases hbad : v.ReplaysMin r
    · obtain ⟨hpass, hmem⟩ := replaysMin_accepts hi hbad
      refine iff_of_false (fun hnd => ?_) fun h => h.1 hbad
      rw [if_pos hpass] at hnd
      exact (List.nodup_append.mp hnd).2.2 r hmem r (by simp) rfl
    · have hn := Word.toNat_sub (v.next r).maxSeq v.maxSeq
      have h0 := hi.nonneg
      have hord := hi.ordered
      have := Word.toInt_bounds (v.next r).maxSeq
      rw [← List.append_assoc, accepted_nodup_iff l (replayInv_next hi hbad (by omega)) (by omega)]
      exact (and_iff_right hbad).symm

theorem replayInv_init : ReplayInv .init [] :=
  ⟨by decide, by decide, by decide, by decide, by simp, fun s h₁ h₂ => by simp [SeqVerifyInfo.init] at h₁ h₂; omega,
    List.nodup_nil⟩

/-- Within half the number space, no number is accepted twice exactly when no
step is handed a `minSeq` that was already taken out of order. -/
theorem replay_protection_iff (l : List (BitVec 32)) (hadv : maxSeqAdvance .init l < 2 ^ 31) :
    (acceptedSeqs .init l).Nodup ↔
      Run.Always SeqVerifyInfo.next (fun v r => ¬ v.ReplaysMin r) .init l := by
  have h0 : SeqVerifyInfo.init.maxSeq.toInt = 0 := by decide
  exact accepted_nodup_iff l replayInv_init (by omega)

/-- Reordered, duplicated and late numbers, none of them a replay of `minSeq`. -/
theorem replay_protection_reordered :
    maxSeqAdvance .init [0, 1, 4, 3, 4, 2, 1, 9] < 2 ^ 31 ∧
      acceptedSeqs .init [0, 1, 4, 3, 4, 2, 1, 9] = [0, 1, 4, 3, 2, 9] ∧
      (acceptedSeqs .init [0, 1, 4, 3, 4, 2, 1, 9]).Nodup :=
  ⟨by decide, by decide, (replay_protection_iff _ (by decide)).mpr (by decide)⟩

/-- The number `1` comes early, `0` fills the gap, and `1` is accepted again. -/
theorem replay_of_minSeq :
    maxSeqAdvance .init [1, 0, 1] < 2 ^ 31 ∧ ¬ (acceptedSeqs .init [1, 0, 1]).Nodup := by
  decide

end SoftBus
