import Mathlib.Data.List.Basic

/-!
# Reference counts

An object is kept alive by the threads that hold it and by a registry. The
counter starts with the registry's reference. The object is freed when the
counter reaches zero, and how many threads hold it at that moment is recorded.
A registry that drops its reference once is safe; one that drops it twice frees
an object under a thread that still holds it.
-/

namespace RefCount

structure Counter where
  value : Int := 1
  -- How often the registry has dropped its reference.
  drops : Nat := 0
  -- The number of holders at each free, in order.
  frees : List Nat := []
deriving DecidableEq, Repr

namespace Counter

def acquire (c : Counter) : Counter := { c with value := c.value + 1 }

def unref (holders : Nat) (c : Counter) : Counter :=
  { c with value := c.value - 1, frees := if c.value - 1 = 0 then c.frees ++ [holders] else c.frees }

def drop (holders : Nat) (c : Counter) : Counter := { c.unref holders with drops := c.drops + 1 }

def FreedSafely (c : Counter) : Prop := (∀ h ∈ c.frees, h = 0) ∧ c.frees.length ≤ 1

instance (c : Counter) : Decidable c.FreedSafely := inferInstanceAs (Decidable (_ ∧ _))

/-- The object is alive and every reference is counted, or it was freed well and nobody holds it, or it
was freed under a thread after more than one drop. -/
inductive Accounted (c : Counter) (holders : Nat) : Prop
  | alive (frees : c.frees = []) (value : c.value + c.drops = holders + 1)
  | gone (frees : c.frees = [0]) (drops : c.drops = 1) (holders : holders = 0)
  | broken (frees : ∃ h ∈ c.frees, h ≠ 0) (drops : 2 ≤ c.drops)

section
variable {c : Counter} {holders : Nat}

theorem accounted_new : Accounted {} 0 := .alive rfl rfl

theorem Accounted.acquire (h : c.Accounted holders) (hf : c.frees = []) : c.acquire.Accounted (holders + 1) := by
  cases h with
  | alive _ hv =>
    refine .alive hf ?_
    simp only [Counter.acquire]
    omega
  | gone hg => simp [hf] at hg
  | broken hb => simp [hf] at hb

theorem accounted_unref (hf : c.frees = []) (hv : c.value + c.drops = holders + 2) :
    (c.unref holders).Accounted holders := by
  by_cases hz : c.value - 1 = 0
  · have hfrees : (c.unref holders).frees = [holders] := by simp [Counter.unref, hz, hf]
    by_cases hh : holders = 0
    · exact .gone (by rw [hfrees, hh]) (by simp only [Counter.unref]; omega) hh
    · exact .broken ⟨holders, by simp [hfrees], hh⟩ (by simp only [Counter.unref]; omega)
  · refine .alive (by simp [Counter.unref, hz, hf]) ?_
    simp only [Counter.unref]
    omega

theorem Accounted.unref (h : c.Accounted (holders + 1)) : (c.unref holders).Accounted holders := by
  cases h with
  | alive hf hv => exact accounted_unref hf (by omega)
  | gone _ _ hg => omega
  | broken hb hd =>
    obtain ⟨x, hx, hne⟩ := hb
    refine .broken ⟨x, ?_, hne⟩ hd
    simp only [Counter.unref]
    split
    · exact List.mem_append_left _ hx
    · exact hx

theorem Accounted.drop (h : c.Accounted holders) (hf : c.frees = []) : (c.drop holders).Accounted holders := by
  cases h with
  | alive _ hv =>
    have h' : ({ c with drops := c.drops + 1 } : Counter).value + (c.drops + 1 : Nat) = holders + 2 := by
      dsimp only
      omega
    exact accounted_unref (c := { c with drops := c.drops + 1 }) hf h'
  | gone hg => simp [hf] at hg
  | broken hb => simp [hf] at hb

theorem Accounted.reuse (h : c.Accounted holders) (hf : c.frees ≠ []) (value : Int) :
    ({ c with value := value } : Counter).Accounted holders := by
  cases h with
  | alive hn => exact absurd hn hf
  | gone hg hd hh => exact .gone hg hd hh
  | broken hb hd => exact .broken hb hd

theorem Accounted.freedSafely_iff (h : c.Accounted holders) : c.FreedSafely ↔ (c.frees ≠ [] → c.drops ≤ 1) := by
  cases h with
  | alive hf => simp [FreedSafely, hf]
  | gone hg hd => simp [FreedSafely, hg, hd]
  | broken hb hd =>
    obtain ⟨x, hx, hne⟩ := hb
    constructor
    · rintro ⟨h₁, -⟩
      exact absurd (h₁ x hx) hne
    · intro h₁
      have := h₁ (List.ne_nil_of_mem hx)
      omega

end

end Counter

end RefCount
