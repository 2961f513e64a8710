import Mathlib.Data.List.Basic

/-!
# Runs of a step function

A component is a step function `step : σ → ι → σ` on states and inputs. A
run is the list of its inputs. `Always` states a condition on every step of
a run, `collect` gathers what the steps put out.
-/

namespace Run

section
variable {σ ι ο : Type} (step : σ → ι → σ)

def final (s : σ) (l : List ι) : σ := l.foldl step s

/-- Every step of the run, seen with the state before it, meets `P`. -/
def Always (P : σ → ι → Prop) : σ → List ι → Prop
  | _, [] => True
  | s, i :: l => P s i ∧ Always P (step s i) l

def collect (out : σ → ι → List ο) : σ → List ι → List ο
  | _, [] => []
  | s, i :: l => out s i ++ collect out (step s i) l

@[simp] theorem final_nil (s : σ) : final step s [] = s := rfl

@[simp] theorem final_cons (s : σ) (i : ι) (l : List ι) :
    final step s (i :: l) = final step (step s i) l := rfl

@[simp] theorem always_nil (P : σ → ι → Prop) (s : σ) : Always step P s [] ↔ True := Iff.rfl

@[simp] theorem always_cons (P : σ → ι → Prop) (s : σ) (i : ι) (l : List ι) :
    Always step P s (i :: l) ↔ P s i ∧ Always step P (step s i) l := Iff.rfl

@[simp] theorem collect_nil (out : σ → ι → List ο) (s : σ) : collect step out s [] = [] := rfl

@[simp] theorem collect_cons (out : σ → ι → List ο) (s : σ) (i : ι) (l : List ι) :
    collect step out s (i :: l) = out s i ++ collect step out (step s i) l := rfl

instance decidableAlways (P : σ → ι → Prop) [∀ s i, Decidable (P s i)] :
    ∀ (s : σ) (l : List ι), Decidable (Always step P s l)
  | _, [] => .isTrue trivial
  | s, i :: l => @instDecidableAnd _ _ _ (decidableAlways P (step s i) l)

theorem always_and {P Q : σ → ι → Prop} : ∀ {s : σ} {l : List ι},
    Always step (fun s i => P s i ∧ Q s i) s l ↔ Always step P s l ∧ Always step Q s l
  | _, [] => by simp
  | s, i :: l => by
    rw [always_cons, always_cons, always_cons, always_and, and_and_and_comm]

section
variable {step} {P Q : σ → ι → Prop} {I : σ → Prop}

theorem always_of_forall : ∀ {l : List ι} {s : σ}, (∀ i ∈ l, ∀ s, P s i) → Always step P s l
  | [], _, _ => trivial
  | i :: _, s, h => ⟨h i List.mem_cons_self s, always_of_forall fun j hj => h j (List.mem_cons_of_mem _ hj)⟩

theorem inv_final_of_step (hstep : ∀ s i, I s → I (step s i)) : ∀ (l : List ι) {s : σ}, I s → I (final step s l)
  | [], _, hs => hs
  | i :: l, s, hs => inv_final_of_step hstep l (hstep s i hs)

theorem inv_final (hstep : ∀ s i, I s → P s i → I (step s i)) :
    ∀ (l : List ι) {s : σ}, I s → Always step P s l → I (final step s l)
  | [], _, hs, _ => hs
  | i :: l, s, hs, h => inv_final hstep l (hstep s i hs h.1) h.2

theorem always_of_inv (hstep : ∀ s i, I s → P s i → I (step s i) ∧ Q s i) :
    ∀ (l : List ι) {s : σ}, I s → Always step P s l → Always step Q s l
  | [], _, _, _ => trivial
  | i :: l, s, hs, h =>
    have hi := hstep s i hs h.1
    ⟨hi.2, always_of_inv hstep l hi.1 h.2⟩

/-- Where `P` and `Q` agree under the invariant, and a step that meets them
keeps the invariant, a run meets one exactly when it meets the other. -/
theorem always_iff_of_inv (hiff : ∀ s i, I s → (P s i ↔ Q s i))
    (hstep : ∀ s i, I s → P s i → I (step s i)) {s : σ} (hs : I s) (l : List ι) :
    Always step P s l ↔ Always step Q s l := by
  constructor
  · exact always_of_inv (fun s i hi hp => ⟨hstep s i hi hp, (hiff s i hi).mp hp⟩) l hs
  · exact always_of_inv (fun s i hi hq => ⟨hstep s i hi ((hiff s i hi).mpr hq), (hiff s i hi).mpr hq⟩) l hs

/-- A view of the state to which the inputs in `own` mean nothing, and in which all others do the
same as in the state itself, is that of the run without the inputs in `own`. -/
theorem view_final (view : σ → σ) (own : ι → Bool) (hown : ∀ s i, P s i → own i = true → view (step s i) = view s)
    (hother : ∀ s i, P s i → own i = false → view (step s i) = step (view s) i) :
    ∀ (l : List ι) {s : σ}, Always step P s l → view (final step s l) = final step (view s) (l.filter fun i => !own i)
  | [], _, _ => rfl
  | i :: l, s, h => by
    rw [final_cons, view_final view own hown hother l h.2, List.filter_cons]
    cases hi : own i with
    | true => rw [hown s i h.1 hi, if_neg (by simp)]
    | false => rw [hother s i h.1 hi, if_pos (by simp), final_cons]

end

end

end Run
