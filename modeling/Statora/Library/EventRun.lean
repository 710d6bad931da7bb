import Mathlib.Data.List.Basic

/-!
# Runs of a step function over a list of events

`AllSteps` asks a condition of every step of a run, `AllStates` a property of
every state it reaches, the first one included. A property that survives a step
exactly when the step meets the condition holds along a run exactly when all
steps meet it.
-/

namespace Statora.Library
variable {σ ε : Type}

def run (step : σ → ε → σ) (s : σ) (es : List ε) : σ := es.foldl step s

def AllSteps (step : σ → ε → σ) (P : σ → ε → Prop) : σ → List ε → Prop
  | _, [] => True
  | s, e :: es => P s e ∧ AllSteps step P (step s e) es

def AllStates (step : σ → ε → σ) (I : σ → Prop) : σ → List ε → Prop
  | s, [] => I s
  | s, e :: es => I s ∧ AllStates step I (step s e) es

instance AllSteps.decidable (step : σ → ε → σ) (P : σ → ε → Prop) [∀ s e, Decidable (P s e)] :
    ∀ (s : σ) (es : List ε), Decidable (AllSteps step P s es)
  | _, [] => inferInstanceAs (Decidable True)
  | s, e :: es =>
    have := AllSteps.decidable step P (step s e) es
    inferInstanceAs (Decidable (P s e ∧ AllSteps step P (step s e) es))

variable {step : σ → ε → σ} {P Q : σ → ε → Prop} {I : σ → Prop} {s : σ} {es : List ε}

@[simp] theorem run_nil : run step s [] = s := rfl

@[simp] theorem run_cons {e : ε} : run step s (e :: es) = run step (step s e) es := rfl

theorem run_append (es fs : List ε) : run step s (es ++ fs) = run step (run step s es) fs :=
  List.foldl_append

theorem allSteps_append {fs : List ε} :
    AllSteps step P s (es ++ fs) ↔
      AllSteps step P s es ∧ AllSteps step P (run step s es) fs := by
  induction es generalizing s with
  | nil => simp [AllSteps]
  | cons e es ih => simp [AllSteps, ih, and_assoc]

theorem allSteps_of_forall (h : ∀ e ∈ es, ∀ s, P s e) : AllSteps step P s es := by
  induction es generalizing s with
  | nil => trivial
  | cons e es ih =>
    exact ⟨h e List.mem_cons_self s, ih fun e' he' => h e' (List.mem_cons_of_mem e he')⟩

theorem allSteps_congr (h : ∀ e ∈ es, ∀ s, P s e ↔ Q s e) :
    AllSteps step P s es ↔ AllSteps step Q s es := by
  induction es generalizing s with
  | nil => exact Iff.rfl
  | cons e es ih =>
    exact and_congr (h e List.mem_cons_self s) (ih fun e' he' => h e' (List.mem_cons_of_mem e he'))

theorem allSteps_and : AllSteps step (fun s e => P s e ∧ Q s e) s es ↔
    AllSteps step P s es ∧ AllSteps step Q s es := by
  induction es generalizing s with
  | nil => exact (and_self_iff).symm
  | cons e es ih =>
    simp only [AllSteps, ih]
    exact and_and_and_comm

theorem allSteps_forall {ι : Type*} {R : ι → σ → ε → Prop} :
    AllSteps step (fun s e => ∀ i, R i s e) s es ↔ ∀ i, AllSteps step (R i) s es := by
  induction es generalizing s with
  | nil => exact iff_of_true trivial fun _ => trivial
  | cons e es ih =>
    simp only [AllSteps, ih]
    exact forall_and.symm

def sumSteps (step : σ → ε → σ) (count : σ → ε → ℕ) : σ → List ε → ℕ
  | _, [] => 0
  | s, e :: es => count s e + sumSteps step count (step s e) es

theorem sumSteps_le {f g : σ → ε → ℕ} (h : AllSteps step (fun s e => f s e ≤ g s e) s es) :
    sumSteps step f s es ≤ sumSteps step g s es := by
  induction es generalizing s with
  | nil => exact Nat.le_refl 0
  | cons e es ih => exact Nat.add_le_add h.1 (ih h.2)

theorem sumSteps_eq_iff {f g : σ → ε → ℕ} (h : AllSteps step (fun s e => f s e ≤ g s e) s es) :
    sumSteps step f s es = sumSteps step g s es ↔
      AllSteps step (fun s e => f s e = g s e) s es := by
  induction es generalizing s with
  | nil => exact iff_of_true rfl trivial
  | cons e es ih =>
    have hrest := sumSteps_le h.2
    have hfirst := h.1
    simp only [sumSteps, AllSteps, ← ih h.2]
    omega

theorem allSteps_mono (h : AllSteps step P s es) (hPQ : ∀ s e, P s e → Q s e) :
    AllSteps step Q s es := by
  induction es generalizing s with
  | nil => trivial
  | cons e es ih => exact ⟨hPQ s e h.1, ih h.2⟩

theorem AllStates.first (h : AllStates step I s es) : I s := by
  cases es with
  | nil => exact h
  | cons e es => exact h.1

theorem AllStates.last (h : AllStates step I s es) : I (run step s es) := by
  induction es generalizing s with
  | nil => exact h
  | cons e es ih => exact ih h.2

theorem allStates_mono {J : σ → Prop} (h : AllStates step I s es) (hIJ : ∀ s, I s → J s) :
    AllStates step J s es := by
  induction es generalizing s with
  | nil => exact hIJ s h
  | cons e es ih => exact ⟨hIJ s h.1, ih h.2⟩

theorem AllStates.next (h : AllStates step I s es) :
    AllSteps step (fun s e => I (step s e)) s es := by
  induction es generalizing s with
  | nil => trivial
  | cons e es ih => exact ⟨h.2.first, ih h.2⟩

/-- The exact form of the invariant rule, among runs whose steps all meet `P`: while
the invariant `J` holds, a step that ends in `I` must meet `Q`, and one that meets
`Q` keeps `J`. -/
theorem allStates_iff_of_invariant {J : σ → Prop} (hI : ∀ s, J s → I s)
    (hneed : ∀ s e, J s → P s e → I (step s e) → Q s e)
    (hkeep : ∀ s e, J s → P s e → Q s e → J (step s e))
    (h0 : J s) (hP : AllSteps step P s es) :
    AllStates step I s es ↔ AllSteps step Q s es := by
  induction es generalizing s with
  | nil => simp [AllStates, AllSteps, hI s h0]
  | cons e es ih =>
    constructor
    · intro h
      have he := hneed s e h0 hP.1 h.2.first
      exact ⟨he, (ih (hkeep s e h0 hP.1 he) hP.2).mp h.2⟩
    · intro h
      exact ⟨hI s h0, (ih (hkeep s e h0 hP.1 h.1) hP.2).mpr h.2⟩

theorem run_invariant {J : σ → Prop} (hkeep : ∀ s e, J s → J (step s e)) (h0 : J s) :
    J (run step s es) := by
  induction es generalizing s with
  | nil => exact h0
  | cons e es ih => exact ih (hkeep s e h0)

theorem allStates_of_invariant {J : σ → Prop} (hI : ∀ s, J s → I s)
    (hkeep : ∀ s e, J s → Q s e → J (step s e)) (h0 : J s) (hQ : AllSteps step Q s es) :
    AllStates step J s es ∧ AllStates step I s es := by
  induction es generalizing s with
  | nil => exact ⟨h0, hI s h0⟩
  | cons e es ih =>
    obtain ⟨hJ, hI'⟩ := ih (hkeep s e h0 hQ.1) hQ.2
    exact ⟨⟨h0, hJ⟩, hI s h0, hI'⟩

theorem allSteps_of_invariant {J : σ → Prop} (hP : ∀ s e, J s → Q s e → P s e)
    (hkeep : ∀ s e, J s → Q s e → J (step s e)) (h0 : J s) (hQ : AllSteps step Q s es) :
    AllSteps step P s es := by
  induction es generalizing s with
  | nil => trivial
  | cons e es ih => exact ⟨hP s e h0 hQ.1, ih (hkeep s e h0 hQ.1) hQ.2⟩

/-- While the invariant `J` holds, a step that ends in `I` without meeting `Q` loses
something for good. A run in `I` that has lost nothing at its end met `Q` throughout. -/
theorem allSteps_of_not_lost {J L : σ → Prop} (hkeep : ∀ s e, J s → Q s e → J (step s e))
    (hlose : ∀ s e, J s → I (step s e) → ¬ Q s e → L (step s e))
    (hlost : ∀ s e, L s → L (step s e)) (h0 : J s) (hI : AllStates step I s es)
    (hend : ¬ L (run step s es)) : AllSteps step Q s es := by
  induction es generalizing s with
  | nil => trivial
  | cons e es ih =>
    by_cases he : Q s e
    · exact ⟨he, ih (hkeep s e h0 he) hI.2 hend⟩
    · exact absurd (run_invariant hlost (hlose s e h0 hI.2.first he)) hend

theorem allStates_iff_allSteps (hstep : ∀ s e, I s → P s e → (I (step s e) ↔ Q s e))
    (h0 : I s) (hP : AllSteps step P s es) :
    AllStates step I s es ↔ AllSteps step Q s es :=
  allStates_iff_of_invariant (fun _ h => h) (fun s e hs he => (hstep s e hs he).mp)
    (fun s e hs he => (hstep s e hs he).mpr) h0 hP

end Statora.Library
