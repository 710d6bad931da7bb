import Mathlib.Data.List.Basic

/-!
# Past events

`Since P R history` says that some entry of a history satisfied `P`, given what came
before it, and that every later entry satisfies `R`. A new entry keeps it when it
satisfies `R`, and establishes it when it satisfies `P`.
-/

namespace Statora.Library
variable {ε : Type} {P P' : List ε → ε → Prop} {R : ε → Prop} {history : List ε} {entry : ε}

def Since (P : List ε → ε → Prop) (R : ε → Prop) (history : List ε) : Prop :=
  ∃ before entry after, history = before ++ entry :: after ∧ P before entry ∧ ∀ e ∈ after, R e

theorem since_now (h : P history entry) : Since P R (history ++ [entry]) :=
  ⟨history, entry, [], rfl, h, fun _ hmem => absurd hmem List.not_mem_nil⟩

theorem Since.imp (h : Since P R history) (hP : ∀ before e, P before e → P' before e) :
    Since P' R history := by
  obtain ⟨before, first, after, heq, hfirst, hafter⟩ := h
  exact ⟨before, first, after, heq, hP before first hfirst, hafter⟩

theorem Since.snoc (h : Since P R history) (hentry : R entry) :
    Since P R (history ++ [entry]) := by
  obtain ⟨before, first, after, rfl, hfirst, hafter⟩ := h
  refine ⟨before, first, after ++ [entry], by simp, hfirst, fun e hmem => ?_⟩
  rcases List.mem_append.mp hmem with hmem | hmem
  · exact hafter e hmem
  · rwa [List.mem_singleton.mp hmem]

theorem since_snoc_iff : Since P R (history ++ [entry]) ↔
    P history entry ∨ Since P R history ∧ R entry := by
  constructor
  · rintro ⟨before, first, after, heq, hfirst, hafter⟩
    rcases List.eq_nil_or_concat after with rfl | ⟨rest, last, rfl⟩
    · obtain ⟨rfl, hlast⟩ := List.append_inj' heq rfl
      rw [List.cons.injEq] at hlast
      rw [hlast.1]
      exact Or.inl hfirst
    · have heq' : history ++ [entry] = (before ++ first :: rest) ++ [last] := by
        rw [heq]
        simp
      obtain ⟨rfl, hlast⟩ := List.append_inj' heq' rfl
      rw [List.cons.injEq] at hlast
      refine Or.inr ⟨⟨before, first, rest, rfl, hfirst, fun e hmem => hafter e ?_⟩, ?_⟩
      · simp [hmem]
      · rw [hlast.1]
        exact hafter last (by simp)
  · rintro (h | ⟨h, hentry⟩)
    · exact since_now h
    · exact h.snoc hentry

end Statora.Library
