import Mathlib.Data.List.Basic

/-!
# Records and assignments to their fields

A record is known by its fields, which can be read and written one by one. A list of
assignments is carried out from the left.
-/

namespace Statora.Library

class Record (σ : Type) {ι : Type} (V : ι → Type) where
  get : (i : ι) → σ → V i
  set : (i : ι) → V i → σ → σ
  get_set_self : ∀ i v s, get i (set i v s) = v
  get_set_of_ne : ∀ i j v s, i ≠ j → get i (set j v s) = get i s

structure Assignment {ι : Type} (V : ι → Type) where
  field : ι
  value : V field

variable {σ ι : Type} {V : ι → Type} [Record σ V]

def assign (s : σ) (a : Assignment V) : σ := Record.set a.field a.value s

def assignAll (s : σ) (as : List (Assignment V)) : σ := as.foldl assign s

theorem forall_get_assignAll {P : (i : ι) → V i → Prop} {s : σ} {as : List (Assignment V)}
    (hs : ∀ i, P i (Record.get i s)) (has : ∀ a ∈ as, P a.field a.value) (i : ι) :
    P i (Record.get i (assignAll s as)) := by
  induction as generalizing s with
  | nil => exact hs i
  | cons a as ih =>
    rw [List.forall_mem_cons] at has
    refine ih (fun j => ?_) has.2
    by_cases hj : a.field = j
    · subst hj
      rw [assign, Record.get_set_self]
      exact has.1
    · rw [assign, Record.get_set_of_ne _ _ _ _ (Ne.symm hj)]
      exact hs j

end Statora.Library
