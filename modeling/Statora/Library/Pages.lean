import Mathlib.Data.List.Nodup
import Mathlib.Order.Defs.LinearOrder
import Mathlib.Tactic.Ring

/-!
# Pages of a list

`window skip size l` is the page of `size` elements after the first `skip`. Windows side by
side put the list together again.
-/

namespace Statora.Library
variable {α β : Type} {l l' items : List α}

def window (skip size : ℕ) (l : List α) : List α := (l.drop skip).take size

theorem window_eq_nil_iff {skip size : ℕ} (hsize : 0 < size) :
    window skip size l = [] ↔ l.length ≤ skip := by
  rw [window, List.take_eq_nil_iff, List.drop_eq_nil_iff]
  omega

theorem flatten_windows (size k : ℕ) (l : List α) :
    ((List.range k).map fun i => window (i * size) size l).flatten = l.take (k * size) := by
  induction k with
  | zero => simp
  | succ k ih =>
    rw [List.range_succ, List.map_append, List.flatten_append, ih, Nat.succ_mul, List.take_add]
    simp [window]

/-- The items in an order in which the keys descend. -/
def Arranged [LinearOrder β] (key : α → β) (items l : List α) : Prop :=
  l.Perm items ∧ l.Pairwise (fun a b => key b ≤ key a)

theorem Arranged.unique [LinearOrder β] {key : α → β} (hdistinct : (items.map key).Nodup)
    (h : Arranged key items l) (h' : Arranged key items l') : l = l' := by
  refine (h.1.trans h'.1.symm).eq_of_pairwise (fun a b ha hb hab hba => ?_) h.2 h'.2
  exact List.inj_on_of_nodup_map hdistinct (h.1.subset ha) (h'.1.subset hb) (le_antisymm hba hab)

theorem forall₂_iff_eq_map {R : α → β → Prop} {f : α → β} {l : List α} {results : List β}
    (h : ∀ a ∈ l, ∀ b, R a b ↔ b = f a) : List.Forall₂ R l results ↔ results = l.map f := by
  induction l generalizing results with
  | nil => simp
  | cons a l ih =>
    rw [List.forall_mem_cons] at h
    rw [List.forall₂_cons_left_iff, List.map_cons]
    constructor
    · rintro ⟨b, rest, hb, hrest, rfl⟩
      rw [(h.1 b).mp hb, (ih h.2).mp hrest]
    · rintro rfl
      exact ⟨f a, l.map f, (h.1 _).mpr rfl, (ih h.2).mpr rfl, rfl⟩

end Statora.Library
