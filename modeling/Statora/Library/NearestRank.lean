import Mathlib.Algebra.Order.Floor.Ring
import Mathlib.Data.Finset.Max
import Mathlib.Data.List.Sort
import Mathlib.Data.Rat.Floor
import Mathlib.Tactic.Linarith
import Mathlib.Tactic.Ring

/-!
# Nearest-rank percentiles

The `p`-th percentile of a list is the least of its elements that at least `p`
percent of the list do not exceed. In the sorted list it has the rank of `p`
percent of the length, rounded up. The percentile of a list in parts lies
between those of the parts.
-/

namespace Statora.Library
variable {α : Type} [LinearOrder α] {p q : ℚ} {l : List α} {v : α}

/-- At least `p` percent of the list do not exceed `v`. -/
def Reaches (p : ℚ) (l : List α) (v : α) : Prop := p * l.length ≤ 100 * l.countP (· ≤ v)

structure IsPercentile (p : ℚ) (l : List α) (v : α) : Prop where
  mem : v ∈ l
  reaches : Reaches p l v
  least : ∀ w, Reaches p l w → v ≤ w

theorem IsPercentile.perm {l' : List α} (h : IsPercentile p l v) (hperm : l.Perm l') :
    IsPercentile p l' v := by
  have hreaches : ∀ w, Reaches p l w ↔ Reaches p l' w := fun w => by
    unfold Reaches
    rw [hperm.length_eq, hperm.countP_eq]
  exact ⟨hperm.mem_iff.mp h.mem, (hreaches v).mp h.reaches,
    fun w hw => h.least w ((hreaches w).mpr hw)⟩

theorem IsPercentile.le_of_le {w : α} (h : IsPercentile p l v) (h' : IsPercentile q l w)
    (hpq : p ≤ q) : v ≤ w := by
  refine h.least w (le_trans ?_ h'.reaches)
  exact mul_le_mul_of_nonneg_right hpq (Nat.cast_nonneg _)

theorem Reaches.mono {w : α} (h : Reaches p l v) (hvw : v ≤ w) : Reaches p l w := by
  have hcount : l.countP (· ≤ v) ≤ l.countP (· ≤ w) :=
    List.countP_mono_left fun a _ ha => by simpa using (of_decide_eq_true ha).trans hvw
  have hcount : (l.countP (· ≤ v) : ℚ) ≤ l.countP (· ≤ w) := by exact_mod_cast hcount
  unfold Reaches at h ⊢
  linarith

theorem IsPercentile.reaches_iff {w : α} (h : IsPercentile p l v) : Reaches p l w ↔ v ≤ w :=
  ⟨h.least w, h.reaches.mono⟩

theorem succ_le_countP (hsorted : l.Pairwise (· ≤ ·)) {i : ℕ} (hi : i < l.length) :
    i + 1 ≤ l.countP (· ≤ l[i]) := by
  have hlength : (l.take (i + 1)).length = i + 1 := by
    rw [List.length_take]
    omega
  have hfront : (l.take (i + 1)).countP (· ≤ l[i]) = (l.take (i + 1)).length := by
    refine List.countP_eq_length.mpr fun a ha => ?_
    obtain ⟨j, hj, rfl⟩ := List.getElem_of_mem ha
    rw [hlength] at hj
    rw [List.getElem_take]
    rcases (show j ≤ i by omega).eq_or_lt with rfl | hlt
    · simp
    · exact decide_eq_true (List.pairwise_iff_getElem.mp hsorted j i _ hi hlt)
  have hsub : (l.take (i + 1)).countP (· ≤ l[i]) ≤ l.countP (· ≤ l[i]) :=
    (List.take_sublist _ _).countP_le
  omega

theorem countP_le_of_lt (hsorted : l.Pairwise (· ≤ ·)) {i : ℕ} (hi : i < l.length) {w : α}
    (hw : w < l[i]) : l.countP (· ≤ w) ≤ i := by
  have hrest : (l.drop i).countP (· ≤ w) = 0 := by
    refine List.countP_eq_zero.mpr fun a ha => ?_
    obtain ⟨j, hj, rfl⟩ := List.getElem_of_mem ha
    rw [List.getElem_drop]
    rcases Nat.eq_zero_or_pos j with rfl | hpos
    · simpa using hw
    · have hle := List.pairwise_iff_getElem.mp hsorted i (i + j) hi
        (by rw [List.length_drop] at hj; omega) (by omega)
      simpa using hw.trans_le hle
  have hsplit : l.countP (· ≤ w) = (l.take i).countP (· ≤ w) + (l.drop i).countP (· ≤ w) := by
    rw [← List.countP_append, List.take_append_drop]
  rw [hrest] at hsplit
  have hfront : (l.take i).countP (· ≤ w) ≤ (l.take i).length := List.countP_le_length
  rw [List.length_take] at hfront
  omega

theorem isPercentile_getElem (hsorted : l.Pairwise (· ≤ ·)) {i : ℕ} (hi : i < l.length)
    (hlow : 100 * (i : ℚ) < p * l.length) (hhigh : p * l.length ≤ 100 * (i + 1 : ℕ)) :
    IsPercentile p l l[i] := by
  refine ⟨List.getElem_mem hi, ?_, fun w hw => ?_⟩
  · have hcount : ((i + 1 : ℕ) : ℚ) ≤ l.countP (· ≤ l[i]) := by
      exact_mod_cast succ_le_countP hsorted hi
    unfold Reaches
    linarith
  · by_contra hlt
    have hcount : (l.countP (· ≤ w) : ℚ) ≤ i := by
      exact_mod_cast countP_le_of_lt hsorted hi (not_le.mp hlt)
    unfold Reaches at hw
    linarith

section Parts
variable {parts : List (List α)} {f : List α → α}

theorem reaches_flatten {w : α} (h : ∀ part ∈ parts, Reaches p part w) :
    Reaches p parts.flatten w := by
  induction parts with
  | nil => simp [Reaches]
  | cons part parts ih =>
    obtain ⟨hpart, hparts⟩ := List.forall_mem_cons.mp h
    have hrest := ih hparts
    unfold Reaches at hpart hrest ⊢
    rw [List.flatten_cons, List.length_append, List.countP_append]
    push_cast
    linarith

theorem not_reaches_flatten {w : α} (hne : parts ≠ []) (h : ∀ part ∈ parts, ¬ Reaches p part w) :
    ¬ Reaches p parts.flatten w := by
  induction parts with
  | nil => exact absurd rfl hne
  | cons part parts ih =>
    obtain ⟨hpart, hparts⟩ := List.forall_mem_cons.mp h
    rcases eq_or_ne parts [] with rfl | hrest
    · simpa using hpart
    · have hlater := ih hrest hparts
      unfold Reaches at hpart hlater ⊢
      rw [List.flatten_cons, List.length_append, List.countP_append]
      push_cast
      linarith

theorem IsPercentile.exists_le (h : IsPercentile p parts.flatten v) (hne : parts ≠ [])
    (hf : ∀ part ∈ parts, IsPercentile p part (f part)) : ∃ part ∈ parts, f part ≤ v := by
  by_contra hall
  push Not at hall
  refine not_reaches_flatten hne (fun part hpart hreaches => ?_) h.reaches
  exact not_le.mpr (hall part hpart) ((hf part hpart).reaches_iff.mp hreaches)

theorem IsPercentile.exists_ge (h : IsPercentile p parts.flatten v) (hne : parts ≠ [])
    (hf : ∀ part ∈ parts, IsPercentile p part (f part)) : ∃ part ∈ parts, v ≤ f part := by
  classical
  obtain ⟨largest, hlargest, hmax⟩ := parts.toFinset.exists_max_image f
    (by simpa [Finset.Nonempty] using List.exists_mem_of_ne_nil parts hne)
  refine ⟨largest, List.mem_toFinset.mp hlargest, h.least _ (reaches_flatten fun part hpart => ?_)⟩
  exact (hf part hpart).reaches_iff.mpr (hmax part (List.mem_toFinset.mpr hpart))

end Parts
end Statora.Library
