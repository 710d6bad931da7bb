import Statora.Monitors.Service

/-!
# Stored thresholds

The sort of `sanitizeSSLThresholds` exchanges each place with every larger value
after it. What is stored is strictly descending, positive and never empty, and
has the positive values of the list when there are any.
-/

namespace Statora.Monitors

theorem selectLargest_perm (first : ℤ) (rest : List ℤ) :
    ((selectLargest first rest).1 :: (selectLargest first rest).2).Perm (first :: rest) := by
  induction rest generalizing first with
  | nil => exact .refl _
  | cons value rest ih =>
    unfold selectLargest
    split_ifs
    · exact (List.Perm.swap _ _ _).trans ((ih value).cons first)
    · exact (List.Perm.swap _ _ _).trans (((ih first).cons value).trans (List.Perm.swap _ _ _))

theorem le_selectLargest (first : ℤ) (rest : List ℤ) :
    first ≤ (selectLargest first rest).1 ∧ ∀ x ∈ rest, x ≤ (selectLargest first rest).1 := by
  induction rest generalizing first with
  | nil => exact ⟨le_rfl, fun x hx => by cases hx⟩
  | cons value rest ih =>
    unfold selectLargest
    split_ifs with hlt
    · obtain ⟨hvalue, hrest⟩ := ih value
      exact ⟨hlt.le.trans hvalue, List.forall_mem_cons.mpr ⟨hvalue, hrest⟩⟩
    · obtain ⟨hfirst, hrest⟩ := ih first
      exact ⟨hfirst, List.forall_mem_cons.mpr ⟨(not_lt.mp hlt).trans hfirst, hrest⟩⟩

theorem exchangeSort_perm (places : ℕ) (values : List ℤ) :
    (exchangeSort places values).Perm values := by
  induction places generalizing values with
  | zero => cases values <;> exact .refl _
  | succ places ih =>
    cases values with
    | nil => exact .refl _
    | cons first rest => exact ((ih _).cons _).trans (selectLargest_perm first rest)

theorem exchangeSort_descending {places : ℕ} {values : List ℤ} (h : values.length ≤ places) :
    (exchangeSort places values).Pairwise (· ≥ ·) := by
  induction places generalizing values with
  | zero =>
    rw [List.eq_nil_of_length_eq_zero (Nat.le_zero.mp h)]
    exact .nil
  | succ places ih =>
    cases values with
    | nil => exact .nil
    | cons first rest =>
      have hperm := selectLargest_perm first rest
      have hlength := hperm.length_eq
      rw [List.length_cons] at hlength h
      rw [List.length_cons] at hlength
      refine .cons (fun x hx => ?_) (ih (by omega))
      have hx := (exchangeSort_perm places _).mem_iff.mp hx
      rcases List.mem_cons.mp (hperm.mem_iff.mp (List.mem_cons_of_mem _ hx)) with rfl | hrest
      · exact (le_selectLargest _ _).1
      · exact (le_selectLargest _ _).2 x hrest

theorem validThresholds_append (thresholds : List ℤ) (threshold : ℤ) :
    validThresholds (thresholds ++ [threshold]) =
      if threshold ≤ 0 then validThresholds thresholds
      else if threshold ∈ validThresholds thresholds then validThresholds thresholds
      else validThresholds thresholds ++ [threshold] := by
  unfold validThresholds
  rw [List.foldl_append]
  rfl

theorem mem_validThresholds {thresholds : List ℤ} {t : ℤ} :
    t ∈ validThresholds thresholds ↔ t ∈ thresholds ∧ 0 < t := by
  induction thresholds using List.reverseRecOn with
  | nil => simp [validThresholds]
  | append_singleton thresholds last ih =>
    rw [validThresholds_append, List.mem_append, List.mem_singleton]
    by_cases ht : t = last
    · subst ht
      split_ifs with hneg hmem
      · simp [ih, hneg.not_gt]
      · simp [hmem, not_le.mp hneg]
      · simp [not_le.mp hneg]
    · split_ifs <;> simp [ih, ht]

theorem nodup_validThresholds (thresholds : List ℤ) : (validThresholds thresholds).Nodup := by
  induction thresholds using List.reverseRecOn with
  | nil => exact .nil
  | append_singleton thresholds last ih =>
    rw [validThresholds_append]
    split_ifs with hneg hmem
    · exact ih
    · exact ih
    · exact ih.append (List.nodup_singleton last) (by simpa using hmem)

theorem sanitizeSSLThresholds_of_positive {thresholds : List ℤ} (h : ∃ t ∈ thresholds, 0 < t) :
    sanitizeSSLThresholds thresholds =
      exchangeSort (validThresholds thresholds).length (validThresholds thresholds) := by
  obtain ⟨t, ht, hpos⟩ := h
  have hvalid := List.length_pos_of_mem (mem_validThresholds.mpr ⟨ht, hpos⟩)
  have hlength := List.length_pos_of_mem ht
  unfold sanitizeSSLThresholds
  rw [if_neg hlength.ne', if_neg hvalid.ne']

theorem sanitizeSSLThresholds_default {thresholds : List ℤ} (h : ¬ ∃ t ∈ thresholds, 0 < t) :
    sanitizeSSLThresholds thresholds = [30, 14, 7] := by
  have hvalid : (validThresholds thresholds).length = 0 := by
    rw [List.length_eq_zero_iff, List.eq_nil_iff_forall_not_mem]
    intro t ht
    exact h ⟨t, (mem_validThresholds.mp ht).1, (mem_validThresholds.mp ht).2⟩
  unfold sanitizeSSLThresholds
  split_ifs
  · rfl
  · exact if_pos hvalid

theorem mem_sanitizeSSLThresholds {thresholds : List ℤ} (h : ∃ t ∈ thresholds, 0 < t) {t : ℤ} :
    t ∈ sanitizeSSLThresholds thresholds ↔ t ∈ thresholds ∧ 0 < t := by
  rw [sanitizeSSLThresholds_of_positive h, (exchangeSort_perm _ _).mem_iff, mem_validThresholds]

theorem sanitizeSSLThresholds_descending (thresholds : List ℤ) :
    (sanitizeSSLThresholds thresholds).Pairwise (· > ·) := by
  by_cases h : ∃ t ∈ thresholds, 0 < t
  · rw [sanitizeSSLThresholds_of_positive h]
    have hsorted := exchangeSort_descending (le_refl (validThresholds thresholds).length)
    have hnodup := (exchangeSort_perm (validThresholds thresholds).length _).nodup_iff.mpr
      (nodup_validThresholds thresholds)
    exact (hsorted.and hnodup).imp fun h => lt_of_le_of_ne h.1 (Ne.symm h.2)
  · rw [sanitizeSSLThresholds_default h]
    decide

theorem pos_of_mem_sanitizeSSLThresholds {thresholds : List ℤ} {t : ℤ}
    (ht : t ∈ sanitizeSSLThresholds thresholds) : 0 < t := by
  by_cases h : ∃ t ∈ thresholds, 0 < t
  · exact ((mem_sanitizeSSLThresholds h).mp ht).2
  · rw [sanitizeSSLThresholds_default h] at ht
    simp only [List.mem_cons, List.not_mem_nil, or_false] at ht
    omega

theorem sanitizeSSLThresholds_ne_nil (thresholds : List ℤ) :
    sanitizeSSLThresholds thresholds ≠ [] := by
  by_cases h : ∃ t ∈ thresholds, 0 < t
  · obtain ⟨t, ht, hpos⟩ := h
    exact List.ne_nil_of_mem ((mem_sanitizeSSLThresholds ⟨t, ht, hpos⟩).mpr ⟨ht, hpos⟩)
  · rw [sanitizeSSLThresholds_default h]
    exact List.cons_ne_nil _ _

theorem sanitizeSSLThresholds_idem (thresholds : List ℤ) :
    sanitizeSSLThresholds (sanitizeSSLThresholds thresholds) =
      sanitizeSSLThresholds thresholds := by
  obtain ⟨t, ht⟩ := List.exists_mem_of_ne_nil _ (sanitizeSSLThresholds_ne_nil thresholds)
  have hpositive : ∃ t ∈ sanitizeSSLThresholds thresholds, 0 < t :=
    ⟨t, ht, pos_of_mem_sanitizeSSLThresholds ht⟩
  have hfirst := sanitizeSSLThresholds_descending thresholds
  have hsecond := sanitizeSSLThresholds_descending (sanitizeSSLThresholds thresholds)
  have hperm : (sanitizeSSLThresholds (sanitizeSSLThresholds thresholds)).Perm
      (sanitizeSSLThresholds thresholds) := by
    rw [List.perm_ext_iff_of_nodup (hsecond.imp fun h => h.ne') (hfirst.imp fun h => h.ne')]
    intro t
    rw [mem_sanitizeSSLThresholds hpositive]
    exact and_iff_left_of_imp pos_of_mem_sanitizeSSLThresholds
  exact hperm.eq_of_pairwise (fun a b _ _ hab hba => absurd hab hba.not_gt) hsecond hfirst

end Statora.Monitors
