import Mathlib.Data.List.Infix

/-!
# Splitting a list at a sequence

`splitSeq` cuts a list at every occurrence of a separator of several elements, from left to
right. The separators here start with an element that they have nowhere else, so that two
occurrences never overlap.
-/

namespace Statora.Library
variable {α : Type} {a : α} {tail l before after sep : List α}

theorem prefix_of_prefix_append (ha : a ∉ tail) (h : a :: tail <+: before ++ (a :: after))
    (hne : before ≠ []) : a :: tail <+: before := by
  refine List.prefix_of_prefix_length_le h (List.prefix_append before (a :: after)) ?_
  by_contra hlong
  obtain ⟨rest, hrest⟩ := h
  have hat := congrArg (fun l => l[before.length]?) hrest
  have hpos := List.length_pos_iff.mpr hne
  simp only [List.getElem?_append_right le_rfl, Nat.sub_self, List.getElem?_cons_zero] at hat
  rw [List.getElem?_append_left (by omega)] at hat
  obtain ⟨n, hn⟩ := Nat.exists_eq_succ_of_ne_zero hpos.ne'
  rw [hn, List.getElem?_cons_succ] at hat
  exact ha (List.mem_of_getElem? hat)

theorem infix_append_of_not_mem (h : a ∉ before) :
    a :: tail <:+: before ++ l ↔ a :: tail <:+: l := by
  induction before with
  | nil => rfl
  | cons b before ih =>
    rw [List.mem_cons, not_or] at h
    rw [List.cons_append, List.infix_cons_iff, List.cons_prefix_cons]
    simp [h.1, ih h.2]

theorem exists_first_occurrence (h : a :: tail <:+: l) : ∃ before after,
    l = before ++ (a :: tail ++ after) ∧ ¬ a :: tail <:+: before := by
  induction l with
  | nil => simp at h
  | cons b l ih =>
    by_cases hstarts : a :: tail <+: b :: l
    · obtain ⟨after, hafter⟩ := hstarts
      exact ⟨[], after, hafter.symm, by simp⟩
    · obtain ⟨before, after, rfl, hfirst⟩ :=
        ih ((List.infix_cons_iff.mp h).resolve_left hstarts)
      refine ⟨b :: before, after, rfl, fun hoccurs => ?_⟩
      rcases List.infix_cons_iff.mp hoccurs with hstart | hlater
      · exact hstarts (hstart.trans (List.prefix_append (b :: before) (a :: tail ++ after)))
      · exact hfirst hlater

section
variable [DecidableEq α]

def splitSkipping (sep : List α) : ℕ → List α → List (List α)
  | _, [] => [[]]
  | skip + 1, _ :: l => splitSkipping sep skip l
  | 0, a :: l =>
    if sep.isPrefixOf (a :: l) then [] :: splitSkipping sep (sep.length - 1) l
    else (splitSkipping sep 0 l).modifyHead (a :: ·)

def splitSeq (sep l : List α) : List (List α) := splitSkipping sep 0 l

theorem splitSkipping_append (sep passed l : List α) :
    splitSkipping sep passed.length (passed ++ l) = splitSeq sep l := by
  induction passed with
  | nil => rfl
  | cons a passed ih => exact ih

theorem splitSeq_separator (a : α) (tail l : List α) :
    splitSeq (a :: tail) (a :: tail ++ l) = [] :: splitSeq (a :: tail) l := by
  have hstarts : (a :: tail).isPrefixOf (a :: (tail ++ l)) = true :=
    List.isPrefixOf_iff_prefix.mpr ⟨l, rfl⟩
  rw [splitSeq, List.cons_append, splitSkipping, if_pos hstarts]
  exact congrArg _ (splitSkipping_append (a :: tail) tail l)

theorem splitSeq_cons (h : ¬ sep <+: a :: l) :
    splitSeq sep (a :: l) = (splitSeq sep l).modifyHead (a :: ·) := by
  rw [splitSeq, splitSkipping, if_neg (mt List.isPrefixOf_iff_prefix.mp h)]
  rfl

theorem splitSeq_of_absent (h : ¬ sep <:+: l) : splitSeq sep l = [l] := by
  induction l with
  | nil => rfl
  | cons b l ih =>
    rw [splitSeq_cons fun hstarts => h hstarts.isInfix,
      ih fun hoccurs => h (List.infix_cons_iff.mpr (.inr hoccurs))]
    rfl

theorem splitSeq_append (ha : a ∉ tail) (h : ¬ a :: tail <:+: before) (after : List α) :
    splitSeq (a :: tail) (before ++ (a :: tail ++ after)) =
      before :: splitSeq (a :: tail) after := by
  induction before with
  | nil => exact splitSeq_separator a tail after
  | cons b before ih =>
    have hfirst : ¬ a :: tail <+: b :: before ++ (a :: tail ++ after) := fun hstarts =>
      h (prefix_of_prefix_append ha hstarts (List.cons_ne_nil b before)).isInfix
    have hrest := ih fun hoccurs => h (List.infix_cons_iff.mpr (.inr hoccurs))
    rw [List.cons_append] at hfirst ⊢
    rw [splitSeq_cons hfirst, hrest]
    rfl

theorem splitSkipping_ne_nil (sep : List α) (skip : ℕ) (l : List α) :
    splitSkipping sep skip l ≠ [] := by
  induction l generalizing skip with
  | nil => cases skip <;> exact List.cons_ne_nil _ _
  | cons a l ih =>
    cases skip with
    | succ skip => exact ih skip
    | zero =>
      rw [splitSkipping]
      split_ifs
      · exact List.cons_ne_nil _ _
      · exact mt List.modifyHead_eq_nil_iff.mp (ih 0)

theorem intercalate_splitSeq (ha : a ∉ tail) (l : List α) :
    (a :: tail).intercalate (splitSeq (a :: tail) l) = l := by
  induction hlength : l.length using Nat.strong_induction_on generalizing l with
  | _ n ih =>
    subst hlength
    by_cases h : a :: tail <:+: l
    · obtain ⟨before, after, rfl, hfirst⟩ := exists_first_occurrence h
      have hrest := ih after.length (by simp; omega) after rfl
      have hne : splitSeq (a :: tail) after ≠ [] := splitSkipping_ne_nil _ 0 after
      rw [splitSeq_append ha hfirst, List.intercalate_cons_of_ne_nil hne, hrest,
        List.append_assoc]
    · rw [splitSeq_of_absent h, List.intercalate_singleton]

end

end Statora.Library
