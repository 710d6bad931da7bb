import Mathlib.Computability.Language
import Statora.Library.Trim

/-!
# Words between separators

`fields` splits a list at every separator and keeps the parts that are not empty.
`replaceRuns` puts one `glue` in the place of every run of separators. When `glue` is a
separator, trimming the second gives the words of the first with one `glue` between them.
-/

namespace Statora.Library
variable {α : Type} {sep : α → Bool} {glue : α} {l : List α} {words : List (List α)}

def fields (sep : α → Bool) (l : List α) : List (List α) :=
  (l.splitOnP sep).filter (fun part => !part.isEmpty)

/-- `inRun` says that the element before the list was a separator. -/
def replaceRuns (sep : α → Bool) (glue : α) (inRun : Bool) : List α → List α
  | [] => []
  | a :: l =>
    if sep a then (if inRun then [] else [glue]) ++ replaceRuns sep glue true l
    else a :: replaceRuns sep glue false l

def IsWord (sep : α → Bool) (word : List α) : Prop := word ≠ [] ∧ ∀ a ∈ word, sep a = false

inductive Words (sep : α → Bool) : List α → List (List α) → Prop
  | nil : Words sep [] []
  | separator {a : α} {l : List α} {words : List (List α)} :
      sep a = true → Words sep l words → Words sep (a :: l) words
  | word {word l : List α} {words : List (List α)} :
      IsWord sep word → (∀ a ∈ l.head?, sep a = true) → Words sep l words →
        Words sep (word ++ l) (word :: words)

theorem Words.isWord (h : Words sep l words) : ∀ word ∈ words, IsWord sep word := by
  induction h with
  | nil => exact fun word hword => by cases hword
  | separator _ _ ih => exact ih
  | word hword _ _ ih => exact List.forall_mem_cons.mpr ⟨hword, ih⟩

theorem exists_words (sep : α → Bool) (l : List α) : ∃ words, Words sep l words := by
  induction hlength : l.length using Nat.strong_induction_on generalizing l with
  | _ n ih =>
    subst hlength
    cases l with
    | nil => exact ⟨[], .nil⟩
    | cons a l =>
      cases ha : sep a with
      | true =>
        obtain ⟨words, hwords⟩ := ih l.length (by simp) l rfl
        exact ⟨words, .separator ha hwords⟩
      | false =>
        -- The first word ends before the first separator.
        have hshorter : ((a :: l).dropWhile (fun a => !sep a)).length < (a :: l).length := by
          rw [List.dropWhile_cons_of_pos (by simp [ha])]
          exact Nat.lt_succ_of_le (List.dropWhile_sublist _).length_le
        obtain ⟨words, hwords⟩ := ih _ hshorter _ rfl
        have hword : IsWord sep ((a :: l).takeWhile (fun a => !sep a)) := by
          refine ⟨by simp [ha], fun b hb => ?_⟩
          simpa using List.mem_takeWhile_imp hb
        have hnext : ∀ b ∈ ((a :: l).dropWhile (fun a => !sep a)).head?, sep b = true := by
          intro b hb
          rw [head?_dropWhile] at hb
          simpa using List.find?_some hb
        have hall := Words.word hword hnext hwords
        rw [List.takeWhile_append_dropWhile] at hall
        exact ⟨_, hall⟩

theorem fields_of_words (h : Words sep l words) : fields sep l = words := by
  unfold fields
  induction h with
  | nil => rfl
  | separator ha _ ih => simpa [List.splitOnP_cons_eq_if_modifyHead, ha] using ih
  | @word word l words hword hnext _ ih =>
    cases l with
    | nil =>
      have hwords : [] = words := ih
      rw [List.append_nil, List.splitOnP_eq_singleton hword.2, ← hwords]
      simp [hword.1]
    | cons a l =>
      have ha := hnext a rfl
      rw [List.splitOnP_cons_eq_if_modifyHead, if_pos ha] at ih
      rw [List.splitOnP_append_cons_of_forall_mem hword.2 a ha]
      simpa [hword.1] using ih

theorem words_fields (sep : α → Bool) (l : List α) : Words sep l (fields sep l) := by
  obtain ⟨words, hwords⟩ := exists_words sep l
  rwa [fields_of_words hwords]

theorem isWord_of_mem_fields {word : List α} (h : word ∈ fields sep l) : IsWord sep word :=
  (words_fields sep l).isWord word h

theorem Words.separators_append {before : List α} (hbefore : ∀ a ∈ before, sep a = true)
    (h : Words sep l words) : Words sep (before ++ l) words := by
  induction before with
  | nil => exact h
  | cons a before ih =>
    rw [List.forall_mem_cons] at hbefore
    exact .separator hbefore.1 (ih hbefore.2)

theorem Words.append_separators {after : List α} (hafter : ∀ a ∈ after, sep a = true)
    (h : Words sep l words) : Words sep (l ++ after) words := by
  induction h with
  | nil => simpa using Words.separators_append hafter Words.nil
  | separator ha _ ih => exact .separator ha ih
  | @word word l words hword hnext _ ih =>
    rw [List.append_assoc]
    refine .word hword (fun a ha => ?_) ih
    rcases List.mem_append.mp (List.mem_of_mem_head? ha) with hl | hmem
    · cases l with
      | nil => cases hl
      | cons b l => exact hnext a ha
    · exact hafter a hmem

theorem fields_surrounded {before after : List α} (hbefore : ∀ a ∈ before, sep a = true)
    (hafter : ∀ a ∈ after, sep a = true) :
    fields sep (before ++ l ++ after) = fields sep l :=
  fields_of_words (((words_fields sep l).separators_append hbefore).append_separators hafter)

theorem exists_trim_eq (p : α → Bool) (l : List α) : ∃ before after,
    l = before ++ trim p l ++ after ∧ (∀ a ∈ before, p a = true) ∧ ∀ a ∈ after, p a = true := by
  refine ⟨l.takeWhile p, (l.dropWhile p).rtakeWhile p, ?_, fun a ha => List.mem_takeWhile_imp ha,
    fun a ha => List.mem_rtakeWhile_imp ha⟩
  rw [List.append_assoc, trim, List.rdropWhile_append_rtakeWhile,
    List.takeWhile_append_dropWhile]

theorem fields_trim {p : α → Bool} (hp : ∀ a, p a = true → sep a = true) (l : List α) :
    fields sep (trim p l) = fields sep l := by
  obtain ⟨before, after, hl, hbefore, hafter⟩ := exists_trim_eq p l
  conv_rhs => rw [hl]
  exact (fields_surrounded (fun a ha => hp a (hbefore a ha)) fun a ha => hp a (hafter a ha)).symm

theorem fields_map_trim {β : Type} {sep : β → Bool} {p : α → Bool} {f : α → β}
    (hp : ∀ a, p a = true → sep (f a) = true) (l : List α) :
    fields sep ((trim p l).map f) = fields sep (l.map f) := by
  obtain ⟨before, after, hl, hbefore, hafter⟩ := exists_trim_eq p l
  conv_rhs => rw [hl, List.map_append, List.map_append]
  refine (fields_surrounded ?_ ?_).symm
  · simpa using fun a ha => hp a (hbefore a ha)
  · simpa using fun a ha => hp a (hafter a ha)

theorem replaceRuns_word_append {word : List α} (hword : ∀ a ∈ word, sep a = false)
    (hne : word ≠ []) (inRun : Bool) :
    replaceRuns sep glue inRun (word ++ l) = word ++ replaceRuns sep glue false l := by
  induction word generalizing inRun with
  | nil => exact absurd rfl hne
  | cons a word ih =>
    rw [List.forall_mem_cons] at hword
    rw [List.cons_append, replaceRuns, if_neg (by simp [hword.1])]
    cases word with
    | nil => rfl
    | cons b word => rw [ih hword.2 (by simp)]; rfl

theorem Words.replaceRuns_eq (glue : α) (h : Words sep l words) : ∃ after, (∀ a ∈ after, a = glue) ∧
    replaceRuns sep glue true l = [glue].intercalate words ++ after := by
  induction h with
  | nil => exact ⟨[], by simp, rfl⟩
  | separator ha _ ih =>
    obtain ⟨after, hafter, hl⟩ := ih
    exact ⟨after, hafter, by simpa [replaceRuns, ha] using hl⟩
  | @word word l words hword hnext hl ih =>
    obtain ⟨after, hafter, heq⟩ := ih
    rw [replaceRuns_word_append hword.2 hword.1]
    cases l with
    | nil =>
      have hwords : [] = words := fields_of_words hl
      exact ⟨[], by simp, by simp [replaceRuns, ← hwords]⟩
    | cons a l =>
      have ha := hnext a rfl
      rw [replaceRuns, if_pos ha, if_pos rfl, List.nil_append] at heq
      rw [replaceRuns, if_pos ha, if_neg Bool.false_ne_true, heq]
      cases words with
      | nil => exact ⟨glue :: after, by simpa using hafter, by simp⟩
      | cons next words => exact ⟨after, hafter, by simp⟩

theorem replaceRuns_false (sep : α → Bool) (glue : α) (l : List α) : ∃ before,
    (∀ a ∈ before, a = glue) ∧
      replaceRuns sep glue false l = before ++ replaceRuns sep glue true l := by
  cases l with
  | nil => exact ⟨[], by simp, rfl⟩
  | cons a l =>
    cases ha : sep a with
    | true => exact ⟨[glue], by simp, by simp [replaceRuns, ha]⟩
    | false => exact ⟨[], by simp, by simp [replaceRuns, ha]⟩

theorem trim_surrounded {p : α → Bool} {before body after : List α}
    (hbefore : ∀ a ∈ before, p a = true) (hafter : ∀ a ∈ after, p a = true)
    (hfirst : ∀ a ∈ body.head?, p a = false) (hlast : ∀ a ∈ body.getLast?, p a = false) :
    trim p (before ++ body ++ after) = body := by
  have hstart : body.dropWhile p = body := by
    cases body with
    | nil => rfl
    | cons a body => exact List.dropWhile_cons_of_neg (by simp [hfirst a rfl])
  have hend : body.reverse.dropWhile p = body.reverse := by
    rw [← List.head?_reverse] at hlast
    cases hreverse : body.reverse with
    | nil => rfl
    | cons a rest =>
      rw [hreverse] at hlast
      exact List.dropWhile_cons_of_neg (by simp [hlast a rfl])
  unfold trim List.rdropWhile
  rw [List.append_assoc, List.dropWhile_append_of_pos hbefore]
  cases body with
  | nil =>
    have hnone : after.dropWhile p = [] := List.dropWhile_eq_nil_iff.mpr hafter
    rw [List.nil_append, hnone]
    rfl
  | cons a body =>
    rw [List.cons_append, List.dropWhile_cons_of_neg (by simp [hfirst a rfl]), ← List.cons_append,
      List.reverse_append, List.dropWhile_append_of_pos (by simpa using hafter), hend,
      List.reverse_reverse]

theorem head?_intercalate (h : ∀ word ∈ words, IsWord sep word) (l : List α) :
    ∀ a ∈ (l.intercalate words).head?, sep a = false := by
  cases words with
  | nil => simp
  | cons word words =>
    rw [List.forall_mem_cons] at h
    cases word with
    | nil => exact absurd rfl h.1.1
    | cons a word =>
      rw [List.intercalate_cons_cons_left]
      simpa using h.1.2 a List.mem_cons_self

theorem getLast?_intercalate (h : ∀ word ∈ words, IsWord sep word) (l : List α) :
    ∀ a ∈ (l.intercalate words).getLast?, sep a = false := by
  induction words with
  | nil => simp
  | cons word words ih =>
    rw [List.forall_mem_cons] at h
    cases words with
    | nil =>
      rw [List.intercalate_singleton]
      exact fun a ha => h.1.2 a (List.mem_of_getLast? ha)
    | cons next words =>
      have hne : l.intercalate (next :: words) ≠ [] := by
        cases next with
        | nil => exact absurd rfl (h.2 [] List.mem_cons_self).1
        | cons b next => simp
      rw [List.intercalate_cons_cons, List.getLast?_append_of_ne_nil _ hne]
      exact ih h.2

theorem of_mem_intercalate (h : ∀ word ∈ words, IsWord sep word) {a : α}
    (ha : a ∈ [glue].intercalate words) : sep a = false ∨ a = glue := by
  induction words with
  | nil => cases ha
  | cons word words ih =>
    rw [List.forall_mem_cons] at h
    cases words with
    | nil =>
      rw [List.intercalate_singleton] at ha
      exact .inl (h.1.2 a ha)
    | cons next words =>
      rw [List.intercalate_cons_cons, List.append_assoc, List.mem_append, List.mem_append,
        List.mem_singleton] at ha
      rcases ha with hword | hglue | hrest
      · exact .inl (h.1.2 a hword)
      · exact .inr hglue
      · exact ih h.2 hrest

theorem trim_replaceRuns [DecidableEq α] (hglue : sep glue = true) (l : List α) :
    trim (fun a => decide (a = glue)) (replaceRuns sep glue false l) =
      [glue].intercalate (fields sep l) := by
  obtain ⟨before, hbefore, hfalse⟩ := replaceRuns_false sep glue l
  obtain ⟨after, hafter, htrue⟩ := (words_fields sep l).replaceRuns_eq glue
  have hword : ∀ word ∈ fields sep l, IsWord sep word := fun word => isWord_of_mem_fields
  have hplain : ∀ a, sep a = false → decide (a = glue) = false := by
    intro a ha
    refine decide_eq_false fun heq => ?_
    rw [heq, hglue] at ha
    cases ha
  rw [hfalse, htrue, ← List.append_assoc]
  exact trim_surrounded (fun a ha => decide_eq_true (hbefore a ha))
    (fun a ha => decide_eq_true (hafter a ha))
    (fun a ha => hplain a (head?_intercalate hword _ a ha))
    fun a ha => hplain a (getLast?_intercalate hword _ a ha)

theorem words_intercalate (hglue : sep glue = true) (h : ∀ word ∈ words, IsWord sep word) :
    Words sep ([glue].intercalate words) words := by
  induction words with
  | nil => exact .nil
  | cons word words ih =>
    rw [List.forall_mem_cons] at h
    cases words with
    | nil => simpa using Words.word h.1 (by simp) .nil
    | cons next words =>
      rw [List.intercalate_cons_cons, List.append_assoc]
      exact .word h.1 (by simpa using hglue) (.separator hglue (ih h.2))

theorem fields_intercalate (hglue : sep glue = true) (h : ∀ word ∈ words, IsWord sep word) :
    fields sep ([glue].intercalate words) = words :=
  fields_of_words (words_intercalate hglue h)

def wordLanguage (sep : α → Bool) : Language α := {word | IsWord sep word}

def joined (sep : α → Bool) (glue : α) : Language α :=
  wordLanguage sep * KStar.kstar (({[glue]} : Language α) * wordLanguage sep)

theorem intercalate_mem_joined {word : List α} (hword : IsWord sep word)
    (h : ∀ word ∈ words, IsWord sep word) :
    [glue].intercalate (word :: words) ∈ joined sep glue := by
  have hrest : (words.map ([glue] ++ ·)).flatten ∈
      KStar.kstar (({[glue]} : Language α) * wordLanguage sep) := by
    refine Language.join_mem_kstar fun part hpart => ?_
    obtain ⟨next, hnext, rfl⟩ := List.mem_map.mp hpart
    exact Language.append_mem_mul rfl (h next hnext)
  have hsplit : ∀ (word : List α) (words : List (List α)),
      [glue].intercalate (word :: words) = word ++ (words.map ([glue] ++ ·)).flatten := by
    intro word words
    induction words generalizing word with
    | nil => simp
    | cons next words ih => simp [ih]
  rw [hsplit]
  exact Language.append_mem_mul hword hrest

end Statora.Library
