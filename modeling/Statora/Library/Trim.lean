import Mathlib.Data.List.DropRight

/-!
# Trimming a list at both ends

`trim p` drops the elements at both ends up to the first and the last without `p`.
Two predicates trim a list alike exactly when they agree on the first and the last
element that does not have both of them.
-/

namespace Statora.Library
variable {α : Type} {p q r : α → Bool} {l : List α}

def trim (p : α → Bool) (l : List α) : List α := (l.dropWhile p).rdropWhile p

theorem head?_dropWhile (p : α → Bool) (l : List α) :
    (l.dropWhile p).head? = l.find? (fun a => !p a) := by
  induction l with
  | nil => rfl
  | cons a l ih => cases ha : p a <;> simp [List.dropWhile, List.find?, ha, ih]

theorem find?_reverse_dropWhile (p : α → Bool) (l : List α) :
    (l.dropWhile p).reverse.find? (fun a => !p a) = l.reverse.find? (fun a => !p a) := by
  induction l with
  | nil => rfl
  | cons a l ih =>
    cases ha : p a with
    | true => simp [List.dropWhile, ha, ih]
    | false => simp [List.dropWhile, ha]

theorem head?_trim (p : α → Bool) (l : List α) : (trim p l).head? = l.find? (fun a => !p a) := by
  rw [← head?_dropWhile, trim]
  cases hrest : l.dropWhile p with
  | nil => rfl
  | cons a rest =>
    have ha : p a = false := by
      have hfirst := List.head?_dropWhile_not p l
      rwa [hrest] at hfirst
    obtain ⟨dropped, hprefix⟩ := List.rdropWhile_prefix p (a :: rest)
    cases hkept : (a :: rest).rdropWhile p with
    | nil =>
      have hall := List.rdropWhile_eq_nil_iff.mp hkept a List.mem_cons_self
      rw [ha] at hall
      cases hall
    | cons b kept =>
      rw [hkept] at hprefix
      exact congrArg some (List.cons.inj hprefix).1

theorem head?_reverse_trim (p : α → Bool) (l : List α) :
    (trim p l).reverse.head? = l.reverse.find? (fun a => !p a) := by
  unfold trim List.rdropWhile
  rw [List.reverse_reverse, head?_dropWhile, find?_reverse_dropWhile]

theorem trim_trim (p : α → Bool) (l : List α) : trim p (trim p l) = trim p l := by
  have hstart : (trim p l).dropWhile p = trim p l := by
    cases htrim : trim p l with
    | nil => rfl
    | cons a rest =>
      have hfirst := head?_trim p l
      rw [htrim, List.head?_cons] at hfirst
      have ha := List.find?_some hfirst.symm
      exact List.dropWhile_cons_of_neg (by simpa using ha)
  unfold trim at hstart ⊢
  rw [hstart, List.rdropWhile_idempotent]

theorem mem_of_mem_trim {a : α} (h : a ∈ trim p l) : a ∈ l :=
  (List.dropWhile_suffix p).subset ((List.rdropWhile_prefix p _).subset h)

theorem trim_of_ends (hfirst : ∀ a ∈ l.head?, p a = false)
    (hlast : ∀ a ∈ l.getLast?, p a = false) : trim p l = l := by
  have hstart : l.dropWhile p = l := by
    cases l with
    | nil => rfl
    | cons a l => exact List.dropWhile_cons_of_neg (by simp [hfirst a rfl])
  rw [trim, hstart]
  cases l using List.reverseRecOn with
  | nil => rfl
  | append_singleton l a => exact List.rdropWhile_concat_neg _ _ _ (by simp [hlast a (by simp)])

theorem trim_of_forall {p : α → Bool} {l : List α} (h : ∀ a ∈ l, p a = false) : trim p l = l :=
  trim_of_ends (fun _ ha => h _ (List.mem_of_mem_head? ha))
    fun _ ha => h _ (List.mem_of_mem_getLast? ha)

theorem trim_cons_of_pos {a : α} (ha : p a = true) : trim p (a :: l) = trim p l := by
  rw [trim, List.dropWhile_cons_of_pos ha, trim]

theorem rdropWhile_append_cons_of_neg {a : α} (ha : p a = false) (rest : List α) :
    (l ++ a :: rest).rdropWhile p = l ++ a :: rest.rdropWhile p := by
  induction rest using List.reverseRecOn with
  | nil => exact List.rdropWhile_concat_neg _ _ _ (by simp [ha])
  | append_singleton rest b ih =>
    rw [← List.cons_append, ← List.append_assoc]
    cases hb : p b with
    | true => rw [List.rdropWhile_concat_pos _ _ _ hb, List.rdropWhile_concat_pos _ _ _ hb, ih]
    | false =>
      rw [List.rdropWhile_concat_neg _ _ _ (by simp [hb]),
        List.rdropWhile_concat_neg _ _ _ (by simp [hb]), List.append_assoc, List.cons_append]

theorem trim_append_cons {a : α} (hfirst : ∀ b ∈ l.head?, p b = false) (ha : p a = false)
    (rest : List α) : trim p (l ++ a :: rest) = l ++ a :: rest.rdropWhile p := by
  have hstart : (l ++ a :: rest).dropWhile p = l ++ a :: rest := by
    cases l with
    | nil => exact List.dropWhile_cons_of_neg (by simp [ha])
    | cons b l => exact List.dropWhile_cons_of_neg (by simp [hfirst b rfl])
  rw [trim, hstart, rdropWhile_append_cons_of_neg ha]

theorem dropWhile_eq_of_find? (hr : ∀ a, r a = true → p a = true)
    (h : ∀ a ∈ l.find? (fun a => !r a), p a = false) : l.dropWhile p = l.dropWhile r := by
  induction l with
  | nil => rfl
  | cons a l ih =>
    cases ha : r a with
    | true =>
      rw [List.dropWhile_cons_of_pos (hr a ha), List.dropWhile_cons_of_pos ha]
      exact ih fun b hb => h b (by simpa [ha] using hb)
    | false =>
      have hp := h a (by simp [ha])
      rw [List.dropWhile_cons_of_neg (by simp [hp]), List.dropWhile_cons_of_neg (by simp [ha])]

theorem find?_of_find? (hr : ∀ a, r a = true → p a = true) {a : α}
    (h : l.find? (fun a => !r a) = some a) (ha : p a = false) :
    l.find? (fun a => !p a) = some a := by
  induction l with
  | nil => cases h
  | cons b l ih =>
    cases hb : r b with
    | true => simpa [hr b hb] using ih (by simpa [hb] using h)
    | false =>
      have hab : b = a := by simpa [hb] using h
      subst hab
      simp [ha]

theorem trim_eq_of_find? (hr : ∀ a, r a = true → p a = true)
    (hfirst : ∀ a ∈ l.find? (fun a => !r a), p a = false)
    (hlast : ∀ a ∈ l.reverse.find? (fun a => !r a), p a = false) : trim p l = trim r l := by
  unfold trim List.rdropWhile
  rw [dropWhile_eq_of_find? hr hfirst]
  refine congrArg List.reverse (dropWhile_eq_of_find? hr ?_)
  rwa [find?_reverse_dropWhile]

def Neither (p q : α → Bool) (a : α) : Prop := p a = false ∧ q a = false

instance (p q : α → Bool) (a : α) : Decidable (Neither p q a) := inferInstanceAs (Decidable (_ ∧ _))

theorem left_of_both (q : α → Bool) (a : α) (h : (p a && q a) = true) : p a = true :=
  (Bool.and_eq_true_iff.mp h).1

theorem right_of_both (p : α → Bool) (a : α) (h : (p a && q a) = true) : q a = true :=
  (Bool.and_eq_true_iff.mp h).2

theorem neither_of_find? (h : l.find? (fun a => !p a) = l.find? (fun a => !q a)) :
    ∀ a ∈ l.find? (fun a => !(p a && q a)), Neither p q a := by
  intro a ha
  have hboth := List.find?_some ha
  rw [Bool.not_eq_true', Bool.and_eq_false_iff] at hboth
  rcases hboth with hfalse | hfalse
  · have hfound := find?_of_find? (left_of_both q) ha hfalse
    rw [h] at hfound
    exact ⟨hfalse, by simpa using List.find?_some hfound⟩
  · have hfound := find?_of_find? (right_of_both p) ha hfalse
    rw [← h] at hfound
    exact ⟨by simpa using List.find?_some hfound, hfalse⟩

/-- Two predicates trim a list alike exactly when the first and the last element
without both of them has neither. -/
theorem trim_eq_trim_iff (p q : α → Bool) (l : List α) :
    trim p l = trim q l ↔ (∀ a ∈ l.find? (fun a => !(p a && q a)), Neither p q a) ∧
      ∀ a ∈ l.reverse.find? (fun a => !(p a && q a)), Neither p q a := by
  constructor
  · intro h
    have hfirst := congrArg List.head? h
    have hlast := congrArg (fun kept => kept.reverse.head?) h
    rw [head?_trim, head?_trim] at hfirst
    rw [head?_reverse_trim, head?_reverse_trim] at hlast
    exact ⟨neither_of_find? hfirst, neither_of_find? hlast⟩
  · rintro ⟨hfirst, hlast⟩
    have hp : trim p l = trim (fun a => p a && q a) l := trim_eq_of_find? (left_of_both q)
      (fun a ha => (hfirst a ha).1) fun a ha => (hlast a ha).1
    have hq : trim q l = trim (fun a => p a && q a) l := trim_eq_of_find? (right_of_both p)
      (fun a ha => (hfirst a ha).2) fun a ha => (hlast a ha).2
    rw [hp, hq]

end Statora.Library
