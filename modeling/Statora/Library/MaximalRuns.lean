import Mathlib.Data.List.Induction
import Mathlib.Order.Nat
import Mathlib.Tactic.Common

/-!
# Maximal runs of a property over positions

A run is a block of consecutive positions that have the property, and it is
maximal when neither neighbour has it. When one more position is read at the
end, only the run that reaches the end can change.
-/

namespace Statora.Library

structure Block where
  start : ℕ
  stop : ℕ
  deriving DecidableEq, Repr

structure IsMaximalRun (P : ℕ → Prop) (r : Block) : Prop where
  nonempty : r.start < r.stop
  inside : ∀ k, r.start ≤ k → k < r.stop → P k
  before : ∀ k, k + 1 = r.start → ¬ P k
  after : ¬ P r.stop

/-- The last `t` of the first `n` positions have the property, and no more. -/
structure IsTrailing (P : ℕ → Prop) (n t : ℕ) : Prop where
  le : t ≤ n
  inside : ∀ k, n - t ≤ k → k < n → P k
  before : ∀ k, k + 1 = n - t → ¬ P k

variable {P Q : ℕ → Prop} {n t : ℕ} {r : Block}

theorem IsMaximalRun.stop_le (hP : ∀ k, P k → k < n) (hr : IsMaximalRun P r) : r.stop ≤ n := by
  have hlast := hP (r.stop - 1) (hr.inside _ (by have := hr.nonempty; omega)
    (by have := hr.nonempty; omega))
  omega

theorem IsMaximalRun.eq_trailing (ht : IsTrailing P n t) (hr : IsMaximalRun P r)
    (hstop : r.stop = n) : 0 < t ∧ r = ⟨n - t, n⟩ := by
  have hne := hr.nonempty
  have hstart : r.start = n - t := by
    apply le_antisymm
    · by_contra hlt
      exact hr.before (r.start - 1) (by omega)
        (ht.inside (r.start - 1) (by omega) (by omega))
    · by_contra hlt
      exact ht.before (n - t - 1) (by omega) (hr.inside (n - t - 1) (by omega) (by omega))
  constructor
  · omega
  · cases r
    simp_all

theorem isMaximalRun_trailing (hP : ∀ k, P k → k < n) (ht : IsTrailing P n t) (hpos : 0 < t) :
    IsMaximalRun P ⟨n - t, n⟩ where
  nonempty := by
    have := ht.le
    dsimp only
    omega
  inside := ht.inside
  before := ht.before
  after := fun h => lt_irrefl n (hP n h)

theorem IsTrailing.extend (ht : IsTrailing P n t) (hQ : ∀ k, Q k ↔ P k ∨ k = n) :
    IsTrailing Q (n + 1) (t + 1) where
  le := Nat.succ_le_succ ht.le
  inside k hk hkn := by
    rcases Nat.lt_succ_iff_lt_or_eq.mp hkn with h | h
    · exact (hQ k).mpr (Or.inl (ht.inside k (by omega) h))
    · exact (hQ k).mpr (Or.inr h)
  before k hk := by
    rw [hQ, not_or]
    exact ⟨ht.before k (by omega), by omega⟩

theorem IsTrailing.stop (hP : ∀ k, P k → k < n) : IsTrailing P (n + 1) 0 where
  le := Nat.zero_le _
  inside k hk hkn := by omega
  before k hk h := by
    have := hP k h
    omega

theorem isMaximalRun_extend (hP : ∀ k, P k → k < n) (ht : IsTrailing P n t)
    (hQ : ∀ k, Q k ↔ P k ∨ k = n) :
    IsMaximalRun Q r ↔ (IsMaximalRun P r ∧ r.stop ≠ n) ∨ r = ⟨n - t, n + 1⟩ := by
  have hbound : ∀ k, Q k → k < n + 1 := fun k hk => by
    rcases (hQ k).mp hk with h | h
    · exact Nat.lt_succ_of_lt (hP k h)
    · omega
  constructor
  · intro hr
    by_cases hstop : r.stop = n + 1
    · have h := (hr.eq_trailing (ht.extend hQ) hstop).2
      exact Or.inr (by rw [h, Nat.add_sub_add_right])
    · have hle := hr.stop_le hbound
      have hne : r.stop ≠ n := fun h => hr.after ((hQ _).mpr (Or.inr h))
      refine Or.inl ⟨⟨hr.nonempty, fun k hk hks => ?_, fun k hk h => ?_, fun h => ?_⟩, hne⟩
      · exact ((hQ k).mp (hr.inside k hk hks)).resolve_right (by omega)
      · exact hr.before k hk ((hQ k).mpr (Or.inl h))
      · exact hr.after ((hQ _).mpr (Or.inl h))
  · rintro (⟨hr, hne⟩ | rfl)
    · have hle := hr.stop_le hP
      have hpos := hr.nonempty
      refine ⟨hr.nonempty, fun k hk hks => (hQ k).mpr (Or.inl (hr.inside k hk hks)),
        fun k hk h => ?_, fun h => ?_⟩
      · exact ((hQ k).mp h).elim (hr.before k hk) (by omega)
      · exact ((hQ _).mp h).elim hr.after hne
    · have h := isMaximalRun_trailing hbound (ht.extend hQ) (Nat.succ_pos t)
      rwa [Nat.add_sub_add_right] at h

/-- The maximal runs of at least `m` positions, in order. -/
structure LongRuns (P : ℕ → Prop) (m : ℕ) (runs : List Block) : Prop where
  sorted : runs.Pairwise (fun a b => a.start < b.start)
  mem_iff : ∀ r, r ∈ runs ↔ IsMaximalRun P r ∧ m ≤ r.stop - r.start

def lengthen (n : ℕ) (r : Block) : Block := if r.stop = n then ⟨r.start, n + 1⟩ else r

theorem lengthen_start (n : ℕ) (r : Block) : (lengthen n r).start = r.start := by
  unfold lengthen
  split_ifs <;> rfl

variable {m : ℕ} {runs : List Block}

theorem LongRuns.snoc (h : LongRuns P m runs) (hP : ∀ k, P k → k < n) (ht : IsTrailing P n t)
    (hQ : ∀ k, Q k ↔ P k ∨ k = n) (hm : t + 1 = m) :
    LongRuns Q m (runs ++ [⟨n - t, n + 1⟩]) := by
  have hle := ht.le
  have hstop : ∀ r ∈ runs, r.stop < n := fun r hr => by
    obtain ⟨hrun, hlen⟩ := (h.mem_iff r).mp hr
    refine lt_of_le_of_ne (hrun.stop_le hP) fun hstop => ?_
    rw [(hrun.eq_trailing ht hstop).2] at hlen
    dsimp only at hlen
    omega
  constructor
  · rw [List.pairwise_append]
    refine ⟨h.sorted, List.pairwise_singleton _ _, fun r hr b hb => ?_⟩
    rw [List.mem_singleton.mp hb]
    by_contra hge
    have hrun := ((h.mem_iff r).mp hr).1
    have hlt := hstop r hr
    have hne := hrun.nonempty
    dsimp only at hge
    exact hrun.after (ht.inside r.stop (by omega) hlt)
  · intro r
    rw [List.mem_append, List.mem_singleton, h.mem_iff, isMaximalRun_extend hP ht hQ]
    constructor
    · rintro (⟨hrun, hlen⟩ | rfl)
      · have hlt := hstop r ((h.mem_iff r).mpr ⟨hrun, hlen⟩)
        exact ⟨Or.inl ⟨hrun, by omega⟩, hlen⟩
      · refine ⟨Or.inr rfl, ?_⟩
        dsimp only
        omega
    · rintro ⟨⟨hrun, _⟩ | rfl, hlen⟩
      · exact Or.inl ⟨hrun, hlen⟩
      · exact Or.inr rfl

theorem LongRuns.lengthen (h : LongRuns P m runs) (hP : ∀ k, P k → k < n)
    (ht : IsTrailing P n t) (hQ : ∀ k, Q k ↔ P k ∨ k = n) (hpos : 0 < m) (hm : t + 1 ≠ m) :
    LongRuns Q m (runs.map (Library.lengthen n)) := by
  have hle := ht.le
  constructor
  · rw [List.pairwise_map]
    exact h.sorted.imp fun hlt => by rwa [lengthen_start, lengthen_start]
  · intro r
    rw [List.mem_map, isMaximalRun_extend hP ht hQ]
    constructor
    · rintro ⟨r, hr, rfl⟩
      obtain ⟨hrun, hlen⟩ := (h.mem_iff r).mp hr
      by_cases hstop : r.stop = n
      · rw [(hrun.eq_trailing ht hstop).2] at hlen ⊢
        dsimp only at hlen
        rw [Library.lengthen, if_pos rfl]
        refine ⟨Or.inr rfl, ?_⟩
        dsimp only
        omega
      · rw [Library.lengthen, if_neg hstop]
        exact ⟨Or.inl ⟨hrun, hstop⟩, hlen⟩
    · rintro ⟨⟨hrun, hstop⟩ | rfl, hlen⟩
      · exact ⟨r, (h.mem_iff r).mpr ⟨hrun, hlen⟩, if_neg hstop⟩
      · dsimp only at hlen
        have hrun := isMaximalRun_trailing hP ht (by omega)
        refine ⟨⟨n - t, n⟩, (h.mem_iff _).mpr ⟨hrun, ?_⟩, if_pos rfl⟩
        dsimp only
        omega

section Lists
variable {α : Type} (p : α → Bool)

def HoldsAt (as : List α) (k : ℕ) : Prop := ∃ a, as[k]? = some a ∧ p a = true

def trailing (as : List α) : ℕ := (as.reverse.takeWhile p).length

variable {p} {a : α} {as : List α}

theorem HoldsAt.lt {k : ℕ} (h : HoldsAt p as k) : k < as.length := by
  obtain ⟨a, ha, _⟩ := h
  exact (List.getElem?_eq_some_iff.mp ha).1

theorem holdsAt_snoc_of_true (ha : p a = true) (k : ℕ) :
    HoldsAt p (as ++ [a]) k ↔ HoldsAt p as k ∨ k = as.length := by
  constructor
  · intro h
    have hlt := h.lt
    rw [List.length_append, List.length_singleton] at hlt
    obtain ⟨b, hb, hpb⟩ := h
    by_cases hk : k = as.length
    · exact Or.inr hk
    · rw [List.getElem?_append_left (by omega)] at hb
      exact Or.inl ⟨b, hb, hpb⟩
  · rintro (h | rfl)
    · have hlt := h.lt
      obtain ⟨b, hb, hpb⟩ := h
      exact ⟨b, by rw [List.getElem?_append_left hlt, hb], hpb⟩
    · exact ⟨a, by simp, ha⟩

theorem holdsAt_snoc_of_false (ha : p a = false) (k : ℕ) :
    HoldsAt p (as ++ [a]) k ↔ HoldsAt p as k := by
  constructor
  · intro h
    have hlt := h.lt
    rw [List.length_append, List.length_singleton] at hlt
    obtain ⟨b, hb, hpb⟩ := h
    by_cases hk : k = as.length
    · rw [hk, List.getElem?_concat_length, Option.some.injEq] at hb
      rw [← hb, ha] at hpb
      exact absurd hpb (by simp)
    · rw [List.getElem?_append_left (by omega)] at hb
      exact ⟨b, hb, hpb⟩
  · intro h
    have hlt := h.lt
    obtain ⟨b, hb, hpb⟩ := h
    exact ⟨b, by rw [List.getElem?_append_left hlt, hb], hpb⟩

theorem trailing_snoc_of_true (ha : p a = true) : trailing p (as ++ [a]) = trailing p as + 1 := by
  simp [trailing, ha]

theorem trailing_snoc_of_false (ha : p a = false) : trailing p (as ++ [a]) = 0 := by
  simp [trailing, ha]

theorem isTrailing (as : List α) : IsTrailing (HoldsAt p as) as.length (trailing p as) := by
  induction as using List.reverseRecOn with
  | nil =>
    exact ⟨le_rfl, fun k _ h => absurd h (Nat.not_lt_zero k), fun k hk => absurd hk (by simp)⟩
  | append_singleton as a ih =>
    rw [List.length_append, List.length_singleton]
    cases ha : p a with
    | true =>
      rw [trailing_snoc_of_true ha]
      exact ih.extend (holdsAt_snoc_of_true ha)
    | false =>
      rw [trailing_snoc_of_false ha]
      exact IsTrailing.stop fun k hk => ((holdsAt_snoc_of_false ha k).mp hk).lt

theorem le_takeWhile_length (m : ℕ) (as : List α) :
    m ≤ (as.takeWhile p).length ↔ m ≤ as.length ∧ ∀ a ∈ as.take m, p a = true := by
  induction as generalizing m with
  | nil => cases m <;> simp
  | cons a as ih =>
    cases m with
    | zero => simp
    | succ m =>
      cases ha : p a with
      | false => simp [ha]
      | true => simp [ha, ih]

theorem le_trailing (m : ℕ) (as : List α) :
    m ≤ trailing p as ↔ m ≤ as.length ∧ ∀ a ∈ as.drop (as.length - m), p a = true := by
  rw [trailing, le_takeWhile_length, List.length_reverse, List.take_reverse]
  simp only [List.mem_reverse]

end Lists
end Statora.Library
