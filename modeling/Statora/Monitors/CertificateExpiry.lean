import Statora.Monitors.CheckSSL

/-!
# Which certificates are expired

What the certificate check is to say of an expiry time, and exactly when it
says it. The choice of a threshold depends on the set of positive ones alone,
so that the check may run on the thresholds of a request or on the stored ones.
-/

namespace Statora.Monitors
open Library (sortSlice)

/-- The smallest positive threshold that the days do not exceed, 0 when there is none. -/
def SmallestTriggered (thresholds : List ℤ) (days triggered : ℤ) : Prop :=
  (triggered ∈ thresholds ∧ 0 < triggered ∧ days ≤ triggered ∧
      ∀ t ∈ thresholds, 0 < t → days ≤ t → triggered ≤ t) ∨
    triggered = 0 ∧ ∀ t ∈ thresholds, 0 < t → t < days

structure Classifies (check : List ℤ → Except String SSLCheckResult) (notAfter now : ℤ)
    (thresholds : List ℤ) : Prop where
  expired : (∃ days, check thresholds = .error (expiredError days)) ↔ notAfter < now
  triggered : now ≤ notAfter → ∃ r, check thresholds = .ok r ∧
    SmallestTriggered thresholds ((notAfter - now) / day) r.triggeredThreshold
  sameElements : ∀ thresholds', (∀ t, t ∈ thresholds' ↔ t ∈ thresholds) →
    check thresholds' = check thresholds
  sanitized : (∃ t ∈ thresholds, 0 < t) →
    check (sanitizeSSLThresholds thresholds) = check thresholds ∧
      (sanitizeSSLThresholds thresholds).Pairwise (· > ·) ∧
      (∀ t, t ∈ sanitizeSSLThresholds thresholds ↔ t ∈ thresholds ∧ 0 < t) ∧
      sanitizeSSLThresholds (sanitizeSSLThresholds thresholds) = sanitizeSSLThresholds thresholds

/-- The remaining time is not among those that the check misjudges: less than a day past
expiry; so little below a whole number of days that binary64 rounds it up to them, when the
day before is a threshold; too long for a duration, when a threshold lies between the days
of the longest one and those that remain. -/
structure WellJudged (remaining : ℤ) (thresholds : List ℤ) : Prop where
  notRecent : ¬ (-day < remaining ∧ remaining < 0)
  notRounded : 0 ≤ remaining → remaining ≤ maxInt → RoundsUp remaining →
    0 < remaining / day → remaining / day ∉ thresholds
  notSaturated : maxInt < remaining → ∀ t ∈ thresholds, 106751 ≤ t → remaining / day ≤ t

variable {thresholds thresholds' : List ℤ} {days days' : ℤ}

theorem SmallestTriggered.unique {a b : ℤ} (ha : SmallestTriggered thresholds days a)
    (hb : SmallestTriggered thresholds days b) : a = b := by
  rcases ha with ⟨ha, hapos, haday, hamin⟩ | ⟨rfl, hanone⟩
  · rcases hb with ⟨hb, hbpos, hbday, hbmin⟩ | ⟨rfl, hbnone⟩
    · exact le_antisymm (hamin b hb hbpos hbday) (hbmin a ha hapos haday)
    · exact absurd (hbnone a ha hapos) haday.not_gt
  · rcases hb with ⟨hb, hbpos, hbday, -⟩ | ⟨rfl, -⟩
    · exact absurd (hanone b hb hbpos) hbday.not_gt
    · rfl

theorem SmallestTriggered.congr {triggered : ℤ}
    (h : ∀ t, 0 < t → (t ∈ thresholds ↔ t ∈ thresholds')) :
    SmallestTriggered thresholds days triggered ↔ SmallestTriggered thresholds' days triggered := by
  have hforward : ∀ {l l' : List ℤ}, (∀ t, 0 < t → (t ∈ l ↔ t ∈ l')) →
      SmallestTriggered l days triggered → SmallestTriggered l' days triggered := by
    rintro l l' hl (⟨hmem, hpos, hday, hmin⟩ | ⟨rfl, hnone⟩)
    · exact Or.inl ⟨(hl _ hpos).mp hmem, hpos, hday,
        fun t ht hpos => hmin t ((hl t hpos).mpr ht) hpos⟩
    · exact Or.inr ⟨rfl, fun t ht hpos => hnone t ((hl t hpos).mpr ht) hpos⟩
  exact ⟨hforward h, hforward fun t ht => (h t ht).symm⟩

theorem pickTriggeredThreshold_eq (days : ℤ) (thresholds : List ℤ) :
    pickTriggeredThreshold days thresholds =
      ((sortSlice (fun a b => decide (a < b)) (thresholds.filter (fun t => t > 0))).find?
        (fun t => days ≤ t)).getD 0 := by
  unfold pickTriggeredThreshold
  dsimp only
  split_ifs with hnone hinvalid
  · rw [List.eq_nil_of_length_eq_zero hnone]
    rfl
  · rw [List.eq_nil_of_length_eq_zero hinvalid]
    rfl
  · rfl

theorem pickTriggeredThreshold_spec (days : ℤ) (thresholds : List ℤ) :
    SmallestTriggered thresholds days (pickTriggeredThreshold days thresholds) := by
  rw [pickTriggeredThreshold_eq]
  have hsorted := Library.sortSlice_lt_pairwise (thresholds.filter (fun t => t > 0))
  have hmem : ∀ t, t ∈ sortSlice (fun a b : ℤ => decide (a < b))
      (thresholds.filter (fun t => t > 0)) ↔ t ∈ thresholds ∧ 0 < t := fun t => by simp
  generalize sortSlice (fun a b : ℤ => decide (a < b)) (thresholds.filter (fun t => t > 0)) =
    ordered at hsorted hmem ⊢
  cases hfound : ordered.find? (fun t => days ≤ t) with
  | none =>
    refine Or.inr ⟨rfl, fun t ht hpos => ?_⟩
    have hfails := List.find?_eq_none.mp hfound t ((hmem t).mpr ⟨ht, hpos⟩)
    simpa using hfails
  | some first =>
    obtain ⟨hfirst, before, after, hsplit, hbefore⟩ := List.find?_eq_some_iff_append.mp hfound
    have hlisted := (hmem first).mp (by rw [hsplit]; simp)
    refine Or.inl ⟨hlisted.1, hlisted.2, by simpa using hfirst, fun t ht hpos hday => ?_⟩
    have hin := (hmem t).mpr ⟨ht, hpos⟩
    rw [hsplit] at hin hsorted
    rcases List.mem_append.mp hin with hearly | hlate
    · have hfails := hbefore t hearly
      exact absurd hday (by simpa using hfails)
    · rcases List.mem_cons.mp hlate with rfl | hlater
      · exact le_rfl
      · exact (List.pairwise_cons.mp (List.pairwise_append.mp hsorted).2.1).1 t hlater

theorem pickTriggeredThreshold_congr (days : ℤ)
    (h : ∀ t, 0 < t → (t ∈ thresholds ↔ t ∈ thresholds')) :
    pickTriggeredThreshold days thresholds = pickTriggeredThreshold days thresholds' :=
  ((SmallestTriggered.congr h).mp (pickTriggeredThreshold_spec days thresholds)).unique
    (pickTriggeredThreshold_spec days thresholds')

theorem smallestTriggered_pick_iff :
    SmallestTriggered thresholds days (pickTriggeredThreshold days' thresholds) ↔
      ∀ t ∈ thresholds, 0 < t → (days ≤ t ↔ days' ≤ t) := by
  have hpick := pickTriggeredThreshold_spec days' thresholds
  generalize pickTriggeredThreshold days' thresholds = picked at hpick
  constructor
  · intro hchosen t ht hpos
    rcases hpick with ⟨-, hpos', hday', hmin'⟩ | ⟨rfl, hnone'⟩
    · rcases hchosen with ⟨-, -, hday, hmin⟩ | ⟨rfl, -⟩
      · exact ⟨fun h => hday'.trans (hmin t ht hpos h), fun h => hday.trans (hmin' t ht hpos h)⟩
      · exact absurd hpos' (lt_irrefl 0)
    · rcases hchosen with ⟨-, hpos', -⟩ | ⟨-, hnone⟩
      · exact absurd hpos' (lt_irrefl 0)
      · exact iff_of_false (hnone t ht hpos).not_ge (hnone' t ht hpos).not_ge
  · intro hagree
    rcases hpick with ⟨hmem, hpos, hday', hmin'⟩ | ⟨rfl, hnone'⟩
    · refine Or.inl ⟨hmem, hpos, (hagree picked hmem hpos).mpr hday', fun t ht hpos hday => ?_⟩
      exact hmin' t ht hpos ((hagree t ht hpos).mp hday)
    · refine Or.inr ⟨rfl, fun t ht hpos => ?_⟩
      rw [← not_le, hagree t ht hpos, not_le]
      exact hnone' t ht hpos

variable {notAfter now : ℤ}

theorem checkExpiry_congr (h : ∀ t, 0 < t → (t ∈ thresholds ↔ t ∈ thresholds')) :
    checkExpiry notAfter now thresholds = checkExpiry notAfter now thresholds' := by
  unfold checkExpiry
  dsimp only
  rw [pickTriggeredThreshold_congr _ h]

theorem checkExpiry_error_iff (thresholds : List ℤ) (notAfter now : ℤ) :
    (∃ days, checkExpiry notAfter now thresholds = .error (expiredError days)) ↔
      notAfter - now ≤ -day := by
  have hneg : daysOf (timeSub notAfter now) < 0 ↔ notAfter - now ≤ -day := by
    rw [daysOf_neg_iff (by unfold timeSub minInt maxInt; omega)
      (by unfold timeSub minInt maxInt; omega)]
    unfold timeSub minInt maxInt day hour minute second
    omega
  rw [← hneg]
  unfold checkExpiry
  dsimp only
  split_ifs with hexpired
  · exact iff_of_true ⟨_, rfl⟩ hexpired
  · exact iff_of_false (fun ⟨_, h⟩ => by cases h) hexpired

theorem checkExpiry_of_le (thresholds : List ℤ) (h : now ≤ notAfter) :
    ∃ r, checkExpiry notAfter now thresholds = .ok r ∧
    r.triggeredThreshold =
      pickTriggeredThreshold (daysOf (min maxInt (notAfter - now))) thresholds := by
  have hsub : timeSub notAfter now = min maxInt (notAfter - now) := by
    unfold timeSub minInt maxInt
    omega
  have hnonneg : ¬ daysOf (timeSub notAfter now) < 0 := by
    rw [daysOf_neg_iff (by unfold timeSub minInt maxInt; omega)
      (by unfold timeSub minInt maxInt; omega)]
    have := day_pos
    unfold timeSub minInt maxInt
    omega
  unfold checkExpiry
  dsimp only
  rw [if_neg hnonneg]
  exact ⟨_, rfl, by rw [hsub]⟩

theorem agree_iff_wellJudged {remaining : ℤ} (h : 0 ≤ remaining) :
    (∀ t ∈ thresholds, 0 < t → (remaining / day ≤ t ↔ daysOf (min maxInt remaining) ≤ t)) ↔
      WellJudged remaining thresholds := by
  have hnotRecent : ¬ (-day < remaining ∧ remaining < 0) := by omega
  rcases le_or_gt remaining maxInt with hmax | hmax
  · have hrange : remaining ≤ 2 ^ 63 := hmax.trans (by decide)
    rw [min_eq_right hmax]
    by_cases hup : RoundsUp remaining
    · rw [(daysOf_of_nonneg h hrange).1 hup]
      constructor
      · intro hagree
        refine ⟨hnotRecent, fun _ _ _ hpos hmem => ?_, fun hlong => absurd hmax hlong.not_ge⟩
        have hboth := hagree _ hmem hpos
        omega
      · intro hjudged t ht hpos
        have hout := hjudged.notRounded h hmax hup
        by_cases htday : t = remaining / day
        · subst htday
          exact absurd ht (hout hpos)
        · omega
    · rw [(daysOf_of_nonneg h hrange).2 hup]
      exact iff_of_true (fun _ _ _ => Iff.rfl) ⟨hnotRecent, fun _ _ hup' => absurd hup' hup,
        fun hlong => absurd hmax hlong.not_ge⟩
  · have hlong : 106751 ≤ remaining / day := by
      have hwhole : maxInt / day = 106751 := by decide
      rw [← hwhole]
      exact Int.ediv_le_ediv day_pos hmax.le
    rw [min_eq_left hmax.le, daysOf_maxInt]
    constructor
    · intro hagree
      exact ⟨hnotRecent, fun _ hshort => absurd hmax hshort.not_gt,
        fun _ t ht hday => (hagree t ht (by omega)).mpr hday⟩
    · intro hjudged t ht _
      exact ⟨fun hday => hlong.trans hday, hjudged.notSaturated hmax t ht⟩

theorem checkExpiry_sanitized (h : ∃ t ∈ thresholds, 0 < t) :
    checkExpiry notAfter now (sanitizeSSLThresholds thresholds) =
      checkExpiry notAfter now thresholds := by
  refine checkExpiry_congr fun t ht => ?_
  rw [mem_sanitizeSSLThresholds h]
  exact and_iff_left ht

theorem classifies_of
    (hexpired : (∃ days, checkExpiry notAfter now thresholds = .error (expiredError days)) ↔
      notAfter < now)
    (htriggered : now ≤ notAfter → ∃ r, checkExpiry notAfter now thresholds = .ok r ∧
      SmallestTriggered thresholds ((notAfter - now) / day) r.triggeredThreshold) :
    Classifies (checkExpiry notAfter now) notAfter now thresholds :=
  ⟨hexpired, htriggered, fun _ hsame => checkExpiry_congr fun t _ => hsame t,
    fun hpositive => ⟨checkExpiry_sanitized hpositive, sanitizeSSLThresholds_descending _,
      fun _ => mem_sanitizeSSLThresholds hpositive, sanitizeSSLThresholds_idem _⟩⟩

theorem classifies_iff (notAfter now : ℤ) (thresholds : List ℤ) :
    Classifies (checkExpiry notAfter now) notAfter now thresholds ↔
      WellJudged (notAfter - now) thresholds := by
  have hday := day_pos
  have herror := checkExpiry_error_iff thresholds notAfter now
  rcases le_or_gt now notAfter with hvalid | hexpired
  · obtain ⟨r, hr, htriggered⟩ := checkExpiry_of_le thresholds hvalid
    rw [← agree_iff_wellJudged (by omega), ← smallestTriggered_pick_iff, ← htriggered]
    constructor
    · intro hclassifies
      obtain ⟨r', hr', hsmallest⟩ := hclassifies.triggered hvalid
      rw [hr] at hr'
      cases hr'
      exact hsmallest
    · intro hsmallest
      exact classifies_of (herror.trans (by omega)) fun _ => ⟨r, hr, hsmallest⟩
  · constructor
    · intro hclassifies
      have hlong := herror.mp (hclassifies.expired.mpr hexpired)
      exact ⟨by omega, by omega, fun hpositive => absurd hpositive (by unfold maxInt; omega)⟩
    · intro hjudged
      have hlong : notAfter - now ≤ -day := by
        have := hjudged.notRecent
        omega
      exact classifies_of (iff_of_true (herror.mpr hlong) hexpired) fun hvalid => by omega

/-- Once the handshake and the host name are fine, the check says of the certificate what it
is to say exactly when it judges the remaining time well. -/
theorem checkSSL_classifies_iff (tls : TLS) (target : String) (timeout now : ℤ)
    (leaf : Certificate) (chain : List Certificate) (thresholds : List ℤ)
    (hpeer : peerCertificates tls target timeout = .ok (leaf :: chain))
    (hhost : leaf.verifyHostname (hostPort tls target).1 = .ok ()) :
    Classifies (checkSSL tls target timeout now) leaf.notAfter now thresholds ↔
      WellJudged (leaf.notAfter - now) thresholds := by
  have hcheck : checkSSL tls target timeout now = checkExpiry leaf.notAfter now := by
    funext thresholds
    simp [checkSSL, hpeer, hhost, Bind.bind, Except.bind]
  rw [hcheck]
  exact classifies_iff leaf.notAfter now thresholds

def singleCertificate (notAfter : ℤ) : TLS :=
  ⟨fun _ => some ("example.org", "443"), fun host port => host ++ ":" ++ port,
    fun _ _ _ => .ok [⟨notAfter, fun _ => .ok ()⟩]⟩

theorem checkSSL_classifies_iff_month :
    Classifies (checkSSL (singleCertificate (30 * day)) "example.org:443" 0 0) (30 * day) 0
        [30, 14, 7] ↔ WellJudged (30 * day - 0) [30, 14, 7] :=
  checkSSL_classifies_iff (singleCertificate (30 * day)) "example.org:443" 0 0
    ⟨30 * day, fun _ => .ok ()⟩ [] [30, 14, 7] rfl rfl

theorem checkSSL_hourAgo :
    ¬ Classifies (checkSSL (singleCertificate 0) "example.org:443" 0 hour) 0 hour [30, 14, 7] := by
  intro hclassifies
  obtain ⟨days, herror⟩ := hclassifies.expired.mpr hour_pos
  have hcheck : checkSSL (singleCertificate 0) "example.org:443" 0 hour [30, 14, 7] =
      checkExpiry 0 hour [30, 14, 7] := rfl
  rw [hcheck] at herror
  exact absurd ((checkExpiry_error_iff _ _ _).mp ⟨days, herror⟩) (by decide)

end Statora.Monitors
