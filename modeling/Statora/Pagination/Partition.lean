import Statora.Pagination.Requests

/-!
# Pages against the collection

The pages of a list put the sorted collection together when the last of them reaches its end
and no skip overflows. A single page is the right one when its skip does not overflow, or
overflows to a number past the end.
-/

namespace Statora.Pagination
open Library (Arranged window roundNearest)
variable {α β : Type} [LinearOrder β] {listing : Listing} {c : SortedCollection α β}
  {order : ℤ → List α} {sorted : List α} {page limit : ℤ}

/-- The page numbers up to the announced one give the sorted collection, and the page has
its part of it. -/
structure Paginates (listing : Listing) (c : SortedCollection α β) (order : ℤ → List α)
    (sorted : List α) (page limit : ℤ) : Prop where
  partition : ∃ results : List (PaginatedResult α),
    List.Forall₂ (fun (i : ℕ) r => listing.respond c (order (i + 1)) (i + 1) limit = .ok r)
      (List.range (listing.totalPages c.count limit).toNat) results ∧
    (results.map (·.items)).flatten = sorted
  window : ∃ r, listing.respond c (order page) page limit = .ok r ∧
    r.items = Library.window ((page - 1) * limit).toNat limit.toNat sorted
  skip : 0 ≤ skipOf page limit

/-- The skip fits, or what it becomes is past the end. -/
def SkipFits (count page limit : ℤ) : Prop :=
  (page - 1) * limit ≤ maxInt ∨
    count ≤ (page - 1) * limit % 18446744073709551616 ∧
      (page - 1) * limit % 18446744073709551616 ≤ maxInt

instance (count page limit : ℤ) : Decidable (SkipFits count page limit) :=
  inferInstanceAs (Decidable (_ ∨ _))

/-- The rounded quotient is above the number of full pages before the last and below the
first page whose skip overflows. -/
def WellRounded (count limit : ℤ) : Prop :=
  let quotient := roundNearest (roundNearest count / roundNearest limit)
  ((count - 1) / limit : ℤ) < quotient ∧ quotient ≤ (maxInt / limit : ℤ) + 1 ∧
    quotient ≤ maxInt

def PagesCover : Listing → ℤ → ℤ → Prop
  | .admin, count, limit => count ≤ 2 ^ 53 ∨ WellRounded count limit
  | .monitorLogs, count, limit => count + limit - 1 ≤ maxInt

theorem positiveParam_bounds {query message : String} {absent value : ℤ} (habsent : 1 ≤ absent)
    (habsent' : absent ≤ maxInt) (h : positiveParam query message absent = .ok value) :
    1 ≤ value ∧ value ≤ maxInt := by
  unfold positiveParam at h
  split_ifs at h with hquery
  · cases h
    exact ⟨habsent, habsent'⟩
  · cases hatoi : atoi query with
    | none => simp [hatoi] at h
    | some parsed =>
      simp only [hatoi] at h
      split_ifs at h with hsmall
      cases h
      exact ⟨by omega, (atoi_bounds hatoi).2⟩

theorem config_bounds (listing : Listing) :
    1 ≤ listing.config.defaultLimit ∧ listing.config.defaultLimit ≤ maxInt := by
  cases listing <;> decide

theorem parseLimit_bounds {limitQuery : String}
    (h : parseLimit listing.config limitQuery = .ok limit) : 1 ≤ limit ∧ limit ≤ maxInt := by
  have hdefault := config_bounds listing
  unfold parseLimit at h
  cases hvalue : positiveParam limitQuery "invalid limit query parameter"
      listing.config.defaultLimit with
  | error message => simp [hvalue, Except.map] at h
  | ok value =>
    have hbounds := positiveParam_bounds hdefault.1 hdefault.2 hvalue
    rw [hvalue] at h
    simp only [Except.map, Except.ok.injEq] at h
    split_ifs at h <;> omega

theorem parsePaginationParams_bounds {pageQuery limitQuery : String}
    (h : parsePaginationParams listing.config pageQuery limitQuery = .ok (page, limit)) :
    (1 ≤ page ∧ page ≤ maxInt) ∧ 1 ≤ limit ∧ limit ≤ maxInt := by
  unfold parsePaginationParams at h
  cases hpage : parsePage pageQuery with
  | error message =>
    rw [hpage] at h
    cases h
  | ok value =>
    cases hlimit : parseLimit listing.config limitQuery with
    | error message =>
      rw [hpage, hlimit] at h
      cases h
    | ok value' =>
      rw [hpage, hlimit] at h
      cases h
      exact ⟨positiveParam_bounds (by decide) (by decide) hpage, parseLimit_bounds hlimit⟩

theorem respond_eq_ok (hskip : 0 ≤ skipOf page limit) :
    listing.respond c sorted page limit = .ok
      { items := window (skipOf page limit).toNat limit.toNat sorted
        page := page
        total := c.count
        totalPages := listing.totalPages c.count limit } := by
  rw [Listing.respond, findPage, if_neg (by omega)]
  rfl

theorem respond_eq_error (hskip : skipOf page limit < 0) :
    listing.respond c sorted page limit = .error .negativeSkip := by
  rw [Listing.respond, findPage, if_pos hskip]
  rfl

theorem SortedCollection.length_eq (h : Arranged c.key c.items sorted) :
    (sorted.length : ℤ) = c.count := by
  rw [SortedCollection.count, h.1.length_eq]

theorem window_iff_skipFits (listing : Listing) (hsorted : Arranged c.key c.items sorted)
    (hpage : 1 ≤ page) (hlimit : 1 ≤ limit) :
    ((∃ r, listing.respond c sorted page limit = .ok r ∧
        r.items = window ((page - 1) * limit).toNat limit.toNat sorted) ∧
      0 ≤ skipOf page limit) ↔ SkipFits c.count page limit := by
  have hlength := SortedCollection.length_eq hsorted
  have hcounted := c.counted
  have hexact : 0 ≤ (page - 1) * limit := Int.mul_nonneg (by omega) (by omega)
  have hwindow : 0 ≤ skipOf page limit → ((∃ r, listing.respond c sorted page limit = .ok r ∧
      r.items = window ((page - 1) * limit).toNat limit.toNat sorted) ↔
      window (skipOf page limit).toNat limit.toNat sorted =
        window ((page - 1) * limit).toNat limit.toNat sorted) := by
    intro hskip
    simp [respond_eq_ok hskip]
  rcases le_or_gt ((page - 1) * limit) maxInt with hfits | hover
  · have hskip : skipOf page limit = (page - 1) * limit := wrapInt_of_le hexact hfits
    have hpos : 0 ≤ skipOf page limit := hskip ▸ hexact
    exact iff_of_true ⟨(hwindow hpos).mpr (by rw [hskip]), hpos⟩ (.inl hfits)
  · -- The page is past the end, and its window is empty.
    have hempty : window ((page - 1) * limit).toNat limit.toNat sorted = [] := by
      refine (Library.window_eq_nil_iff (by omega)).mpr ?_
      unfold SortedCollection.count at hlength
      omega
    have hwrap : skipOf page limit = _ := wrapInt_eq ((page - 1) * limit)
    unfold SkipFits
    split_ifs at hwrap with hrange
    · have hpos : 0 ≤ skipOf page limit := by omega
      rw [and_iff_left hpos, hwindow hpos, hempty, Library.window_eq_nil_iff (by omega)]
      omega
    · have hneg : skipOf page limit < 0 := by omega
      exact iff_of_false (by omega) (by omega)

theorem exists_skipOf_neg {pages : ℕ} (hlimit : 1 ≤ limit) (hlimit' : limit ≤ maxInt)
    (h : maxInt < (pages - 1 : ℤ) * limit) : ∃ i < pages, skipOf (i + 1) limit < 0 := by
  have hlow := Int.mul_ediv_add_emod maxInt limit
  have hrest := Int.emod_lt_of_pos maxInt (show 0 < limit by omega)
  have hrest' := Int.emod_nonneg maxInt (show limit ≠ 0 by omega)
  have hfirst : maxInt / limit < pages - 1 := Int.ediv_lt_of_lt_mul (by omega) h
  have hpos : 0 ≤ maxInt / limit := Int.ediv_nonneg (by decide) (by omega)
  obtain ⟨full, hfull⟩ := Int.eq_ofNat_of_zero_le hpos
  rw [hfull] at hlow hfirst
  refine ⟨full + 1, by omega, ?_⟩
  have hskip : (((full + 1 : ℕ) : ℤ) + 1 - 1) * limit = limit * full + limit := by
    push_cast
    ring
  rw [skipOf, hskip]
  refine wrapInt_neg (by omega) ?_
  unfold maxInt at *
  omega

def answer (listing : Listing) (c : SortedCollection α β) (sorted : List α) (size i : ℕ) :
    PaginatedResult α :=
  { items := window (i * size) size sorted
    page := i + 1
    total := c.count
    totalPages := listing.totalPages c.count size }

theorem respond_eq_answer {size i : ℕ} (h : (i * size : ℤ) ≤ maxInt) :
    listing.respond c sorted (i + 1) size = .ok (answer listing c sorted size i) := by
  have hskip : skipOf (i + 1) size = ((i * size : ℕ) : ℤ) := by
    rw [skipOf, add_sub_cancel_right]
    exact_mod_cast wrapInt_of_le (by positivity) h
  rw [respond_eq_ok (by omega), hskip]
  rfl

theorem partition_iff {pages : ℕ} (hsorted : Arranged c.key c.items sorted) (hlimit : 1 ≤ limit)
    (hlimit' : limit ≤ maxInt) :
    (∃ results : List (PaginatedResult α),
      List.Forall₂ (fun (i : ℕ) r => listing.respond c sorted (i + 1) limit = .ok r)
        (List.range pages) results ∧
      (results.map (·.items)).flatten = sorted) ↔
    c.count ≤ pages * limit ∧ (pages - 1 : ℤ) * limit ≤ maxInt := by
  obtain ⟨size, rfl⟩ := Int.eq_ofNat_of_zero_le (show 0 ≤ limit by omega)
  by_cases hover : (pages - 1 : ℤ) * size ≤ maxInt
  · have hpage : ∀ i ∈ List.range pages, ∀ r,
        listing.respond c sorted ((i : ℤ) + 1) size = .ok r ↔
          r = answer listing c sorted size i := by
      intro i hi r
      have hlast := List.mem_range.mp hi
      have hle : (i : ℤ) * size ≤ (pages - 1 : ℤ) * size :=
        Int.mul_le_mul_of_nonneg_right (by omega) (by omega)
      rw [respond_eq_answer (hle.trans hover), Except.ok.injEq, eq_comm]
    have hparts : ((List.range pages).map (answer listing c sorted size)).map (·.items) =
        (List.range pages).map fun i => window (i * size) size sorted := List.map_map
    rw [and_iff_left hover]
    simp only [Library.forall₂_iff_eq_map hpage, exists_eq_left]
    rw [hparts, Library.flatten_windows, List.take_eq_self_iff,
      ← SortedCollection.length_eq hsorted]
    norm_cast
  · refine iff_of_false ?_ fun h => hover h.2
    rintro ⟨results, hresults, -⟩
    obtain ⟨i, hi, hneg⟩ := exists_skipOf_neg hlimit hlimit' (not_le.mp hover)
    have hlength : i < results.length := by
      rw [← hresults.length_eq, List.length_range]
      exact hi
    have hanswer := hresults.get (by rwa [List.length_range]) hlength
    rw [List.get_eq_getElem, List.getElem_range, respond_eq_error hneg] at hanswer
    cases hanswer

theorem le_roundNearest_intCast {n : ℤ} (h : 2 ^ 53 ≤ n) : (2 ^ 53 : ℚ) ≤ roundNearest n := by
  have hbound : ((2 ^ 53 : ℤ) : ℚ) ≤ n := by exact_mod_cast h
  have hround := Library.roundNearest_mono hbound
  rw [Library.roundNearest_intCast (by norm_num)] at hround
  exact_mod_cast hround

theorem quotient_bounds {count : ℤ} (hcount : 1 ≤ count) (hcount' : count ≤ 2 ^ 53)
    (hlimit : 1 ≤ limit) :
    ((count - 1) / limit : ℤ) < roundNearest (roundNearest count / roundNearest limit) ∧
      roundNearest count / roundNearest limit ≤ ((count - 1) / limit : ℤ) + 1 := by
  have hexact : roundNearest count = count :=
    Library.roundNearest_intCast (by rw [abs_of_pos (by omega)]; exact hcount')
  have hpos : (0 : ℚ) < count := by exact_mod_cast hcount
  rw [hexact]
  rcases le_or_gt limit (2 ^ 53) with hsmall | hlarge
  · have hexact' : roundNearest limit = limit :=
      Library.roundNearest_intCast (by rw [abs_of_pos (by omega)]; exact hsmall)
    have hlimitPos : (0 : ℚ) < limit := by exact_mod_cast hlimit
    have hfull := Int.mul_ediv_add_emod (count - 1) limit
    have hrest := Int.emod_lt_of_pos (count - 1) (show 0 < limit by omega)
    have hrest' := Int.emod_nonneg (count - 1) (show limit ≠ 0 by omega)
    have hlow : (limit : ℚ) * ((count - 1) / limit : ℤ) + 1 ≤ count := by
      exact_mod_cast (show limit * ((count - 1) / limit) + 1 ≤ count by omega)
    have hhigh : (count : ℚ) ≤ limit * ((count - 1) / limit : ℤ) + limit := by
      exact_mod_cast (show count ≤ limit * ((count - 1) / limit) + limit by omega)
    rw [hexact']
    constructor
    · refine Library.lt_roundNearest_of_gap (1 / limit) ?_ (by positivity) ?_ ?_
      · exact_mod_cast Int.ediv_nonneg (by omega) (by omega)
      · rw [le_div_iff₀ hlimitPos, add_mul, div_mul_cancel₀ _ hlimitPos.ne']
        linarith
      · rw [mul_one_div]
        exact div_le_div_of_nonneg_right (by exact_mod_cast hcount') hlimitPos.le
    · rw [div_le_iff₀ hlimitPos]
      linarith
  · -- There is one page, and the quotient is at most one.
    have hnone : (count - 1) / limit = 0 := Int.ediv_eq_zero_of_lt (by omega) (by omega)
    have hlarge' := le_roundNearest_intCast hlarge.le
    have hround : (0 : ℚ) < roundNearest limit := by linarith
    have hquotient : (0 : ℚ) < count / roundNearest limit := by positivity
    rw [hnone, Int.cast_zero, zero_add]
    constructor
    · refine Library.lt_roundNearest_of_gap _ le_rfl hquotient (by rw [zero_add]) ?_
      linarith
    · rw [div_le_one hround]
      exact (show (count : ℚ) ≤ 2 ^ 53 by exact_mod_cast hcount').trans hlarge'

theorem wellRounded_of_le {count : ℤ} (hcount : 1 ≤ count) (hcount' : count ≤ 2 ^ 53)
    (hlimit : 1 ≤ limit) : WellRounded count limit := by
  obtain ⟨hlow, hhigh⟩ := quotient_bounds hcount hcount' hlimit
  have hpos : 0 ≤ (count - 1) / limit := Int.ediv_nonneg (by omega) (by omega)
  have hself : (count - 1) / limit ≤ count - 1 := Int.ediv_le_self _ (by omega)
  have hfull : (count - 1) / limit ≤ maxInt / limit :=
    Int.ediv_le_ediv (by omega) (by unfold maxInt; omega)
  have hround : roundNearest (roundNearest count / roundNearest limit) ≤
      ((count - 1) / limit + 1 : ℤ) := by
    have := Library.roundNearest_le (m := (count - 1) / limit + 1) 0
      (by rw [abs_of_pos (by omega)]; omega) (by push_cast; simpa using hhigh)
    simpa using this
  refine ⟨hlow, hround.trans ?_, hround.trans ?_⟩
  · exact_mod_cast (show (count - 1) / limit + 1 ≤ maxInt / limit + 1 by omega)
  · exact_mod_cast (show (count - 1) / limit + 1 ≤ maxInt by unfold maxInt; omega)

theorem intOfFloat_intCast (n : ℤ) :
    intOfFloat n = if n < minInt ∨ n > maxInt then minInt else n := by
  simp [intOfFloat]

theorem wellRounded_iff {count : ℤ} : WellRounded count limit ↔
    (count - 1) / limit < ⌈roundNearest (roundNearest count / roundNearest limit)⌉ ∧
      ⌈roundNearest (roundNearest count / roundNearest limit)⌉ ≤ maxInt / limit + 1 ∧
      ⌈roundNearest (roundNearest count / roundNearest limit)⌉ ≤ maxInt := by
  unfold WellRounded
  rw [Int.lt_ceil, Int.ceil_le, Int.ceil_le, Int.cast_add, Int.cast_one]

theorem covers_iff {count pages : ℤ} (hlimit : 1 ≤ limit) (hpages : 0 ≤ pages) :
    (count ≤ pages.toNat * limit ∧ (pages.toNat - 1 : ℤ) * limit ≤ maxInt) ↔
      (count - 1) / limit < pages ∧ pages ≤ maxInt / limit + 1 := by
  rw [Int.toNat_of_nonneg hpages, Int.ediv_lt_iff_lt_mul (by omega), ← sub_le_iff_le_add,
    Int.le_ediv_iff_mul_le (by omega)]
  omega

theorem not_covers {count pages : ℤ} (hcount : 1 ≤ count) (hpages : pages ≤ 0) :
    ¬ (count ≤ pages.toNat * limit ∧ (pages.toNat - 1 : ℤ) * limit ≤ maxInt) := by
  rw [Int.toNat_of_nonpos hpages]
  rintro ⟨h, -⟩
  simp at h
  omega

theorem responseTotalPages_covers_iff {count : ℤ} (hcount : 1 ≤ count) (hlimit : 1 ≤ limit) :
    (count ≤ (responseTotalPages count limit).toNat * limit ∧
      ((responseTotalPages count limit).toNat - 1 : ℤ) * limit ≤ maxInt) ↔
      WellRounded count limit := by
  have hpos : 0 ≤ (count - 1) / limit := Int.ediv_nonneg (by omega) (by omega)
  rw [responseTotalPages, if_pos (by omega), intOfFloat_intCast, wellRounded_iff]
  generalize ⌈roundNearest (roundNearest count / roundNearest limit)⌉ = pages
  split_ifs with hrange
  · have hmin : minInt ≤ 0 := by decide
    refine iff_of_false (not_covers hcount hmin) ?_
    omega
  · rcases le_or_gt 0 pages with hpages | hpages
    · rw [covers_iff hlimit hpages]
      omega
    · exact iff_of_false (not_covers hcount hpages.le) (by omega)

theorem calculateTotalPages_covers_iff {count : ℤ} (hcount : 1 ≤ count) (hcount' : count ≤ maxInt)
    (hlimit : 1 ≤ limit) (hlimit' : limit ≤ maxInt) :
    (count ≤ (calculateTotalPages count limit).toNat * limit ∧
      ((calculateTotalPages count limit).toNat - 1 : ℤ) * limit ≤ maxInt) ↔
      count + limit - 1 ≤ maxInt := by
  rw [calculateTotalPages, if_neg (by omega)]
  rcases le_or_gt (count + limit - 1) maxInt with hfits | hover
  · refine iff_of_true ?_ hfits
    have hpages : 0 ≤ (count + limit - 1) / limit := Int.ediv_nonneg (by omega) (by omega)
    rw [wrapInt_of_le (by omega) hfits, Int.tdiv_eq_ediv_of_nonneg (by omega),
      covers_iff hlimit hpages]
    have hsucc : (count + limit - 1) / limit = (count - 1) / limit + 1 := by
      rw [show count + limit - 1 = count - 1 + limit by ring,
        Int.add_ediv_of_dvd_right (Int.dvd_refl limit), Int.ediv_self (by omega)]
    have hfull : (count - 1) / limit ≤ maxInt / limit := Int.ediv_le_ediv (by omega) (by omega)
    omega
  · have hneg : wrapInt (count + limit - 1) < 0 := by
      refine wrapInt_neg hover ?_
      unfold maxInt at hcount' hlimit'
      omega
    have hnone : (wrapInt (count + limit - 1)).tdiv limit ≤ 0 := by
      rw [← neg_nonneg, ← Int.neg_tdiv]
      exact Int.tdiv_nonneg (by omega) (by omega)
    exact iff_of_false (not_covers hcount hnone) (by omega)

theorem totalPages_zero (listing : Listing) (limit : ℤ) : listing.totalPages 0 limit = 0 := by
  cases listing <;> simp [Listing.totalPages, responseTotalPages, calculateTotalPages]

theorem pagesCover_iff (listing : Listing) {count : ℤ} (hcount : 0 ≤ count)
    (hcount' : count ≤ maxInt) (hlimit : 1 ≤ limit) (hlimit' : limit ≤ maxInt) :
    (count ≤ (listing.totalPages count limit).toNat * limit ∧
      ((listing.totalPages count limit).toNat - 1 : ℤ) * limit ≤ maxInt) ↔
      PagesCover listing count limit := by
  rcases hcount.eq_or_lt with rfl | hpos
  · rw [totalPages_zero]
    have hlow : (0 : ℤ) ≤ maxInt := by decide
    refine iff_of_true (by simp; omega) ?_
    cases listing
    · exact .inl (by norm_num)
    · show 0 + limit - 1 ≤ maxInt
      omega
  · cases listing with
    | admin =>
      refine (responseTotalPages_covers_iff hpos hlimit).trans ⟨.inr, ?_⟩
      rintro (hsmall | hround)
      · exact wellRounded_of_le hpos hsmall hlimit
      · exact hround
    | monitorLogs => exact calculateTotalPages_covers_iff hpos hcount' hlimit hlimit'

/-- The pages partition the collection, and a page is its part of it, exactly when the
announced pages cover it and the skip of the page fits. -/
theorem paginates_iff (listing : Listing) (c : SortedCollection α β)
    (hsorted : Arranged c.key c.items sorted)
    (horder : ∀ page, Arranged c.key c.items (order page)) {pageQuery limitQuery : String}
    (hparams : parsePaginationParams listing.config pageQuery limitQuery = .ok (page, limit)) :
    Paginates listing c order sorted page limit ↔
      PagesCover listing c.count limit ∧ SkipFits c.count page limit := by
  obtain ⟨⟨hpage, -⟩, hlimit, hlimit'⟩ := parsePaginationParams_bounds hparams
  have hsame : ∀ page, order page = sorted := fun page =>
    (horder page).unique c.distinct hsorted
  have hcount : 0 ≤ c.count := Int.natCast_nonneg _
  rw [← pagesCover_iff listing hcount c.counted hlimit hlimit',
    ← partition_iff hsorted hlimit hlimit', ← window_iff_skipFits listing hsorted hpage hlimit]
  constructor
  · intro h
    refine ⟨?_, ?_, h.skip⟩
    · simpa only [hsame] using h.partition
    · simpa only [hsame] using h.window
  · rintro ⟨hpartition, hwindow, hskip⟩
    exact ⟨by simpa only [hsame] using hpartition, by simpa only [hsame] using hwindow, hskip⟩

def threeItems : SortedCollection ℕ ℕ where
  items := [10, 30, 20]
  key := id
  distinct := by decide
  counted := by decide

theorem arranged_threeItems : Arranged threeItems.key threeItems.items [30, 20, 10] :=
  ⟨by decide, by decide⟩

theorem paginates_iff_secondPage :
    Paginates .admin threeItems (fun _ => [30, 20, 10]) [30, 20, 10] 2 2 ↔
      PagesCover .admin threeItems.count 2 ∧ SkipFits threeItems.count 2 2 :=
  paginates_iff .admin threeItems arranged_threeItems (fun _ => arranged_threeItems)
    (show parsePaginationParams Listing.admin.config "2" "2" = .ok (2, 2) by rfl)

theorem skip_overflows :
    parsePaginationParams defaultPaginationConfig "3" "4611686018427387904" =
      .ok (3, 4611686018427387904) ∧
    Arranged threeItems.key threeItems.items [30, 20, 10] ∧
    ¬ Paginates .admin threeItems (fun _ => [30, 20, 10]) [30, 20, 10] 3 4611686018427387904 := by
  refine ⟨by rfl, arranged_threeItems, fun h => ?_⟩
  exact absurd h.skip (by decide)

end Statora.Pagination
