import Statora.Monitors.Thresholds

/-!
# Accepted monitors

What the worker relies on in a stored monitor. A target of 24 zeros passes for
one that is named and leaves the monitor without a target, and an interval or a
timeout is replaced by its default only when it is zero.
-/

namespace Statora.Monitors

structure WellFormed (monitor : Monitor) : Prop where
  oneTarget : (monitor.componentID ≠ NilObjectID ∧ monitor.subComponentID = NilObjectID) ∨
    (monitor.componentID = NilObjectID ∧ monitor.subComponentID ≠ NilObjectID)
  interval : 0 < monitor.intervalSeconds
  timeout : 0 < monitor.timeoutSeconds
  thresholds : monitor.sslThresholds ≠ []
  descending : monitor.sslThresholds.Pairwise (· > ·)
  positive : ∀ t ∈ monitor.sslThresholds, 0 < t

def NamesID (text : String) : Prop := text ≠ "" ∧ text ≠ zeroHex

instance (text : String) : Decidable (NamesID text) := inferInstanceAs (Decidable (_ ∧ _))

theorem char_le_iff {a b : Char} : a ≤ b ↔ a.toNat ≤ b.toNat := Char.le_def

theorem hexDigit_spec {c : Char} {digit : ℕ} (h : hexDigit c = some digit) :
    digit < 16 ∧ (digit = 0 → c = '0') := by
  unfold hexDigit at h
  simp only [Bool.and_eq_true, decide_eq_true_eq, char_le_iff, Char.reduceToNat] at h
  split_ifs at h with hdecimal hlower hupper
  · have hdigit := Option.some.inj h
    have hzero : '0'.toNat = 48 := rfl
    exact ⟨by omega, fun hdigit' => Char.toNat_inj.mp (by omega)⟩
  · have hdigit := Option.some.inj h
    omega
  · have hdigit := Option.some.inj h
    omega

theorem mapM_hexDigit_spec {cs : List Char} {digits : List ℕ}
    (h : cs.mapM hexDigit = some digits) : digits.length = cs.length ∧
      (∀ digit ∈ digits, digit < 16) ∧
      ((∀ digit ∈ digits, digit = 0) → cs = List.replicate cs.length '0') := by
  induction cs generalizing digits with
  | nil =>
    cases h
    simp
  | cons c cs ih =>
    rw [List.mapM_cons] at h
    obtain ⟨digit, hdigit, h⟩ := Option.bind_eq_some_iff.mp h
    obtain ⟨rest, hrest, h⟩ := Option.bind_eq_some_iff.mp h
    cases h
    obtain ⟨hlength, hlt, hzero⟩ := ih hrest
    obtain ⟨hdigit, hc⟩ := hexDigit_spec hdigit
    refine ⟨by simp [hlength], List.forall_mem_cons.mpr ⟨hdigit, hlt⟩, fun hall => ?_⟩
    obtain ⟨hfirst, hothers⟩ := List.forall_mem_cons.mp hall
    rw [hc hfirst, List.length_cons, List.replicate_succ]
    exact congrArg _ (hzero hothers)

theorem objectIDFromHex_ne_nil {text : String} {id : ObjectID} (htext : text ≠ zeroHex)
    (h : objectIDFromHex text = some id) : id ≠ NilObjectID := by
  rintro rfl
  unfold objectIDFromHex at h
  split_ifs at h with hlength
  rw [not_not] at hlength
  obtain ⟨digits, hdigits, hvalue⟩ := Option.map_eq_some_iff.mp h
  obtain ⟨hcount, hlt, hzero⟩ := mapM_hexDigit_spec hdigits
  rw [Library.foldl_eq_numberOf] at hvalue
  have hbound : Library.numberOf 16 digits < 2 ^ 96 := by
    have hbound := Library.numberOf_lt (by decide) hlt
    rwa [hcount, hlength] at hbound
  have hnat := congrArg BitVec.toNat hvalue
  rw [BitVec.toNat_ofNat, Nat.mod_eq_of_lt hbound] at hnat
  have hdigits := Library.eq_replicate_of_numberOf_eq_zero (by decide) hlt hnat
  have hchars := hzero (List.eq_replicate_length.mp hdigits)
  rw [hlength] at hchars
  exact htext (String.toList_injective hchars)

theorem targetIDs_of_names {input : MonitorUpsertInput} {ids : ObjectID × ObjectID}
    (h : targetIDs input = .ok ids) :
    ((ids.1 ≠ NilObjectID ∧ ids.2 = NilObjectID) ∨ (ids.1 = NilObjectID ∧ ids.2 ≠ NilObjectID)) ↔
      NamesID input.subComponentID ∨ NamesID input.componentID := by
  unfold targetIDs at h
  simp only [Bool.and_eq_true, decide_eq_true_eq] at h
  split_ifs at h with hsub hcomp
  · cases hid : objectIDFromHex input.subComponentID with
    | none => simp [hid] at h
    | some oid =>
      rw [hid] at h
      cases h
      simp [objectIDFromHex_ne_nil hsub.2 hid, NamesID, hsub]
  · cases hid : objectIDFromHex input.componentID with
    | none => simp [hid] at h
    | some oid =>
      rw [hid] at h
      cases h
      simp [objectIDFromHex_ne_nil hcomp.2 hid, NamesID, hcomp]
  · cases h
    simp only [NamesID, hsub, hcomp, or_self]
    simp

theorem buildMonitor_eq_ok {net : Addresses} {input : MonitorUpsertInput} {rt : Runtime}
    {monitor : Monitor} (h : buildMonitor net input rt = .ok monitor) :
    targetIDs input = .ok (monitor.componentID, monitor.subComponentID) ∧
      monitor.intervalSeconds = (if input.intervalSeconds = 0 then 60 else input.intervalSeconds) ∧
      monitor.timeoutSeconds = (if input.timeoutSeconds = 0 then 30 else input.timeoutSeconds) ∧
      monitor.sslThresholds = sanitizeSSLThresholds input.sslThresholds := by
  unfold buildMonitor at h
  dsimp only [Bind.bind, Except.bind, throw, throwThe, MonadExceptOf.throw, Pure.pure,
    Except.pure] at h
  by_cases hunnamed : (decide (input.componentID = "") && decide (input.subComponentID = "")) = true
  · rw [if_pos hunnamed] at h
    cases h
  rw [if_neg hunnamed] at h
  cases hadvanced : validateAdvancedOptions net input.type input.target input.advanced with
  | error message => simp [hadvanced] at h
  | ok _ =>
    cases htarget : targetIDs input with
    | error message => simp [hadvanced, htarget] at h
    | ok ids =>
      simp only [hadvanced, htarget] at h
      cases h
      exact ⟨rfl, rfl, rfl, rfl⟩

/-- A monitor that is accepted is well formed exactly when the input names a target that
is not 24 zeros, and gives no negative interval or timeout. -/
theorem buildMonitor_wellFormed_iff (net : Addresses) (input : MonitorUpsertInput) (rt : Runtime)
    (monitor : Monitor) (h : buildMonitor net input rt = .ok monitor) :
    WellFormed monitor ↔ (NamesID input.subComponentID ∨ NamesID input.componentID) ∧
      0 ≤ input.intervalSeconds ∧ 0 ≤ input.timeoutSeconds := by
  obtain ⟨htarget, hinterval, htimeout, hthresholds⟩ := buildMonitor_eq_ok h
  have hnames := targetIDs_of_names htarget
  constructor
  · intro hwell
    have hpos := hwell.interval
    have hpos' := hwell.timeout
    rw [hinterval] at hpos
    rw [htimeout] at hpos'
    exact ⟨hnames.mp hwell.oneTarget, by split_ifs at hpos <;> omega,
      by split_ifs at hpos' <;> omega⟩
  · rintro ⟨hnamed, hpos, hpos'⟩
    refine ⟨hnames.mpr hnamed, ?_, ?_, ?_, ?_, ?_⟩
    · rw [hinterval]
      split_ifs <;> omega
    · rw [htimeout]
      split_ifs <;> omega
    · rw [hthresholds]
      exact sanitizeSSLThresholds_ne_nil _
    · rw [hthresholds]
      exact sanitizeSSLThresholds_descending _
    · rw [hthresholds]
      exact fun t => pos_of_mem_sanitizeSSLThresholds

def quietRuntime : Runtime := ⟨fun _ => 0, fun _ => 1⟩
def quietAddresses : Addresses := ⟨fun _ => .error "", fun _ => false, fun _ => none⟩

def tcpMonitor (componentID : ObjectID) (intervalSeconds : ℤ) : Monitor :=
  { id := 1, name := "db", type := .tcp, target := "db:5432", sslThresholds := [30, 14, 7],
    intervalSeconds := intervalSeconds, componentID := componentID }

theorem buildMonitor_wellFormed_iff_tcp :
    WellFormed (tcpMonitor 255 60) ↔
      (NamesID "" ∨ NamesID "0000000000000000000000ff") ∧ (0 : ℤ) ≤ 0 ∧ (0 : ℤ) ≤ 0 :=
  buildMonitor_wellFormed_iff quietAddresses
    { name := "db", type := .tcp, target := "db:5432", componentID := "0000000000000000000000ff" }
    quietRuntime (tcpMonitor 255 60) (by decide +kernel)

theorem buildMonitor_nilTarget :
    buildMonitor quietAddresses
        { name := "db", type := .tcp, target := "db:5432", componentID := zeroHex } quietRuntime =
      .ok (tcpMonitor NilObjectID 60) ∧ ¬ WellFormed (tcpMonitor NilObjectID 60) := by
  refine ⟨by decide +kernel, fun h => ?_⟩
  rcases h.oneTarget with hset | hset
  · exact hset.1 rfl
  · exact hset.2 rfl

end Statora.Monitors
