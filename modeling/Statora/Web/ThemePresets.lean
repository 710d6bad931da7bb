import Statora.Settings.WellFormed
import Statora.Web.MetaTags

/-!
# Theme presets

The server stores the name of a theme, the page knows the files that hold one. A theme
that goes through the form comes back exactly when its file is among those offered.
-/

namespace Statora.Web

def defaultThemePreset : String := "default.css"

def isThemeChar (c : Char) : Bool :=
  ('a' ≤ c && c ≤ 'z') || ('0' ≤ c && c ≤ '9') || c = '-'

def isThemeFile (file : String) : Bool :=
  let name := file.toList.take (file.length - 4)
  file.toList = name ++ ".css".toList && name ≠ [] && name.all isThemeChar

structure ThemePresetSummary where
  key : String
  label : String
  isThemeFile : isThemeFile key = true

section Themes
variable (lower : String → String) (presets : List ThemePresetSummary)

/-- `lower` is `String.prototype.toLowerCase`. -/
def normalizeThemeFileKey (input : String) : String :=
  let trimmed := lower (trimString input)
  if trimmed = "" then defaultThemePreset
  else if ".css".toList <:+ trimmed.toList then trimmed
  else trimmed ++ ".css"

def findPresetByKey (key : String) : Option ThemePresetSummary := presets.find? (·.key = key)

def normalizeThemePresetSelection (requestedPreset : String) : String :=
  let requested := normalizeThemeFileKey lower requestedPreset
  if (findPresetByKey presets requested).isSome then requested
  else if (findPresetByKey presets defaultThemePreset).isSome then defaultThemePreset
  else
    match presets.head? with
    | some preset => if preset.key = "" then defaultThemePreset else preset.key
    | none => defaultThemePreset

end Themes

section Saved
variable {lower : String → String} {presets : List ThemePresetSummary}

theorem toNat_lt_of_isPresetChar {c : Char} (h : Settings.isPresetChar c = true) :
    c.toNat < 128 := by
  simp only [Settings.isPresetChar, Bool.or_eq_true, Bool.and_eq_true, decide_eq_true_eq] at h
  rcases h with ((⟨-, h⟩ | ⟨-, h⟩) | rfl) | rfl
  · exact lt_of_le_of_lt (UInt32.le_iff_toNat_le.mp h) (by decide)
  · exact lt_of_le_of_lt (UInt32.le_iff_toNat_le.mp h) (by decide)
  · decide
  · decide

theorem plain_of_isPresetChar {c : Char} (h : Settings.isPresetChar c = true) :
    c ≠ '.' ∧ isSpace c = false ∧ isWhiteSpace c = false := by
  have hascii : ∀ n < 128, Settings.isPresetChar (Char.ofNat n) = true → Char.ofNat n ≠ '.' ∧
      isSpace (Char.ofNat n) = false ∧ isWhiteSpace (Char.ofNat n) = false := by decide
  have hc := hascii c.toNat (toNat_lt_of_isPresetChar h)
  rw [Char.ofNat_toNat] at hc
  exact hc h

theorem toLower_of_isPresetChar {c : Char} (h : Settings.isPresetChar c = true) : toLower c = c :=
  toLower_of_class (p := Settings.isPresetChar) (by decide) (by decide) (by decide) h

theorem lowered_of_forall {s : String} (h : ∀ c ∈ s.toList, toLower c = c) :
    Settings.lowered s = s := by
  rw [Settings.lowered, List.map_congr_left h, List.map_id', String.ofList_toList]

theorem presetName_css {name : String} (h : Settings.PresetName name) :
    Settings.normalizeThemePreset (name ++ ".css") = name := by
  have hchars : ∀ c ∈ (name ++ ".css").toList, toLower c = c ∧ isSpace c = false := by
    rw [String.toList_append]
    intro c hc
    rcases List.mem_append.mp hc with hc | hc
    · exact ⟨toLower_of_isPresetChar (h c hc), (plain_of_isPresetChar (h c hc)).2.1⟩
    · have hlast : ".css".toList.all fun c => toLower c = c && isSpace c = false := by decide
      simpa using List.all_eq_true.mp hlast c hc
  have hsuffix : ".css".toList <:+ (name ++ ".css").toList := by
    rw [String.toList_append]
    exact List.suffix_append _ _
  rw [Settings.normalizeThemePreset, lowered_of_forall fun c hc => (hchars c hc).1,
    trimSpace_eq_trim, Library.trim_of_forall fun c hc => (hchars c hc).2, String.ofList_toList,
    Settings.trimSuffix, if_pos hsuffix]
  have hlength : (name ++ ".css").length - ".css".length = name.toList.length := by
    rw [String.length_append, String.length_toList]
    exact Nat.add_sub_cancel _ _
  rw [hlength, String.toList_append, List.take_left, String.ofList_toList]

theorem isPresetChar_of_isThemeChar {c : Char} (h : isThemeChar c = true) :
    Settings.isPresetChar c = true := by
  rw [Settings.isPresetChar, ← isThemeChar, h, Bool.true_or]

theorem exists_name_of_isThemeFile {file : String} (h : isThemeFile file = true) :
    ∃ name : String, name ≠ "" ∧ Settings.PresetName name ∧ file = name ++ ".css" := by
  unfold isThemeFile at h
  simp only [Bool.and_eq_true, decide_eq_true_eq, List.all_eq_true] at h
  obtain ⟨⟨hfile, hne⟩, hchars⟩ := h
  refine ⟨String.ofList (file.toList.take (file.length - 4)), by simpa using hne, ?_, ?_⟩
  · intro c hc
    rw [String.toList_ofList] at hc
    exact isPresetChar_of_isThemeChar (hchars c hc)
  · rw [← String.toList_inj, String.toList_append, String.toList_ofList]
    exact hfile

def FixesPresets (lower : String → String) : Prop :=
  ∀ name, Settings.PresetName name → lower name = name

theorem normalizeThemeFileKey_eq (hlower : FixesPresets lower) {preset : String}
    (h : Settings.PresetName preset) : normalizeThemeFileKey lower preset =
      if preset = "" then defaultThemePreset else preset ++ ".css" := by
  have htrim : trimString preset = preset := by
    rw [trimString, Library.trim_of_forall fun c hc => (plain_of_isPresetChar (h c hc)).2.2,
      String.ofList_toList]
  have hsuffix : ¬ ".css".toList <:+ preset.toList := by
    intro hsuffix
    exact (plain_of_isPresetChar (h '.' (hsuffix.subset (by decide)))).1 rfl
  rw [normalizeThemeFileKey, htrim, hlower preset h, if_neg hsuffix]

/-- What the server stores for the theme that the form selects. -/
def savedPreset (lower : String → String) (presets : List ThemePresetSummary) (preset : String) :
    String :=
  Settings.normalizeThemePreset (normalizeThemePresetSelection lower presets preset)

/-- The theme is offered, or none is and it is the default. -/
def Offers (presets : List ThemePresetSummary) (preset : String) : Prop :=
  (∃ p ∈ presets, p.key = preset ++ ".css") ∨ presets = [] ∧ preset = "default"

theorem findPresetByKey_isSome {key : String} :
    (findPresetByKey presets key).isSome = true ↔ ∃ p ∈ presets, p.key = key := by
  rw [findPresetByKey, List.find?_isSome]
  simp

theorem append_css_inj {name name' : String} :
    name ++ ".css" = name' ++ ".css" ↔ name = name' := by
  rw [← String.toList_inj, ← String.toList_inj, String.toList_append, String.toList_append]
  exact List.append_left_inj _

theorem exists_name_of_selection (lower : String → String) (presets : List ThemePresetSummary)
    (preset : String) : ∃ name : String, name ≠ "" ∧ Settings.PresetName name ∧
      normalizeThemePresetSelection lower presets preset = name ++ ".css" := by
  have hdefault : ∃ name : String, name ≠ "" ∧ Settings.PresetName name ∧
      defaultThemePreset = name ++ ".css" := exists_name_of_isThemeFile (by decide)
  unfold normalizeThemePresetSelection
  dsimp only
  split_ifs with hrequested
  · obtain ⟨p, -, hkey⟩ := findPresetByKey_isSome.mp hrequested
    rw [← hkey]
    exact exists_name_of_isThemeFile p.isThemeFile
  · exact hdefault
  · cases presets.head? with
    | none => exact hdefault
    | some p =>
      dsimp only
      split_ifs
      · exact hdefault
      · exact exists_name_of_isThemeFile p.isThemeFile

theorem isValidThemePreset_savedPreset (preset : String) :
    Settings.isValidThemePreset (savedPreset lower presets preset) = true := by
  obtain ⟨name, hne, hname, hselected⟩ := exists_name_of_selection lower presets preset
  rw [savedPreset, hselected, presetName_css hname, Settings.isValidThemePreset]
  simp [hne, List.all_eq_true.mpr hname]

theorem selection_eq_iff (hlower : FixesPresets lower) {preset : String}
    (h : Settings.PresetName preset) (hne : preset ≠ "") :
    normalizeThemePresetSelection lower presets preset = preset ++ ".css" ↔
      Offers presets preset := by
  have hkey : normalizeThemeFileKey lower preset = preset ++ ".css" := by
    rw [normalizeThemeFileKey_eq hlower h, if_neg hne]
  have hdefault : defaultThemePreset = "default" ++ ".css" := by decide
  unfold normalizeThemePresetSelection
  rw [hkey]
  dsimp only
  by_cases hoffered : ∃ p ∈ presets, p.key = preset ++ ".css"
  · rw [if_pos (findPresetByKey_isSome.mpr hoffered)]
    exact iff_of_true rfl (Or.inl hoffered)
  · rw [if_neg (findPresetByKey_isSome.not.mpr hoffered), Offers, or_iff_right hoffered]
    split_ifs with hfallback
    · obtain ⟨p, hp, hpkey⟩ := findPresetByKey_isSome.mp hfallback
      refine iff_of_false (fun heq => hoffered ⟨p, hp, hpkey.trans heq⟩) fun hempty => ?_
      rw [hempty.1] at hp
      cases hp
    · cases presets with
      | nil =>
        rw [List.head?_nil]
        dsimp only
        rw [hdefault, append_css_inj, and_iff_right rfl]
        exact eq_comm
      | cons p presets =>
        have hpkey : p.key ≠ "" := by
          obtain ⟨name, -, -, hname⟩ := exists_name_of_isThemeFile p.isThemeFile
          rw [hname]
          exact fun hempty => absurd (congrArg String.toList hempty) (by simp)
        rw [List.head?_cons]
        dsimp only
        rw [if_neg hpkey]
        exact iff_of_false (fun heq => hoffered ⟨p, List.mem_cons_self, heq⟩) fun hempty => by
          cases hempty.1

theorem savedPreset_eq_iff (hlower : FixesPresets lower) {preset : String}
    (h : Settings.PresetName preset) :
    savedPreset lower presets preset = preset ↔ Offers presets preset := by
  obtain ⟨name, hne, hname, hselected⟩ := exists_name_of_selection lower presets preset
  rw [savedPreset, hselected, presetName_css hname]
  by_cases hempty : preset = ""
  · subst hempty
    refine iff_of_false hne ?_
    rintro (⟨p, -, hkey⟩ | ⟨-, hdefault⟩)
    · have hfile := p.isThemeFile
      rw [hkey] at hfile
      exact absurd hfile (by decide)
    · exact absurd hdefault (by decide)
  · rw [← selection_eq_iff hlower h hempty, hselected, append_css_inj]

theorem fixesPresets_lowered : FixesPresets Settings.lowered := fun _ hname =>
  lowered_of_forall fun c hc => toLower_of_isPresetChar (hname c hc)

end Saved
end Statora.Web
