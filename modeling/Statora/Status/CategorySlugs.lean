import Statora.Library.Fields
import Statora.Status.ReadModels

/-!
# The slugs of categories

`lower` stands for the lower case of a character. A slug is the words of the lowered
text with a hyphen between them.
-/

namespace Statora.Status
open Library (fields IsWord joined trim)
variable {lower : Char → Char}

def isSlugSeparator (c : Char) : Bool := !isSlugChar c

/-- What the services use of a lower case. White space has none. -/
structure LowerCasing (lower : Char → Char) : Prop where
  idempotent : ∀ c, lower (lower c) = lower c
  slugChar : ∀ c, isSlugChar c = true → lower c = c
  hyphen : lower '-' = '-'
  space : ∀ c, isSpace c = true → lower c = c

theorem lowerCasing_toLower : LowerCasing toLower where
  idempotent := toLower_toLower
  slugChar c hc := toLower_of_class (by decide) (by decide) (by decide) hc
  hyphen := by decide
  space c hc := toLower_of_class (by decide) (by decide) (by decide) hc

/-- `normalizeCategoryPrefix` over a given lower case. -/
def normalizeCategoryPrefixWith (lower : Char → Char) (v : String) : String :=
  let v := String.ofList ((trimSpace v).toList.map lower)
  if v = "" then ""
  else
    let parts := fieldsFunc (fun c => !isSlugChar c) v.toList
    if parts.length = 0 then "" else "-".intercalate (parts.map String.ofList)

def componentPrefixWith (lower : Char → Char) (name : String) : String :=
  normalizeCategoryPrefixWith lower name

def findCategoryComponentWith (lower : Char → Char) (components : List Component)
    (categoryPrefix : String) : Option Component :=
  let normalizedPrefix := normalizeCategoryPrefixWith lower categoryPrefix
  if normalizedPrefix = "" then none
  else
    (components.find? (fun c => componentPrefixWith lower c.name = normalizedPrefix)).or
      (components.find? fun c =>
        normalizedPrefix.toList.isPrefixOf (componentPrefixWith lower c.name).toList)

theorem normalizeCategoryPrefixWith_toLower :
    normalizeCategoryPrefixWith toLower = normalizeCategoryPrefix := rfl

theorem findCategoryComponentWith_toLower :
    findCategoryComponentWith toLower = findCategoryComponent := rfl

def slugWords (lower : Char → Char) (v : String) : List (List Char) :=
  fields isSlugSeparator (v.toList.map lower)

theorem isWord_of_mem_slugWords (lower : Char → Char) (v : String) :
    ∀ word ∈ slugWords lower v, IsWord isSlugSeparator word :=
  fun _ => Library.isWord_of_mem_fields

theorem intercalate_ofList (parts : List (List Char)) :
    "-".intercalate (parts.map String.ofList) = String.ofList (['-'].intercalate parts) := by
  have hparts : (parts.map String.ofList).map String.toList = parts := by
    rw [List.map_map]
    exact List.map_id'' (fun part => String.toList_ofList) parts
  rw [← String.toList_inj, String.toList_intercalate, hparts]
  exact String.toList_ofList.symm

theorem isSlugSeparator_of_isSpace {c : Char} (hc : isSpace c = true) :
    isSlugSeparator c = true := by
  by_contra hslug
  simp only [isSlugSeparator, isSlugChar, Bool.not_eq_true, Bool.not_eq_false', Bool.or_eq_true,
    Bool.and_eq_true, decide_eq_true_eq, Char.le_def, UInt32.le_iff_toNat_le] at hslug
  simp only [isSpace, Bool.or_eq_true, Bool.and_eq_true, decide_eq_true_eq, Char.le_def,
    UInt32.le_iff_toNat_le, Char.ext_iff, ← UInt32.toNat_inj] at hc
  simp at hc hslug
  omega

theorem LowerCasing.isSlugSeparator_space (h : LowerCasing lower) {c : Char}
    (hc : isSpace c = true) : isSlugSeparator (lower c) = true := by
  rw [h.space c hc]
  exact isSlugSeparator_of_isSpace hc

theorem LowerCasing.normalizeCategoryPrefixWith_eq (h : LowerCasing lower) (v : String) :
    normalizeCategoryPrefixWith lower v =
      String.ofList (['-'].intercalate (slugWords lower v)) := by
  have hwords : fieldsFunc (fun c => !isSlugChar c)
      (String.ofList ((trimSpace v).toList.map lower)).toList = slugWords lower v := by
    rw [String.toList_ofList, trimSpace_eq_trim, String.toList_ofList]
    exact Library.fields_map_trim (fun c => h.isSlugSeparator_space) v.toList
  unfold normalizeCategoryPrefixWith
  simp only [hwords]
  split_ifs with hempty hnone
  · rw [hempty] at hwords
    rw [← hwords]
    rfl
  · rw [List.length_eq_zero_iff.mp hnone]
    rfl
  · exact intercalate_ofList _

theorem LowerCasing.map_lower_slug (h : LowerCasing lower) (v : String) :
    (['-'].intercalate (slugWords lower v)).map lower = ['-'].intercalate (slugWords lower v) := by
  conv_rhs => rw [← List.map_id (['-'].intercalate (slugWords lower v))]
  refine List.map_congr_left fun c hc => ?_
  rcases Library.of_mem_intercalate (isWord_of_mem_slugWords lower v) hc with hslug | hhyphen
  · exact h.slugChar c (by simpa [isSlugSeparator] using hslug)
  · rw [hhyphen, h.hyphen]
    rfl

theorem LowerCasing.normalize_normalize (h : LowerCasing lower) (v : String) :
    normalizeCategoryPrefixWith lower (normalizeCategoryPrefixWith lower v) =
      normalizeCategoryPrefixWith lower v := by
  have hsame : slugWords lower (String.ofList (['-'].intercalate (slugWords lower v))) =
      slugWords lower v := by
    rw [slugWords, String.toList_ofList, h.map_lower_slug]
    exact Library.fields_intercalate (by decide) (isWord_of_mem_slugWords lower v)
  rw [h.normalizeCategoryPrefixWith_eq v, h.normalizeCategoryPrefixWith_eq, hsame]

theorem LowerCasing.normalize_grammar (h : LowerCasing lower) (v : String) :
    normalizeCategoryPrefixWith lower v = "" ∨
      (normalizeCategoryPrefixWith lower v).toList ∈ joined isSlugSeparator '-' := by
  rw [h.normalizeCategoryPrefixWith_eq]
  have hall := isWord_of_mem_slugWords lower v
  cases hwords : slugWords lower v with
  | nil => exact .inl rfl
  | cons word words =>
    rw [hwords, List.forall_mem_cons] at hall
    rw [String.toList_ofList]
    exact .inr (Library.intercalate_mem_joined hall.1 hall.2)

theorem findCategoryComponentWith_of_unique {components : List Component}
    {categoryPrefix : String} {c : Component} (hc : c ∈ components)
    (hslug : normalizeCategoryPrefixWith lower categoryPrefix = componentPrefixWith lower c.name)
    (hne : componentPrefixWith lower c.name ≠ "")
    (hunique : ∀ d ∈ components,
      componentPrefixWith lower d.name = componentPrefixWith lower c.name → d = c) :
    findCategoryComponentWith lower components categoryPrefix = some c := by
  have hfind : components.find? (fun d => componentPrefixWith lower d.name =
      normalizeCategoryPrefixWith lower categoryPrefix) = some c := by
    rw [hslug]
    cases hd : components.find? (fun d => decide (componentPrefixWith lower d.name =
        componentPrefixWith lower c.name)) with
    | none => simpa using List.find?_eq_none.mp hd c hc
    | some d =>
      have hslug' : componentPrefixWith lower d.name = componentPrefixWith lower c.name := by
        simpa using List.find?_some hd
      rw [hunique d (List.mem_of_find?_eq_some hd) hslug']
  rw [findCategoryComponentWith, if_neg (by rwa [hslug]), hfind]
  rfl

end Statora.Status
