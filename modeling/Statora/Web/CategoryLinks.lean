import Statora.Status.CategorySlugs
import Statora.Web.ContentModel

/-!
# Links to the category pages

The status page of the browser makes the slug of a category by itself. The server looks
the category up by its own slug.
-/

namespace Statora.Web
open Library (trim replaceRuns joined)
open Status (isSlugChar isSlugSeparator LowerCasing normalizeCategoryPrefixWith
  findCategoryComponentWith slugWords)
variable {lower : Char → Char}

def toCategoryPrefix (lower : Char → Char) (name : String) : String :=
  let text := trimString (String.ofList (name.toList.map lower))
  let hyphenated := replaceRuns (fun c => !isSlugChar c) '-' false text.toList
  String.ofList (trim (fun c => decide (c = '-')) hyphenated)

theorem isSlugSeparator_of_isWhiteSpace {c : Char} (hc : isWhiteSpace c = true) :
    isSlugSeparator c = true := by
  by_cases hmark : c = '\uFEFF'
  · subst hmark
    decide
  · refine Status.isSlugSeparator_of_isSpace ?_
    unfold isWhiteSpace at hc
    unfold isSpace
    grind

theorem toCategoryPrefix_eq (lower : Char → Char) (name : String) :
    toCategoryPrefix lower name = String.ofList (['-'].intercalate (slugWords lower name)) := by
  unfold toCategoryPrefix trimString
  simp only [String.toList_ofList]
  refine congrArg String.ofList ?_
  rw [Library.trim_replaceRuns (by decide)]
  exact congrArg _ (Library.fields_trim (fun c => isSlugSeparator_of_isWhiteSpace) _)

theorem category_links_resolve (h : LowerCasing lower) :
    (∀ name, toCategoryPrefix lower name = normalizeCategoryPrefixWith lower name) ∧
    (∀ name, normalizeCategoryPrefixWith lower name = "" ∨
      (normalizeCategoryPrefixWith lower name).toList ∈ joined isSlugSeparator '-') ∧
    (∀ name, normalizeCategoryPrefixWith lower (normalizeCategoryPrefixWith lower name) =
      normalizeCategoryPrefixWith lower name) ∧
    ∀ (components : List Component) (c : Component), c ∈ components →
      normalizeCategoryPrefixWith lower c.name ≠ "" →
      (∀ d ∈ components, normalizeCategoryPrefixWith lower d.name =
        normalizeCategoryPrefixWith lower c.name → d = c) →
      findCategoryComponentWith lower components (toCategoryPrefix lower c.name) = some c := by
  have hsame : ∀ name, toCategoryPrefix lower name = normalizeCategoryPrefixWith lower name :=
    fun name => (toCategoryPrefix_eq lower name).trans
      (h.normalizeCategoryPrefixWith_eq name).symm
  refine ⟨hsame, h.normalize_grammar, h.normalize_normalize, ?_⟩
  intro components c hc hne hunique
  have hslug : normalizeCategoryPrefixWith lower (toCategoryPrefix lower c.name) =
      normalizeCategoryPrefixWith lower c.name := by
    rw [hsame, h.normalize_normalize]
  exact Status.findCategoryComponentWith_of_unique hc hslug hne hunique

theorem link_of_api_docs :
    toCategoryPrefix toLower " API & Docs" = normalizeCategoryPrefixWith toLower " API & Docs" ∧
      findCategoryComponentWith toLower
        [{ id := 1, name := "API & Docs (beta)", status := .operational },
          { id := 2, name := " API & Docs", status := .operational }]
        (toCategoryPrefix toLower " API & Docs") =
          some { id := 2, name := " API & Docs", status := .operational } :=
  ⟨(category_links_resolve Status.lowerCasing_toLower).1 " API & Docs",
    (category_links_resolve Status.lowerCasing_toLower).2.2.2
      [{ id := 1, name := "API & Docs (beta)", status := .operational },
        { id := 2, name := " API & Docs", status := .operational }]
      { id := 2, name := " API & Docs", status := .operational } (by decide)
      (by decide +kernel) (by decide +kernel)⟩

end Statora.Web
