import Statora.Content.Formats
import Statora.Web.ContentModel

/-!
# When server and client extract the same text

Both visit the same nodes in the same order. They part where a node is null, where the
content is no list but has a length, and where the text begins or ends in one of the two
characters that only one language takes for white space.
-/

namespace Statora.Web
open Library (Neither trim_eq_trim_iff)
open Incidents (derivePlainText)

theorem isWhiteSpace_eq {c : Char} (hnext : c ≠ '\u0085') (hmark : c ≠ '\uFEFF') :
    isWhiteSpace c = isSpace c := by
  simp [isWhiteSpace, isSpace, hnext, hmark]

/-- Only the next line and the byte order mark are white space in one language alone. -/
theorem neither_iff {c : Char} (h : (isWhiteSpace c && isSpace c) = false) :
    Neither isWhiteSpace isSpace c ↔ c ≠ '\u0085' ∧ c ≠ '\uFEFF' := by
  constructor
  · rintro ⟨hclient, hserver⟩
    refine ⟨?_, ?_⟩
    · rintro rfl
      exact absurd hserver (by decide)
    · rintro rfl
      exact absurd hclient (by decide)
  · rintro ⟨hnext, hmark⟩
    rw [isWhiteSpace_eq hnext hmark, Bool.and_self] at h
    exact ⟨by rw [isWhiteSpace_eq hnext hmark, h], h⟩

def firstVisible (cs : List Char) : Option Char :=
  cs.find? fun c => !(isWhiteSpace c && isSpace c)

def PlainEnds (cs : List Char) : Prop :=
  (∀ c ∈ firstVisible cs, c ≠ '\u0085' ∧ c ≠ '\uFEFF') ∧
    ∀ c ∈ firstVisible cs.reverse, c ≠ '\u0085' ∧ c ≠ '\uFEFF'

theorem neither_firstVisible_iff (cs : List Char) :
    (∀ c ∈ firstVisible cs, Neither isWhiteSpace isSpace c) ↔
      ∀ c ∈ firstVisible cs, c ≠ '\u0085' ∧ c ≠ '\uFEFF' := by
  refine forall_congr' fun c => imp_congr_right fun hc => neither_iff ?_
  have hvisible := List.find?_some hc
  rwa [Bool.not_eq_true'] at hvisible

theorem trimString_eq_trimSpace_iff (s : String) :
    trimString s = trimSpace s ↔ PlainEnds s.toList := by
  unfold trimString
  rw [trimSpace_eq_trim, String.ofList_inj, trim_eq_trim_iff]
  exact and_congr (neither_firstVisible_iff _) (neither_firstVisible_iff _)

def documentNodes (document : RichTextDocument) : List JSONValue := below (document.getD [])

def lines (document : RichTextDocument) : String :=
  "\n".intercalate (texts (documentNodes document))

theorem derivePlainText_eq (document : RichTextDocument) :
    derivePlainText document = trimSpace (lines document) := by
  rw [derivePlainText, flattenContent_eq]
  rfl

def ContentReadable (document : RichTextDocument) : Prop :=
  ∀ content ∈ document.bind (·.lookup "content"),
    (∃ items, content = .array items) ∨ (lengthOf content).any truthy = false

/-- What server and client read alike. -/
structure ReadAlike (document : RichTextDocument) : Prop where
  content : ContentReadable document
  nodes : ∀ node ∈ documentNodes document, isNull node = false
  ends : PlainEnds (lines document).toList

theorem below_eq (fields : List (String × JSONValue)) :
    below fields = (fields.lookup "content").elim [] listed := by
  induction fields with
  | nil => rfl
  | cons field fields ih =>
    obtain ⟨name, value⟩ := field
    rw [below, List.lookup_cons]
    by_cases hname : name = "content"
    · simp [hname]
    · have hother : ("content" == name) = false := by simpa using fun h => hname h.symm
      rw [if_neg hname, hother, ih]

theorem documentNodes_eq (document : RichTextDocument) :
    documentNodes document = (document.bind (·.lookup "content")).elim [] listed := by
  cases document with
  | none => rfl
  | some fields => exact below_eq fields

theorem readAlike_iff_of_no_nodes {document : RichTextDocument} (h : documentNodes document = []) :
    ReadAlike document ↔ ContentReadable document := by
  have hlines : lines document = "" := by
    rw [lines, h]
    rfl
  refine ⟨fun halike => halike.content, fun hcontent => ⟨hcontent, by simp [h], ?_⟩⟩
  rw [hlines]
  exact (trimString_eq_trimSpace_iff "").mp (by decide)

theorem getPlainText_array {document : RichTextDocument} {items : List JSONValue}
    (h : document.bind (·.lookup "content") = some (.array items)) :
    getPlainTextFromRichText document =
      (readTexts (documentNodes document)).map fun parts =>
        trimString ("\n".intercalate parts) := by
  rw [documentNodes_eq, getPlainTextFromRichText, h]
  dsimp only [Option.elim, listed]
  cases items with
  | nil => decide
  | cons item items =>
    have hlength : (lengthOf (.array (item :: items))).any truthy = true := by
      have hlong : ((item :: items).length : ℚ) ≠ 0 := by
        rw [Nat.cast_ne_zero]
        exact Nat.succ_ne_zero _
      exact decide_eq_true hlong
    rw [hlength, extractText_eq]
    cases readTexts (forest (item :: items)) <;> rfl

theorem getPlainText_of_not_array {document : RichTextDocument} {content : JSONValue}
    (h : document.bind (·.lookup "content") = some content)
    (harray : ¬ ∃ items, content = .array items) :
    getPlainTextFromRichText document =
      if (lengthOf content).any truthy then .error (.notFunction "flatMap") else .ok "" := by
  rw [getPlainTextFromRichText, h]
  dsimp only
  cases (lengthOf content).any truthy with
  | false => rfl
  | true =>
    cases content with
    | array items => exact absurd ⟨items, rfl⟩ harray
    | null | bool value | number value | string text | object fields => rfl

theorem map_readTexts_eq_ok_iff (nodes : List JSONValue) (f : List String → String)
    (text : String) : (readTexts nodes).map f = .ok text ↔
      (∀ node ∈ nodes, isNull node = false) ∧ f (texts nodes) = text := by
  unfold readTexts
  cases hnull : nodes.any isNull with
  | true =>
    obtain ⟨node, hmem, hnode⟩ := List.any_eq_true.mp hnull
    refine iff_of_false (fun h => by cases h) fun ⟨hall, _⟩ => ?_
    rw [hall node hmem] at hnode
    cases hnode
  | false =>
    have hall : ∀ node ∈ nodes, isNull node = false := by simpa using hnull
    rw [and_iff_right hall]
    exact ⟨Except.ok.inj, congrArg Except.ok⟩

theorem getPlainText_eq_derivePlainText_iff (document : RichTextDocument) :
    getPlainTextFromRichText document = .ok (derivePlainText document) ↔ ReadAlike document := by
  rw [derivePlainText_eq]
  cases hcontent : document.bind (·.lookup "content") with
  | none =>
    have hnodes : documentNodes document = [] := by
      rw [documentNodes_eq, hcontent]
      rfl
    rw [readAlike_iff_of_no_nodes hnodes, lines, hnodes, getPlainTextFromRichText, hcontent]
    exact iff_of_true (by decide) fun content hmem => by cases hcontent.symm.trans hmem
  | some content =>
    have hreadable : ContentReadable document ↔
        (∃ items, content = .array items) ∨ (lengthOf content).any truthy = false := by
      rw [ContentReadable, hcontent]
      simp
    by_cases harray : ∃ items, content = .array items
    · obtain ⟨items, rfl⟩ := harray
      rw [getPlainText_array hcontent, map_readTexts_eq_ok_iff]
      constructor
      · rintro ⟨hnodes, htext⟩
        exact ⟨hreadable.mpr (Or.inl ⟨items, rfl⟩), hnodes,
          (trimString_eq_trimSpace_iff (lines document)).mp htext⟩
      · intro halike
        exact ⟨halike.nodes, (trimString_eq_trimSpace_iff (lines document)).mpr halike.ends⟩
    · have hnodes : documentNodes document = [] := by
        rw [documentNodes_eq, hcontent]
        cases content with
        | array items => exact absurd ⟨items, rfl⟩ harray
        | null | bool value | number value | string text | object fields => rfl
      have htext : trimSpace (lines document) = "" := by
        rw [lines, hnodes]
        decide
      rw [readAlike_iff_of_no_nodes hnodes, hreadable, or_iff_right harray, htext,
        getPlainText_of_not_array hcontent harray]
      cases (lengthOf content).any truthy <;> simp

def nullParagraph : RichTextDocument :=
  some [("type", .string "doc"), ("content", .array [.null])]

theorem nullParagraph_throws :
    derivePlainText nullParagraph = "" ∧
      getPlainTextFromRichText nullParagraph = .error (.nullProperty "text") := by
  decide

theorem getIncidentContent_of_inStep {description : String} {document : RichTextDocument}
    (hstep : Content.InStep description document) (halike : ReadAlike document) :
    getIncidentContent description document = .ok ⟨description, document⟩ := by
  have hcontent : getIncidentContent description document = .ok
      ⟨if derivePlainText document ≠ "" then derivePlainText document else description,
        document⟩ := by
    rw [getIncidentContent, (getPlainText_eq_derivePlainText_iff document).mpr halike]
    rfl
  rw [hcontent]
  split_ifs with htext
  · rw [hstep htext]
  · rfl

end Statora.Web
