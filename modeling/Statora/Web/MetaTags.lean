import Statora.Library.Trim
import Statora.Settings.Model
import Statora.Web.ContentModel

/-!
# The meta tags of the settings form

The form shows the tags as lines that the admin edits, and reads them back from the lines.
What it reads is plain, and the tags come back as they were exactly when they are plain.
-/

namespace Statora.Web
open Library (Collection trim)
open Settings (MetaTag MetaTags)

/-- The names that a JavaScript object lists first, as numbers in ascending order. -/
def arrayIndex (name : String) : Option ℕ :=
  name.toNat?.filter fun n => toString n = name && n < 2 ^ 32 - 1

def objectEntries (tags : MetaTags) : List MetaTag :=
  let sorted := tags.docs.mergeSort fun t t' => t.name ≤ t'.name
  let indexed := sorted.filter fun t => (arrayIndex t.name).isSome
  indexed.mergeSort (fun t t' => (arrayIndex t.name).getD 0 ≤ (arrayIndex t'.name).getD 0) ++
    sorted.filter fun t => !(arrayIndex t.name).isSome

/-- `tags[key] = value`, which leaves the object as it is for the name of its prototype. -/
def setProperty (tags : MetaTags) (tag : MetaTag) : MetaTags :=
  if tag.name = "__proto__" then tags
  else (tags.insertOne tag).updateByKey tag.name fun t => { t with content := tag.content }

def parseMetaTagLine (line : List Char) : Option MetaTag :=
  (line.findIdx? (· = ':')).bind fun separatorIndex =>
    let key := trimString (String.ofList (line.take separatorIndex))
    let tagValue := trimString (String.ofList (line.drop (separatorIndex + 1)))
    if separatorIndex = 0 || key = "" then none else some ⟨key, tagValue⟩

def parseMetaTagsText (value : String) : MetaTags :=
  let lines := ((value.toList.splitOn '\n').map (trim isWhiteSpace)).filter (!·.isEmpty)
  (lines.filterMap parseMetaTagLine).foldl setProperty .empty

def metaTagLine (tag : MetaTag) : List Char := tag.name.toList ++ ':' :: ' ' :: tag.content.toList

def metaTagsToText (metaTags : MetaTags) : String :=
  String.ofList (['\n'].intercalate ((objectEntries metaTags).map metaTagLine))

structure PlainTag (tag : MetaTag) : Prop where
  named : tag.name ≠ ""
  name_trimmed : trimString tag.name = tag.name
  name_free : ':' ∉ tag.name.toList ∧ '\n' ∉ tag.name.toList
  not_prototype : tag.name ≠ "__proto__"
  content_trimmed : trimString tag.content = tag.content
  content_free : '\n' ∉ tag.content.toList

def PlainTags (tags : MetaTags) : Prop := ∀ tag ∈ tags.docs, PlainTag tag

theorem perm_objectEntries (tags : MetaTags) : (objectEntries tags).Perm tags.docs := by
  unfold objectEntries
  dsimp only
  refine ((List.mergeSort_perm _ _).append_right _).trans ?_
  exact (List.filter_append_perm _ _).trans (List.mergeSort_perm _ _)

theorem trimString_trimString (s : String) : trimString (trimString s) = trimString s := by
  unfold trimString
  rw [String.toList_ofList, Library.trim_trim]

theorem mem_of_mem_trimString {c : Char} {s : String} (h : c ∈ (trimString s).toList) :
    c ∈ s.toList := by
  unfold trimString at h
  rw [String.toList_ofList] at h
  exact Library.mem_of_mem_trim h

theorem not_mem_of_mem_splitOn {a : Char} {l part : List Char} (h : part ∈ l.splitOn a) :
    a ∉ part := by
  induction l generalizing part with
  | nil =>
    obtain rfl := List.mem_singleton.mp h
    exact List.not_mem_nil
  | cons b l ih =>
    rw [List.splitOn_cons_eq_if_modifyHead] at h
    split at h
    · rcases List.mem_cons.mp h with rfl | h
      · exact List.not_mem_nil
      · exact ih h
    · next hb =>
      cases hparts : l.splitOn a with
      | nil => exact absurd hparts (List.splitOn_ne_nil a l)
      | cons first rest =>
        rw [hparts] at h ih
        rcases List.mem_cons.mp h with rfl | h
        · rw [List.mem_cons, not_or]
          exact ⟨fun hab => hb (by simp [hab]), ih List.mem_cons_self⟩
        · exact ih (List.mem_cons_of_mem _ h)

theorem not_mem_take_findIdx? {a : Char} {l : List Char} {i : ℕ}
    (h : l.findIdx? (· = a) = some i) : a ∉ l.take i := by
  intro hmem
  obtain ⟨k, hk, hget⟩ := List.mem_iff_getElem.mp hmem
  obtain ⟨hi, -, hbefore⟩ := List.findIdx?_eq_some_iff_getElem.mp h
  rw [List.getElem_take] at hget
  have hki : k < i := by
    rw [List.length_take] at hk
    omega
  exact hbefore k hki (decide_eq_true hget)

theorem plainTag_of_parse {line : List Char} {tag : MetaTag} (hline : '\n' ∉ line)
    (h : parseMetaTagLine line = some tag) (hname : tag.name ≠ "__proto__") : PlainTag tag := by
  obtain ⟨separatorIndex, hfound, htag⟩ := Option.bind_eq_some_iff.mp h
  dsimp only at htag
  split_ifs at htag with hkey
  obtain rfl := Option.some.inj htag
  rw [Bool.or_eq_true, not_or] at hkey
  refine ⟨by simpa using hkey.2, trimString_trimString _, ⟨fun hmem => ?_, fun hmem => ?_⟩, hname,
    trimString_trimString _, fun hmem => ?_⟩
  · exact not_mem_take_findIdx? hfound (by simpa using mem_of_mem_trimString hmem)
  · exact hline (List.mem_of_mem_take (by simpa using mem_of_mem_trimString hmem))
  · exact hline (List.mem_of_mem_drop (by simpa using mem_of_mem_trimString hmem))

theorem plainTags_setProperty {tags : MetaTags} (h : PlainTags tags) {tag : MetaTag}
    (htag : tag.name ≠ "__proto__" → PlainTag tag) : PlainTags (setProperty tags tag) := by
  unfold setProperty
  split_ifs with hname
  · exact h
  · intro stored hstored
    rw [Collection.updateByKey_docs] at hstored
    obtain ⟨before, hbefore, rfl⟩ := List.mem_map.mp hstored
    have hplain := htag hname
    have hold : PlainTag before := by
      rcases Collection.mem_of_mem_insertOne hbefore with hbefore | rfl
      · exact h before hbefore
      · exact hplain
    split_ifs
    · exact { hold with
        content_trimmed := hplain.content_trimmed
        content_free := hplain.content_free }
    · exact hold

theorem plainTags_parseMetaTagsText (value : String) : PlainTags (parseMetaTagsText value) := by
  have hlines : ∀ line ∈ ((value.toList.splitOn '\n').map (trim isWhiteSpace)).filter
      (!·.isEmpty), '\n' ∉ line := by
    intro line hline hmem
    obtain ⟨raw, hraw, rfl⟩ := List.mem_map.mp (List.mem_of_mem_filter hline)
    exact not_mem_of_mem_splitOn hraw (Library.mem_of_mem_trim hmem)
  have hread : ∀ (tags : List MetaTag) (start : MetaTags), PlainTags start →
      (∀ tag ∈ tags, tag.name ≠ "__proto__" → PlainTag tag) →
      PlainTags (tags.foldl setProperty start) := by
    intro tags
    induction tags with
    | nil => exact fun start hstart _ => hstart
    | cons tag tags ih =>
      intro start hstart htags
      rw [List.forall_mem_cons] at htags
      exact ih _ (plainTags_setProperty hstart htags.1) htags.2
  refine hread _ .empty (List.forall_mem_nil _) fun tag htag => ?_
  obtain ⟨line, hline, hparse⟩ := List.mem_filterMap.mp htag
  exact plainTag_of_parse (hlines line hline) hparse

theorem isWhiteSpace_of_trimmed {s : String} (h : trimString s = s) :
    (∀ c ∈ s.toList.head?, isWhiteSpace c = false) ∧
      ∀ c ∈ s.toList.getLast?, isWhiteSpace c = false := by
  have hchars : trim isWhiteSpace s.toList = s.toList := by
    simpa [trimString] using congrArg String.toList h
  have hfirst := Library.head?_trim isWhiteSpace s.toList
  have hlast := Library.head?_reverse_trim isWhiteSpace s.toList
  rw [hchars] at hfirst hlast
  rw [List.head?_reverse] at hlast
  refine ⟨fun c hc => ?_, fun c hc => ?_⟩
  · have hfound := List.find?_some (hfirst.symm.trans hc)
    simpa using hfound
  · have hfound := List.find?_some (hlast.symm.trans hc)
    simpa using hfound

theorem parseMetaTagLine_append {name : List Char} (hne : name ≠ []) (hcolon : ':' ∉ name)
    (rest : List Char) : parseMetaTagLine (name ++ ':' :: rest) =
      if trimString (String.ofList name) = "" then none
      else some ⟨trimString (String.ofList name), trimString (String.ofList rest)⟩ := by
  have hbefore : name.findIdx? (· = ':') = none :=
    List.findIdx?_eq_none_iff.mpr fun c hc => decide_eq_false fun h => hcolon (h ▸ hc)
  have hfound : (name ++ ':' :: rest).findIdx? (· = ':') = some name.length := by
    rw [List.findIdx?_append, hbefore, List.findIdx?_cons]
    simp
  have hdrop : (name ++ ':' :: rest).drop (name.length + 1) = rest := by
    rw [List.drop_append]
    simp
  unfold parseMetaTagLine
  rw [hfound, Option.bind_some, List.take_left, hdrop]
  simp [hne]

theorem trimString_value {content : String} (h : trimString content = content) :
    trimString (String.ofList ((' ' :: content.toList).rdropWhile isWhiteSpace)) = content := by
  have hspace : isWhiteSpace ' ' = true := rfl
  by_cases hempty : content = ""
  · subst hempty
    decide
  · obtain ⟨before, c, hchars⟩ : ∃ before c, content.toList = before ++ [c] :=
      ⟨_, _, (List.dropLast_append_getLast (by simpa using hempty)).symm⟩
    have hc : isWhiteSpace c = false :=
      (isWhiteSpace_of_trimmed h).2 c (by rw [hchars, List.getLast?_concat]; rfl)
    have hkept : (' ' :: content.toList).rdropWhile isWhiteSpace = ' ' :: content.toList := by
      rw [hchars, ← List.cons_append, List.rdropWhile_concat_neg _ _ _ (by simp [hc])]
    rw [hkept, trimString, String.toList_ofList, Library.trim_cons_of_pos hspace]
    exact h

theorem parse_metaTagLine {tag : MetaTag} (h : PlainTag tag) :
    parseMetaTagLine (trim isWhiteSpace (metaTagLine tag)) = some tag := by
  have hne : tag.name.toList ≠ [] := by simpa using h.named
  unfold metaTagLine
  rw [Library.trim_append_cons (isWhiteSpace_of_trimmed h.name_trimmed).1 rfl,
    parseMetaTagLine_append hne h.name_free.1, String.ofList_toList, h.name_trimmed,
    if_neg h.named, trimString_value h.content_trimmed]

theorem setProperty_docs_of_fresh {tags : MetaTags} {tag : MetaTag} (h : PlainTag tag)
    (hnew : tags.contains tag.name = false) : (setProperty tags tag).docs = tags.docs ++ [tag] := by
  have hother : ∀ stored ∈ tags.docs, stored.name ≠ tag.name := by
    intro stored hstored hname
    have hmem : tags.contains tag.name = true :=
      decide_eq_true (hname ▸ List.mem_map_of_mem hstored)
    rw [hnew] at hmem
    cases hmem
  have hkept : tags.docs.map (fun t => if t.name = tag.name then
      { t with content := tag.content } else t) = tags.docs :=
    (List.map_congr_left fun t ht => if_neg (hother t ht)).trans (List.map_id' _)
  rw [setProperty, if_neg h.not_prototype, Collection.updateByKey_docs,
    Collection.insertOne_docs_of_fresh hnew, List.map_append]
  change tags.docs.map (fun t => if t.name = tag.name then _ else t) ++ _ = _
  rw [hkept, List.map_singleton]
  exact congrArg (fun last => tags.docs ++ [last]) (if_pos rfl)

theorem foldl_setProperty {tags : List MetaTag} {start : MetaTags}
    (hplain : ∀ tag ∈ tags, PlainTag tag) (hnew : ∀ tag ∈ tags, start.contains tag.name = false)
    (hnodup : (tags.map MetaTag.name).Nodup) :
    (tags.foldl setProperty start).docs = start.docs ++ tags := by
  induction tags generalizing start with
  | nil => simp
  | cons tag tags ih =>
    rw [List.forall_mem_cons] at hplain hnew
    rw [List.map_cons, List.nodup_cons] at hnodup
    have hdocs := setProperty_docs_of_fresh hplain.1 hnew.1
    rw [List.foldl_cons, ih hplain.2 (fun other hother => ?_) hnodup.2, hdocs, List.append_assoc,
      List.singleton_append]
    have hold : other.name ∉ start.docs.map MetaTag.name := of_decide_eq_false (hnew.2 other hother)
    have hne : other.name ≠ tag.name := fun h => hnodup.1 (h ▸ List.mem_map_of_mem hother)
    refine decide_eq_false ?_
    rw [hdocs, List.map_append, List.mem_append, not_or]
    exact ⟨hold, fun h => hne (List.mem_singleton.mp h)⟩

theorem filterMap_parse_lines {tags : List MetaTag} (hplain : ∀ tag ∈ tags, PlainTag tag) :
    (((tags.map metaTagLine).map (trim isWhiteSpace)).filter (!·.isEmpty)).filterMap
      parseMetaTagLine = tags := by
  induction tags with
  | nil => rfl
  | cons tag tags ih =>
    rw [List.forall_mem_cons] at hplain
    have hparse := parse_metaTagLine hplain.1
    have hnonempty : (trim isWhiteSpace (metaTagLine tag)).isEmpty = false := by
      cases hline : trim isWhiteSpace (metaTagLine tag) with
      | nil =>
        rw [hline] at hparse
        cases hparse
      | cons c line => rfl
    rw [List.map_cons, List.map_cons, List.filter_cons_of_pos (by simp [hnonempty]),
      List.filterMap_cons_some hparse, ih hplain.2]

/-- Tags come back from the form as they were exactly when they are plain. -/
theorem parse_metaTagsToText_iff (tags : MetaTags) :
    (parseMetaTagsText (metaTagsToText tags)).docs.Perm tags.docs ↔ PlainTags tags := by
  have hentries := perm_objectEntries tags
  constructor
  · exact fun hperm tag htag =>
      plainTags_parseMetaTagsText _ tag (hperm.mem_iff.mpr htag)
  · intro hplain
    have hplain : ∀ tag ∈ objectEntries tags, PlainTag tag :=
      fun tag htag => hplain tag (hentries.mem_iff.mp htag)
    have hnodup : ((objectEntries tags).map MetaTag.name).Nodup :=
      (hentries.map _).nodup_iff.mpr tags.nodup
    have hlines : ∀ line ∈ (objectEntries tags).map metaTagLine, '\n' ∉ line := by
      intro line hline
      obtain ⟨tag, htag, rfl⟩ := List.mem_map.mp hline
      have hname := (hplain tag htag).name_free.2
      have hcontent := (hplain tag htag).content_free
      simp [metaTagLine, hname, hcontent]
    suffices hdocs : (parseMetaTagsText (metaTagsToText tags)).docs = objectEntries tags by
      rw [hdocs]
      exact hentries
    unfold parseMetaTagsText metaTagsToText
    rw [String.toList_ofList]
    generalize objectEntries tags = entries at hplain hnodup hlines
    cases entries with
    | nil => decide
    | cons tag entries =>
      rw [List.splitOn_intercalate '\n' hlines (by simp)]
      dsimp only
      rw [filterMap_parse_lines hplain]
      exact foldl_setProperty hplain (fun _ _ => rfl) hnodup

end Statora.Web
