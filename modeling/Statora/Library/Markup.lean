import Mathlib.Data.List.SplitBy
import Mathlib.Data.List.Basic
import Mathlib.Tactic.Common

/-!
# Markup with escaped text

Elements are written with their attributes in double quotes; in texts and in the values
of attributes five characters are written as references. Reading what was written gives
the elements back, with every text and every value as it was before it was escaped.
-/

namespace Statora.Library.Markup

def references : List (Char × String) :=
  [('&', "amp"), ('\'', "#39"), ('<', "lt"), ('>', "gt"), ('"', "#34")]

def escapeChar (c : Char) : List Char :=
  match references.lookup c with
  | some name => '&' :: name.toList ++ [';']
  | none => [c]

def escape (cs : List Char) : List Char := cs.flatMap escapeChar

def referenced (name : List Char) : Option Char :=
  (references.find? fun reference => reference.2.toList = name).map Prod.fst

def unescapeFrom : Option (List Char) → List Char → List Char
  | none, [] => []
  | some name, [] => '&' :: name
  | none, c :: cs => if c = '&' then unescapeFrom (some []) cs else c :: unescapeFrom none cs
  | some name, c :: cs =>
    if c = ';' then
      (referenced name).elim ('&' :: name ++ [';']) (fun d => [d]) ++ unescapeFrom none cs
    else unescapeFrom (some (name ++ [c])) cs

def unescape (cs : List Char) : List Char := unescapeFrom none cs

@[simp] theorem escape_nil : escape [] = [] := rfl

@[simp] theorem escape_cons (c : Char) (cs : List Char) :
    escape (c :: cs) = escapeChar c ++ escape cs := rfl

@[simp] theorem escape_append (cs ds : List Char) : escape (cs ++ ds) = escape cs ++ escape ds :=
  List.flatMap_append

theorem escapeChar_cases (c : Char) :
    (c ∉ references.map Prod.fst ∧ escapeChar c = [c]) ∨
      ∃ name, (c, name) ∈ references ∧ escapeChar c = '&' :: name.toList ++ [';'] := by
  unfold escapeChar
  cases hname : references.lookup c with
  | none =>
    refine Or.inl ⟨fun hc => ?_, rfl⟩
    obtain ⟨⟨d, name⟩, hmem, rfl⟩ := List.mem_map.mp hc
    simpa using List.lookup_eq_none_iff.mp hname (d, name) hmem
  | some name =>
    obtain ⟨before, after, hsplit, -⟩ := List.lookup_eq_some_iff.mp hname
    exact Or.inr ⟨name, by simp [hsplit], rfl⟩

theorem referenced_of_mem : ∀ reference ∈ references,
    ';' ∉ reference.2.toList ∧ referenced reference.2.toList = some reference.1 := by
  decide

theorem unescapeFrom_name {name : List Char} (h : ';' ∉ name) (seen cs : List Char) :
    unescapeFrom (some seen) (name ++ ';' :: cs) =
      (referenced (seen ++ name)).elim ('&' :: (seen ++ name) ++ [';']) (fun d => [d]) ++
        unescapeFrom none cs := by
  induction name generalizing seen with
  | nil => simp [unescapeFrom]
  | cons c name ih =>
    have hc : c ≠ ';' := fun heq => h (heq ▸ List.mem_cons_self)
    have hrest := ih (fun hmem => h (List.mem_cons_of_mem c hmem)) (seen ++ [c])
    simpa [unescapeFrom, hc] using hrest

theorem unescape_escapeChar (c : Char) (cs : List Char) :
    unescape (escapeChar c ++ cs) = c :: unescape cs := by
  rcases escapeChar_cases c with ⟨hplain, hescape⟩ | ⟨name, hmem, hescape⟩
  · have hc : c ≠ '&' := by
      rintro rfl
      exact hplain (by decide)
    simp [hescape, unescape, unescapeFrom, hc]
  · obtain ⟨hname, hreferenced⟩ := referenced_of_mem _ hmem
    have hdecoded := unescapeFrom_name hname [] cs
    simp only [List.nil_append, hreferenced, Option.elim_some] at hdecoded
    simpa [hescape, unescape, unescapeFrom] using hdecoded

theorem unescape_escape_append (cs ds : List Char) :
    unescape (escape cs ++ ds) = cs ++ unescape ds := by
  induction cs with
  | nil => rfl
  | cons c cs ih => rw [escape_cons, List.append_assoc, unescape_escapeChar, ih, List.cons_append]

@[simp] theorem unescape_escape (cs : List Char) : unescape (escape cs) = cs := by
  simpa [unescape, unescapeFrom] using unescape_escape_append cs []

theorem not_mem_escape {d : Char} (hd : d ∈ references.map Prod.fst) (hne : d ≠ '&')
    (cs : List Char) : d ∉ escape cs := by
  have hwritten : ∀ reference ∈ references, ∀ c ∈ references.map Prod.fst,
      c ∈ '&' :: reference.2.toList ++ [';'] → c = '&' := by
    simp [references]
  intro h
  obtain ⟨c, -, hc⟩ := List.mem_flatMap.mp h
  rcases escapeChar_cases c with ⟨hplain, hescape⟩ | ⟨name, hmem, hescape⟩ <;> rw [hescape] at hc
  · rw [List.mem_singleton.mp hc] at hd
    exact hplain hd
  · exact hne (hwritten _ hmem d hd hc)

theorem escape_of_plain {cs : List Char} (h : ∀ c ∈ cs, c ∉ references.map Prod.fst) :
    escape cs = cs := by
  induction cs with
  | nil => rfl
  | cons c cs ih =>
    rw [List.forall_mem_cons] at h
    rcases escapeChar_cases c with ⟨-, hescape⟩ | ⟨name, hmem, -⟩
    · rw [escape_cons, hescape, ih h.2, List.singleton_append]
    · exact absurd (List.mem_map_of_mem hmem) h.1

structure Attribute where
  name : List Char
  value : List Char
  deriving DecidableEq, Repr

inductive Token
  | declaration (text : List Char)
  | openTag (name : List Char) (attributes : List Attribute)
  | void (name : List Char) (attributes : List Attribute)
  | close (name : List Char)
  | text (content : List Char)
  deriving DecidableEq, Repr

def Attribute.print (a : Attribute) : List Char :=
  ' ' :: a.name ++ '=' :: '"' :: escape a.value ++ ['"']

def Token.print : Token → List Char
  | .declaration content => '<' :: '!' :: content ++ ['>']
  | .openTag name attributes => '<' :: name ++ attributes.flatMap Attribute.print ++ ['>']
  | .void name attributes => '<' :: name ++ attributes.flatMap Attribute.print ++ ['/', '>']
  | .close name => '<' :: '/' :: name ++ ['>']
  | .text content => escape content

def print (tokens : List Token) : List Char := tokens.flatMap Token.print

@[simp] theorem print_nil : print [] = [] := rfl

@[simp] theorem print_cons (t : Token) (tokens : List Token) :
    print (t :: tokens) = t.print ++ print tokens := rfl

@[simp] theorem print_append (tokens tokens' : List Token) :
    print (tokens ++ tokens') = print tokens ++ print tokens' := List.flatMap_append

def readAttributes : List (List Char) → Option (List Attribute × List Char)
  | [] => none
  | [last] => some ([], last)
  | [_, _] => none
  | (' ' :: name) :: value :: rest =>
    if name.getLast? = some '=' then
      (readAttributes rest).map fun read => (⟨name.dropLast, unescape value⟩ :: read.1, read.2)
    else none
  | _ => none

def readTag : List Char → Option Token
  | '!' :: text => some (.declaration text)
  | '/' :: name => some (.close name)
  | source =>
    let name := source.takeWhile fun c => c ≠ ' ' && c ≠ '/'
    (readAttributes ((source.drop name.length).splitOn '"')).bind fun read =>
      if read.2 = [] then some (.openTag name read.1)
      else if read.2 = ['/'] then some (.void name read.1)
      else none

def addText (content : List Char) : List Token → List Token
  | .text next :: tokens => .text (content ++ next) :: tokens
  | tokens => if content = [] then tokens else .text content :: tokens

def readText (content : List Char) : List Token := addText (unescape content) []

def readSegment (segment : List Char) : Option (List Token) :=
  match segment.dropWhile (· ≠ '>') with
  | [] => none
  | _ :: content =>
    (readTag (segment.takeWhile (· ≠ '>'))).map fun tag => tag :: readText content

def readSegments (segments : List (List Char)) : Option (List Token) :=
  (segments.mapM readSegment).map List.flatten

def read (cs : List Char) : Option (List Token) :=
  match cs.splitOn '<' with
  | [] => none
  | content :: segments => (readSegments segments).map (readText content ++ ·)

def joinTexts : List Token → List Token
  | [] => []
  | .text content :: tokens => addText content (joinTexts tokens)
  | t :: tokens => t :: joinTexts tokens

def IsName (name : List Char) : Prop := name ≠ [] ∧ name.all Char.isAlphanum = true

instance (name : List Char) : Decidable (IsName name) := inferInstanceAs (Decidable (_ ∧ _))

def Token.WellFormed : Token → Prop
  | .declaration content => '<' ∉ content ∧ '>' ∉ content
  | .openTag name attributes | .void name attributes =>
    IsName name ∧ ∀ a ∈ attributes, IsName a.name
  | .close name => IsName name
  | .text _ => True

instance : DecidablePred Token.WellFormed
  | .declaration content => inferInstanceAs (Decidable ('<' ∉ content ∧ '>' ∉ content))
  | .openTag name attributes | .void name attributes =>
    inferInstanceAs (Decidable (IsName name ∧ ∀ a ∈ attributes, IsName a.name))
  | .close name => inferInstanceAs (Decidable (IsName name))
  | .text _ => isTrue trivial

theorem IsName.not_mem {name : List Char} (h : IsName name) {c : Char}
    (hc : c.isAlphanum = false) : c ∉ name := by
  intro hmem
  have halphanum := List.all_eq_true.mp h.2 c hmem
  simp [hc] at halphanum

section Attributes
variable {attributes : List Attribute}

theorem readAttributes_cons {name : List Char} (value : List Char) {pieces : List (List Char)}
    (h : pieces ≠ []) :
    readAttributes ((' ' :: name ++ ['=']) :: escape value :: pieces) =
      (readAttributes pieces).map fun read => (⟨name, value⟩ :: read.1, read.2) := by
  obtain ⟨piece, pieces, rfl⟩ := List.exists_cons_of_ne_nil h
  rw [List.cons_append, readAttributes]
  · simp
  · simp

theorem splitOn_print {a : Attribute} (h : IsName a.name) (rest : List Char) :
    (a.print ++ rest).splitOn '"' =
      (' ' :: a.name ++ ['=']) :: escape a.value :: rest.splitOn '"' := by
  have hname : '"' ∉ ' ' :: a.name ++ ['='] := by
    simpa using h.not_mem (by decide)
  have hsplit : a.print ++ rest =
      (' ' :: a.name ++ ['=']) ++ '"' :: (escape a.value ++ '"' :: rest) := by
    simp [Attribute.print]
  rw [hsplit, List.splitOn_append_cons_self_of_not_mem hname,
    List.splitOn_append_cons_self_of_not_mem (not_mem_escape (by decide) (by decide) _)]

theorem readAttributes_print (h : ∀ a ∈ attributes, IsName a.name) {last : List Char}
    (hlast : '"' ∉ last) :
    readAttributes ((attributes.flatMap Attribute.print ++ last).splitOn '"') =
      some (attributes, last) := by
  induction attributes with
  | nil => simp [List.splitOn_eq_singleton hlast, readAttributes]
  | cons a attributes ih =>
    rw [List.forall_mem_cons] at h
    rw [List.flatMap_cons, List.append_assoc, splitOn_print h.1,
      readAttributes_cons _ (List.splitOn_ne_nil _ _), ih h.2]
    rfl

theorem takeWhile_name {name rest : List Char} (h : IsName name)
    (hrest : ∀ c, rest.head? = some c → c = ' ' ∨ c = '/') :
    (name ++ rest).takeWhile (fun c => c ≠ ' ' && c ≠ '/') = name := by
  have hname : ∀ c ∈ name, (c ≠ ' ' && c ≠ '/') = true := by
    intro c hc
    have hspace : c ≠ ' ' := fun heq => h.not_mem (by decide) (heq ▸ hc)
    have hslash : c ≠ '/' := fun heq => h.not_mem (by decide) (heq ▸ hc)
    simp [hspace, hslash]
  rw [List.takeWhile_append_of_pos hname]
  cases rest with
  | nil => simp
  | cons c rest => rcases hrest c rfl with rfl | rfl <;> simp

theorem readTag_element {name : List Char} (hname : IsName name)
    (hattributes : ∀ a ∈ attributes, IsName a.name) {last : List Char}
    (hlast : last = [] ∨ last = ['/']) :
    readTag (name ++ (attributes.flatMap Attribute.print ++ last)) =
      if last = [] then some (.openTag name attributes) else some (.void name attributes) := by
  have hhead : ∀ c, (attributes.flatMap Attribute.print ++ last).head? = some c →
      c = ' ' ∨ c = '/' := by
    intro c hc
    cases attributes with
    | nil =>
      rcases hlast with rfl | rfl
      · cases hc
      · exact Or.inr (Option.some.inj hc).symm
    | cons a attributes => exact Or.inl (Option.some.inj hc).symm
  have hquote : '"' ∉ last := by
    rcases hlast with rfl | rfl <;> decide
  obtain ⟨c, cs, hcons⟩ := List.exists_cons_of_ne_nil hname.1
  have hmark : c ≠ '!' := fun heq => hname.not_mem (c := '!') (by decide) (by simp [hcons, heq])
  have hslash : c ≠ '/' := fun heq => hname.not_mem (c := '/') (by decide) (by simp [hcons, heq])
  have hread := readAttributes_print hattributes hquote
  have htake := takeWhile_name hname hhead
  rw [hcons, List.cons_append] at htake ⊢
  rw [readTag]
  · simp only [htake, List.length_cons, List.drop_succ_cons, List.drop_left, hread,
      Option.bind_some]
    rcases hlast with rfl | rfl <;> simp
  · rintro content ⟨⟩
    exact hmark rfl
  · rintro content ⟨⟩
    exact hslash rfl

end Attributes

theorem addText_append (content content' : List Char) (tokens : List Token) :
    addText content (addText content' tokens) = addText (content ++ content') tokens := by
  cases tokens with
  | nil => by_cases h : content' = [] <;> by_cases h' : content = [] <;> simp [addText, h, h']
  | cons t tokens =>
    cases t with
    | text next => simp [addText]
    | _ => by_cases h : content' = [] <;> by_cases h' : content = [] <;> simp [addText, h, h']

section Read
variable {content rest source : List Char} {t : Token} {tokens : List Token}

theorem splitOn_append_of_not_mem {c : Char} {cs : List Char} (h : c ∉ cs) (rest : List Char) :
    (cs ++ rest).splitOn c = (rest.splitOn c).modifyHead (cs ++ ·) := by
  induction cs with
  | nil =>
    rw [List.nil_append]
    cases rest.splitOn c <;> rfl
  | cons d cs ih =>
    rw [List.mem_cons, not_or] at h
    have hd : (d == c) = false := by simpa using Ne.symm h.1
    rw [List.cons_append, List.splitOn_cons_eq_if_modifyHead, hd, ih h.2]
    simp [Function.comp_def]

theorem readText_escape_append (content rest : List Char) :
    readText (escape content ++ rest) = addText content (readText rest) := by
  rw [readText, readText, unescape_escape_append, addText_append]

def startsWithText : List Token → Bool
  | .text _ :: _ => true
  | _ => false

theorem addText_append_tokens (h : startsWithText tokens = false) (before : List Token) :
    addText content before ++ tokens = addText content (before ++ tokens) := by
  cases before with
  | nil =>
    cases tokens with
    | nil => simp
    | cons t tokens =>
      cases t with
      | text next => cases h
      | _ => by_cases hempty : content = [] <;> simp [addText, hempty]
  | cons t before => cases t <;> by_cases hempty : content = [] <;> simp [addText, hempty]

theorem readTag_ne_text (h : readTag source = some t) (tokens : List Token) :
    startsWithText (t :: tokens) = false := by
  unfold readTag at h
  split at h
  · cases h
    rfl
  · cases h
    rfl
  · obtain ⟨read, -, hread⟩ := Option.bind_eq_some_iff.mp h
    split_ifs at hread <;> cases hread <;> rfl

theorem readSegment_eq_some {segment : List Char} (h : readSegment segment = some tokens) :
    ∃ source t rest, readTag source = some t ∧ tokens = t :: rest := by
  unfold readSegment at h
  split at h
  · cases h
  · obtain ⟨t, ht, rfl⟩ := Option.map_eq_some_iff.mp h
    exact ⟨_, t, _, ht, rfl⟩

theorem readSegments_cons (segment : List Char) (segments : List (List Char)) :
    readSegments (segment :: segments) =
      (readSegment segment).bind fun tokens => (readSegments segments).map (tokens ++ ·) := by
  unfold readSegments
  cases hsegment : readSegment segment <;> cases hsegments : segments.mapM readSegment <;>
    simp [hsegment, hsegments]

theorem startsWithText_readSegments {segments : List (List Char)}
    (h : readSegments segments = some tokens) : startsWithText tokens = false := by
  cases segments with
  | nil =>
    cases h
    rfl
  | cons segment segments =>
    rw [readSegments_cons] at h
    obtain ⟨first, hfirst, hmap⟩ := Option.bind_eq_some_iff.mp h
    obtain ⟨others, -, rfl⟩ := Option.map_eq_some_iff.mp hmap
    obtain ⟨source, t, content, ht, rfl⟩ := readSegment_eq_some hfirst
    exact readTag_ne_text ht _

theorem readSegment_tag (hclosed : '>' ∉ source) (hread : readTag source = some t)
    (content : List Char) :
    readSegment (source ++ '>' :: content) = some (t :: readText content) := by
  have hsource : ∀ c ∈ source, (decide (c ≠ '>')) = true := by
    intro c hc
    simp only [decide_eq_true_eq]
    rintro rfl
    exact hclosed hc
  rw [readSegment, List.dropWhile_append_of_pos hsource, List.takeWhile_append_of_pos hsource]
  simp [hread]

theorem read_tag (hopen : '<' ∉ source) (hclosed : '>' ∉ source)
    (hread : readTag source = some t) (rest : List Char) :
    read ('<' :: source ++ '>' :: rest) = (read rest).map (t :: ·) := by
  have hopen' : '<' ∉ source ++ ['>'] := by simp [hopen]
  have hsplit := splitOn_append_of_not_mem hopen' rest
  rw [List.append_assoc, List.singleton_append] at hsplit
  obtain ⟨content, segments, hrest⟩ := List.exists_cons_of_ne_nil (List.splitOn_ne_nil '<' rest)
  rw [hrest, List.modifyHead_cons, List.append_assoc, List.singleton_append] at hsplit
  rw [read, read, List.cons_append, List.splitOn_cons_eq_if_modifyHead, hsplit, hrest]
  simp only [beq_self_eq_true, if_true]
  rw [readSegments_cons, readSegment_tag hclosed hread]
  cases readSegments segments <;> simp [readText, unescape, unescapeFrom, addText]

theorem read_text (content rest : List Char) :
    read (escape content ++ rest) = (read rest).map (addText content) := by
  have hopen : '<' ∉ escape content := not_mem_escape (by decide) (by decide) content
  obtain ⟨first, segments, hrest⟩ := List.exists_cons_of_ne_nil (List.splitOn_ne_nil '<' rest)
  rw [read, read, splitOn_append_of_not_mem hopen, hrest, List.modifyHead_cons]
  dsimp only
  rw [readText_escape_append]
  cases hsegments : readSegments segments with
  | none => rfl
  | some tokens =>
    simp [addText_append_tokens (startsWithText_readSegments hsegments)]

theorem not_mem_attributes {attributes : List Attribute}
    (h : ∀ a ∈ attributes, IsName a.name) {c : Char} (hc : c = '<' ∨ c = '>') :
    c ∉ attributes.flatMap Attribute.print := by
  have halphanum : c.isAlphanum = false := by
    rcases hc with rfl | rfl <;> decide
  have hspecial : c ∈ references.map Prod.fst ∧ c ≠ '&' := by
    rcases hc with rfl | rfl <;> decide
  have hdelimiter : c ≠ ' ' ∧ c ≠ '=' ∧ c ≠ '"' := by
    rcases hc with rfl | rfl <;> decide
  intro hmem
  obtain ⟨a, ha, hprint⟩ := List.mem_flatMap.mp hmem
  have hname := (h a ha).not_mem halphanum
  have hvalue := not_mem_escape hspecial.1 hspecial.2 a.value
  simp [Attribute.print, hdelimiter, hname, hvalue] at hprint

theorem read_element {name : List Char} {attributes : List Attribute} (hname : IsName name)
    (hattributes : ∀ a ∈ attributes, IsName a.name) (last rest : List Char)
    (hlast : last = [] ∨ last = ['/']) :
    read ('<' :: (name ++ (attributes.flatMap Attribute.print ++ last)) ++ '>' :: rest) =
      (read rest).map ((if last = [] then Token.openTag name attributes
        else Token.void name attributes) :: ·) := by
  have hnot : ∀ c, c = '<' ∨ c = '>' →
      c ∉ name ++ (attributes.flatMap Attribute.print ++ last) := by
    intro c hc
    have halphanum : c.isAlphanum = false := by
      rcases hc with rfl | rfl <;> decide
    have hend : c ∉ last := by
      rcases hc with rfl | rfl <;> rcases hlast with rfl | rfl <;> decide
    simp [hname.not_mem halphanum, not_mem_attributes hattributes hc, hend]
  refine read_tag (hnot '<' (.inl rfl)) (hnot '>' (.inr rfl)) ?_ rest
  rw [readTag_element hname hattributes hlast]
  split_ifs <;> rfl

/-- Reading what was written gives the elements and texts that were written. -/
theorem read_print (h : ∀ t ∈ tokens, t.WellFormed) :
    read (print tokens) = some (joinTexts tokens) := by
  induction tokens with
  | nil => rfl
  | cons t tokens ih =>
    rw [List.forall_mem_cons] at h
    have hrest := ih h.2
    rw [print_cons]
    cases t with
    | declaration content =>
      have hread : readTag ('!' :: content) = some (.declaration content) := rfl
      have htag := read_tag (by simpa using h.1.1) (by simpa using h.1.2) hread (print tokens)
      simpa [Token.print, hrest, joinTexts] using htag
    | openTag name attributes =>
      have htag := read_element h.1.1 h.1.2 [] (print tokens) (.inl rfl)
      simpa [Token.print, hrest, joinTexts] using htag
    | void name attributes =>
      have htag := read_element h.1.1 h.1.2 ['/'] (print tokens) (.inr rfl)
      simpa [Token.print, hrest, joinTexts] using htag
    | close name =>
      have hread : readTag ('/' :: name) = some (.close name) := rfl
      have hopen : '<' ∉ '/' :: name := by simpa using h.1.not_mem (c := '<') (by decide)
      have hclosed : '>' ∉ '/' :: name := by simpa using h.1.not_mem (c := '>') (by decide)
      have htag := read_tag hopen hclosed hread (print tokens)
      simpa [Token.print, hrest, joinTexts] using htag
    | text content => simp [Token.print, read_text, hrest, joinTexts]

end Read

end Statora.Library.Markup
