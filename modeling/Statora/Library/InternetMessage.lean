import Statora.Library.SplitSeq

/-!
# Internet messages

A header of fields, a blank line and a body; a multipart body with a boundary. `print…`
writes them and `parse…` reads them. A delimiter is a line that begins with two hyphens and
the boundary, whatever follows on the line.
-/

namespace Statora.Library

structure Field where
  name : String
  value : String
  deriving DecidableEq, Repr

structure Entity where
  fields : List Field
  content : String
  deriving DecidableEq, Repr

def crlf : List Char := ['\r', '\n']

def printLine (f : Field) : List Char := f.name.toList ++ (": ".toList ++ f.value.toList)

def printHeader (fields : List Field) : List Char :=
  fields.flatMap fun f => printLine f ++ crlf

def printEntity (e : Entity) : List Char := printHeader e.fields ++ (crlf ++ e.content.toList)

def dashBoundary (boundary : List Char) : List Char := "--".toList ++ boundary

def delimiter (boundary : List Char) : List Char := crlf ++ dashBoundary boundary

def printRest (boundary : List Char) : List Entity → List Char
  | [] => "--".toList ++ crlf
  | e :: parts => crlf ++ printEntity e ++ (delimiter boundary ++ printRest boundary parts)

def printMultipart (boundary : List Char) (parts : List Entity) : List Char :=
  dashBoundary boundary ++ printRest boundary parts

def isWSP (c : Char) : Bool := c = ' ' || c = '\t'

/-- A line that begins with white space continues the one before. -/
def unfoldLines (lines : List (List Char)) : List (List Char) :=
  (lines.foldr (fun line rest =>
    if (line.head?.map isWSP).getD false then (line ++ rest.1, rest.2)
    else ([], (line ++ rest.1) :: rest.2)) ([], [])).2

def parseField (line : List Char) : Option Field :=
  let name := line.takeWhile (fun c => c ≠ ':')
  match line.dropWhile (fun c => c ≠ ':') with
  | ':' :: ' ' :: value => some ⟨String.ofList name, String.ofList value⟩
  | ':' :: value => some ⟨String.ofList name, String.ofList value⟩
  | _ => none

def parseLines (lines : List (List Char)) : Option Entity := do
  let fields ← (unfoldLines (lines.takeWhile fun line => !line.isEmpty)).mapM parseField
  let rest := (lines.dropWhile fun line => !line.isEmpty).tail
  return ⟨fields, String.ofList (crlf.intercalate rest)⟩

def parseEntity (text : List Char) : Option Entity := parseLines (splitSeq crlf text)

def parsePart (piece : List Char) : Option Entity :=
  match splitSeq crlf piece with
  | _ :: line :: lines => parseLines (line :: lines)
  | _ => none

def parseParts : List (List Char) → Option (List Entity)
  | [] => none
  | piece :: pieces =>
    if "--".toList.isPrefixOf piece then some []
    else do
      let part ← parsePart piece
      let parts ← parseParts pieces
      return part :: parts

def parseMultipart (boundary body : List Char) : Option (List Entity) :=
  parseParts (splitSeq (delimiter boundary) (crlf ++ body)).tail

def declaredBoundary (mediaType : String) (fields : List Field) : Option (List Char) :=
  let start := mediaType.toList ++ "; boundary=\"".toList
  match fields.find? (fun f => f.name = "Content-Type") with
  | none => none
  | some f =>
    if start.isPrefixOf f.value.toList then
      some ((f.value.toList.drop start.length).takeWhile (fun c => c ≠ '"'))
    else none

structure MultipartMessage where
  fields : List Field
  parts : List Entity
  deriving DecidableEq, Repr

def parseMessage (mediaType : String) (text : List Char) : Option MultipartMessage := do
  let message ← parseEntity text
  let boundary ← declaredBoundary mediaType message.fields
  let parts ← parseMultipart boundary message.content.toList
  return ⟨message.fields, parts⟩

def printMessage (boundary : List Char) (message : MultipartMessage) : List Char :=
  printHeader message.fields ++ (crlf ++ printMultipart boundary message.parts)

structure WellFormed (f : Field) : Prop where
  nonempty : f.name.toList ≠ []
  name : ∀ c ∈ f.name.toList, c ≠ ':' ∧ c ≠ '\r'
  start : ∀ c ∈ f.name.toList.head?, c ≠ '-' ∧ isWSP c = false
  value : '\r' ∉ f.value.toList

variable {f : Field} {fields : List Field} {boundary : List Char} {e : Entity}
  {parts : List Entity}

theorem head?_printLine (h : WellFormed f) : (printLine f).head? = f.name.toList.head? := by
  rw [printLine, List.head?_append_of_ne_nil _ h.nonempty]

theorem printLine_ne_nil (h : WellFormed f) : printLine f ≠ [] :=
  List.append_ne_nil_of_left_ne_nil h.nonempty _

theorem not_mem_printLine (h : WellFormed f) : '\r' ∉ printLine f := by
  have hname : '\r' ∉ f.name.toList := fun hmem => (h.name _ hmem).2 rfl
  have hcolon : '\r' ∉ ": ".toList := by decide
  simp only [printLine, List.mem_append, not_or]
  exact ⟨hname, hcolon, h.value⟩

theorem parseField_printLine (h : WellFormed f) : parseField (printLine f) = some f := by
  have hname : ∀ c ∈ f.name.toList, decide (c ≠ ':') = true :=
    fun c hc => decide_eq_true (h.name c hc).1
  have hsplit : printLine f = f.name.toList ++ ':' :: ' ' :: f.value.toList := rfl
  rw [parseField, hsplit, List.takeWhile_append_of_pos hname, List.dropWhile_append_of_pos hname]
  simp

theorem splitSeq_crlf_append {line : List Char} (h : '\r' ∉ line) (rest : List Char) :
    splitSeq crlf (line ++ (crlf ++ rest)) = line :: splitSeq crlf rest :=
  splitSeq_append (by decide) (fun hoccurs => h (hoccurs.subset List.mem_cons_self)) rest

theorem splitSeq_printHeader (h : ∀ f ∈ fields, WellFormed f) (rest : List Char) :
    splitSeq crlf (printHeader fields ++ rest) = fields.map printLine ++ splitSeq crlf rest := by
  induction fields with
  | nil => rfl
  | cons f fields ih =>
    rw [List.forall_mem_cons] at h
    have hcons : printHeader (f :: fields) ++ rest =
        printLine f ++ (crlf ++ (printHeader fields ++ rest)) := by
      simp [printHeader]
    rw [hcons, splitSeq_crlf_append (not_mem_printLine h.1), ih h.2]
    rfl

theorem unfoldLines_printLine (h : ∀ f ∈ fields, WellFormed f) :
    unfoldLines (fields.map printLine) = fields.map printLine := by
  have hstep : (fields.map printLine).foldr (fun line rest =>
      if (line.head?.map isWSP).getD false then (line ++ rest.1, rest.2)
      else ([], (line ++ rest.1) :: rest.2)) ([], []) = ([], fields.map printLine) := by
    induction fields with
    | nil => rfl
    | cons f fields ih =>
      rw [List.forall_mem_cons] at h
      have hstart : ((printLine f).head?.map isWSP).getD false = false := by
        rw [head?_printLine h.1]
        cases hhead : f.name.toList.head? with
        | none => rfl
        | some c => exact (h.1.start c hhead).2
      rw [List.map_cons, List.foldr_cons, ih h.2, hstart]
      simp
  rw [unfoldLines, hstep]

theorem mapM_parseField (h : ∀ f ∈ fields, WellFormed f) :
    (fields.map printLine).mapM parseField = some fields := by
  induction fields with
  | nil => rfl
  | cons f fields ih =>
    rw [List.forall_mem_cons] at h
    simp [parseField_printLine h.1, ih h.2]

theorem parseLines_of_blank (h : ∀ f ∈ fields, WellFormed f) (rest : List (List Char)) :
    parseLines (fields.map printLine ++ [] :: rest) =
      some ⟨fields, String.ofList (crlf.intercalate rest)⟩ := by
  have hlines : ∀ line ∈ fields.map printLine, (!line.isEmpty) = true := by
    intro line hline
    obtain ⟨f, hf, rfl⟩ := List.mem_map.mp hline
    simpa using printLine_ne_nil (h f hf)
  rw [parseLines, List.takeWhile_append_of_pos hlines, List.dropWhile_append_of_pos hlines]
  simp [unfoldLines_printLine h, mapM_parseField h]

theorem splitSeq_printEntity (h : ∀ f ∈ e.fields, WellFormed f) :
    splitSeq crlf (printEntity e) =
      e.fields.map printLine ++ [] :: splitSeq crlf e.content.toList := by
  rw [printEntity, splitSeq_printHeader h]
  exact congrArg _ (splitSeq_separator '\r' ['\n'] _)

theorem intercalate_crlf (text : List Char) : crlf.intercalate (splitSeq crlf text) = text :=
  intercalate_splitSeq (by decide) text

theorem parseEntity_printEntity (h : ∀ f ∈ e.fields, WellFormed f) :
    parseEntity (printEntity e) = some e := by
  rw [parseEntity, splitSeq_printEntity h, parseLines_of_blank h, intercalate_crlf,
    String.ofList_toList]

/-- The content has no line that begins as a delimiter. -/
def Free (boundary : List Char) (content : List Char) : Prop :=
  ¬ delimiter boundary <:+: crlf ++ content

instance (boundary content : List Char) : Decidable (Free boundary content) :=
  inferInstanceAs (Decidable (¬ _))

theorem delimiter_eq (boundary : List Char) :
    delimiter boundary = '\r' :: '\n' :: '-' :: '-' :: boundary := rfl

theorem not_mem_delimiter_tail (h : '\r' ∉ boundary) : '\r' ∉ '\n' :: '-' :: '-' :: boundary := by
  simpa using h

theorem delimiter_infix_crlf_append {rest : List Char} (h : ∀ c ∈ rest.head?, c ≠ '-') :
    delimiter boundary <:+: crlf ++ rest ↔ delimiter boundary <:+: rest := by
  have hstart : ¬ delimiter boundary <+: '\r' :: '\n' :: rest := by
    rw [delimiter_eq, List.cons_prefix_cons, List.cons_prefix_cons]
    rintro ⟨-, -, tail, rfl⟩
    exact h '-' rfl rfl
  have hnext : ¬ delimiter boundary <+: '\n' :: rest := by
    rw [delimiter_eq, List.cons_prefix_cons]
    exact fun hstarts => absurd hstarts.1 (by decide)
  rw [crlf, List.cons_append, List.cons_append, List.nil_append, List.infix_cons_iff,
    List.infix_cons_iff]
  simp [hstart, hnext]

theorem length_delimiter (boundary : List Char) :
    (delimiter boundary).length = boundary.length + 4 := by
  simp [delimiter_eq]

theorem delimiter_infix_printHeader (h : ∀ f ∈ fields, WellFormed f) (content : List Char) :
    delimiter boundary <:+: crlf ++ (printHeader fields ++ (crlf ++ content)) ↔
      delimiter boundary <:+: crlf ++ content := by
  induction fields with
  | nil => exact delimiter_infix_crlf_append (by simp [printHeader, crlf])
  | cons f fields ih =>
    rw [List.forall_mem_cons] at h
    have hcons : printHeader (f :: fields) ++ (crlf ++ content) =
        printLine f ++ (crlf ++ (printHeader fields ++ (crlf ++ content))) := by
      simp [printHeader]
    have hstart : ∀ c ∈ (printLine f ++ (crlf ++ (printHeader fields ++ (crlf ++ content)))).head?,
        c ≠ '-' := by
      rw [List.head?_append_of_ne_nil _ (printLine_ne_nil h.1), head?_printLine h.1]
      exact fun c hc => (h.1.start c hc).1
    rw [hcons, delimiter_infix_crlf_append hstart, delimiter_eq,
      infix_append_of_not_mem (not_mem_printLine h.1), ← delimiter_eq]
    exact ih h.2

theorem parsePart_of_lines {piece first : List Char} {lines : List (List Char)}
    (h : splitSeq crlf piece = first :: lines) (hne : lines ≠ []) :
    parsePart piece = parseLines lines := by
  cases lines with
  | nil => exact absurd rfl hne
  | cons line lines => rw [parsePart, h]

theorem splitSeq_crlf (text : List Char) :
    splitSeq crlf (crlf ++ text) = [] :: splitSeq crlf text :=
  splitSeq_separator '\r' ['\n'] text

theorem parsePart_printEntity (h : ∀ f ∈ e.fields, WellFormed f) :
    parsePart (crlf ++ printEntity e) = some e := by
  rw [parsePart_of_lines (splitSeq_crlf _) (splitSkipping_ne_nil _ 0 _)]
  exact parseEntity_printEntity h

theorem parsePart_printHeader (h : ∀ f ∈ fields, WellFormed f) :
    parsePart (crlf ++ printHeader fields) = some ⟨fields, ""⟩ := by
  rw [parsePart_of_lines (splitSeq_crlf _) (splitSkipping_ne_nil _ 0 _),
    ← List.append_nil (printHeader fields), splitSeq_printHeader h]
  exact parseLines_of_blank h []

theorem not_closing (text : List Char) : ¬ "--".toList <+: crlf ++ text := by
  rintro ⟨rest, hrest⟩
  cases hrest

theorem parseParts_cons {piece : List Char} (h : parsePart piece = some e)
    (hopen : ¬ "--".toList <+: piece) (pieces : List (List Char)) :
    parseParts (piece :: pieces) = (parseParts pieces).map (e :: ·) := by
  rw [parseParts, if_neg (mt List.isPrefixOf_iff_prefix.mp hopen), h]
  cases parseParts pieces <;> rfl

theorem exists_cut (h : ∀ f ∈ e.fields, WellFormed f) (hcut : ¬ Free boundary e.content.toList) :
    ∃ text after cut, crlf ++ printEntity e = crlf ++ text ++ (delimiter boundary ++ after) ∧
      ¬ delimiter boundary <:+: crlf ++ text ∧ parsePart (crlf ++ text) = some cut ∧ cut ≠ e := by
  have hoccurs : '\r' :: '\n' :: '-' :: '-' :: boundary <:+: crlf ++ e.content.toList :=
    not_not.mp hcut
  obtain ⟨before, after, hsplit, hfirst⟩ := exists_first_occurrence hoccurs
  rw [← delimiter_eq] at hsplit hfirst
  match before, hsplit, hfirst with
  | [], hsplit, _ =>
    refine ⟨printHeader e.fields, after, ⟨e.fields, ""⟩, ?_, ?_, parsePart_printHeader h, ?_⟩
    · rw [printEntity, hsplit, List.append_assoc]
      rfl
    · intro hheader
      have hblank : delimiter boundary <:+: crlf ++ (printHeader e.fields ++ (crlf ++ [])) := by
        rw [← List.append_assoc]
        exact List.infix_append_of_infix_left hheader
      have hlength := ((delimiter_infix_printHeader h []).mp hblank).length_le
      rw [length_delimiter] at hlength
      simp [crlf] at hlength
    · intro heq
      have hempty : e.content = "" := (congrArg Entity.content heq).symm
      have hlength := congrArg List.length hsplit
      simp [crlf, length_delimiter, hempty] at hlength
      omega
  | [c], hsplit, _ => cases hsplit
  | c :: d :: before, hsplit, hfirst =>
    obtain ⟨rfl, hrest⟩ := List.cons.inj hsplit
    obtain ⟨rfl, hcontent⟩ := List.cons.inj hrest
    replace hcontent : e.content.toList = before ++ (delimiter boundary ++ after) := hcontent
    have htext : printEntity ⟨e.fields, String.ofList before⟩ =
        printHeader e.fields ++ (crlf ++ before) := by
      rw [printEntity, String.toList_ofList]
    refine ⟨printHeader e.fields ++ (crlf ++ before), after, ⟨e.fields, String.ofList before⟩,
      ?_, ?_, ?_, ?_⟩
    · rw [printEntity, hcontent]
      simp only [List.append_assoc]
    · rwa [delimiter_infix_printHeader h]
    · rw [← htext]
      exact parsePart_printEntity h
    · intro heq
      have hsame : String.ofList before = e.content := congrArg Entity.content heq
      have hlength := congrArg List.length hcontent
      rw [← hsame, String.toList_ofList] at hlength
      simp [length_delimiter] at hlength

theorem parseParts_printRest_iff (hboundary : '\r' ∉ boundary)
    (h : ∀ e ∈ parts, ∀ f ∈ e.fields, WellFormed f) :
    parseParts (splitSeq (delimiter boundary) (printRest boundary parts)) = some parts ↔
      ∀ e ∈ parts, Free boundary e.content.toList := by
  have htail := not_mem_delimiter_tail hboundary
  induction parts with
  | nil =>
    have hfree : ¬ delimiter boundary <:+: printRest boundary [] := by
      intro hoccurs
      rw [printRest, delimiter_eq, infix_append_of_not_mem (by decide)] at hoccurs
      have hlength := hoccurs.length_le
      simp [crlf] at hlength
    rw [splitSeq_of_absent hfree]
    exact iff_of_true rfl (by simp)
  | cons e parts ih =>
    rw [List.forall_mem_cons] at h ⊢
    by_cases hfree : Free boundary e.content.toList
    · have hpiece : ¬ delimiter boundary <:+: crlf ++ printEntity e := by
        rwa [printEntity, delimiter_infix_printHeader h.1]
      have hsplit := splitSeq_append htail hpiece (printRest boundary parts)
      rw [← delimiter_eq] at hsplit
      rw [printRest, hsplit, parseParts_cons (parsePart_printEntity h.1) (not_closing _),
        and_iff_right hfree]
      refine Iff.trans ?_ (ih h.2)
      simp
    · obtain ⟨text, after, cut, heq, hfirst, hcut, hne⟩ := exists_cut h.1 hfree
      have hsplit := splitSeq_append htail hfirst
        (after ++ (delimiter boundary ++ printRest boundary parts))
      rw [← delimiter_eq, ← List.append_assoc (delimiter boundary), ← List.append_assoc, ← heq]
        at hsplit
      rw [printRest, hsplit, parseParts_cons hcut (not_closing _)]
      refine iff_of_false ?_ fun hall => hfree hall.1
      simp [hne]

/-- The parts are read back exactly when no content has a line that begins as a delimiter. -/
theorem parseMultipart_printMultipart_iff (hboundary : '\r' ∉ boundary)
    (h : ∀ e ∈ parts, ∀ f ∈ e.fields, WellFormed f) :
    parseMultipart boundary (printMultipart boundary parts) = some parts ↔
      ∀ e ∈ parts, Free boundary e.content.toList := by
  rw [← parseParts_printRest_iff hboundary h, parseMultipart, printMultipart]
  have hfirst := splitSeq_separator '\r' ('\n' :: '-' :: '-' :: boundary)
    (printRest boundary parts)
  rw [← delimiter_eq] at hfirst
  rw [← List.append_assoc]
  exact iff_of_eq (congrArg (fun pieces => parseParts pieces.tail = some parts) hfirst)

theorem declaredBoundary_eq {mediaType : String} (value : String)
    (hfound : fields.find? (fun f => f.name = "Content-Type") = some ⟨"Content-Type", value⟩)
    (hvalue : value.toList = mediaType.toList ++ "; boundary=\"".toList ++ (boundary ++ ['"']))
    (hquote : '"' ∉ boundary) : declaredBoundary mediaType fields = some boundary := by
  have hstarts : (mediaType.toList ++ "; boundary=\"".toList).isPrefixOf value.toList = true :=
    List.isPrefixOf_iff_prefix.mpr ⟨_, hvalue.symm⟩
  have hplain : ∀ c ∈ boundary, decide (c ≠ '"') = true := fun c hc =>
    decide_eq_true fun heq => hquote (heq ▸ hc)
  rw [declaredBoundary, hfound]
  simp only [hstarts, if_true]
  rw [hvalue, List.drop_left, List.takeWhile_append_of_pos hplain]
  simp

/-- A message that declares its boundary is read back exactly when its contents are free
of it. -/
theorem parseMessage_printMessage_iff {mediaType : String} {message : MultipartMessage}
    (hfields : ∀ f ∈ message.fields, WellFormed f)
    (hdeclared : declaredBoundary mediaType message.fields = some boundary)
    (hboundary : '\r' ∉ boundary) (hparts : ∀ e ∈ message.parts, ∀ f ∈ e.fields, WellFormed f) :
    parseMessage mediaType (printMessage boundary message) = some message ↔
      ∀ e ∈ message.parts, Free boundary e.content.toList := by
  have hentity : parseEntity (printMessage boundary message) = some ⟨message.fields,
      String.ofList (printMultipart boundary message.parts)⟩ := by
    have hprint : printMessage boundary message = printEntity ⟨message.fields,
        String.ofList (printMultipart boundary message.parts)⟩ := by
      rw [printMessage, printEntity, String.toList_ofList]
    rw [hprint]
    exact parseEntity_printEntity hfields
  rw [← parseMultipart_printMultipart_iff hboundary hparts, parseMessage, hentity]
  simp only [Option.bind_eq_bind, Option.bind_some, hdeclared, String.toList_ofList]
  cases parseMultipart boundary (printMultipart boundary message.parts) with
  | none => simp
  | some parts =>
    constructor
    · intro h
      exact congrArg some (congrArg MultipartMessage.parts (Option.some.inj h))
    · intro h
      rw [Option.some.inj h]
      rfl

end Statora.Library
