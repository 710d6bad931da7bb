import Statora.Library.InternetMessage

/-!
# The bytes of a mail

`buildMessage` writes the header and the two bodies of a mail with a fixed boundary. It is
read back exactly when neither body has a line that begins with the boundary.
-/

namespace Statora.Mailer
open Library (Field Entity WellFormed MultipartMessage printLine printHeader printMessage crlf
  parseMessage Free)

structure SMTPMailer where
  fromEmail : String
  fromName : String
  deriving DecidableEq, Repr

structure Message where
  to_ : String
  subject : String
  textBody : String
  htmlBody : String
  unsubscribeURL : String
  deriving DecidableEq, Repr

def boundary : String := "statora-boundary-3f9a1c"

/-- `encode` is `mime.QEncoding.Encode` for UTF-8. -/
def fromValue (encode : String → String) (m : SMTPMailer) : String :=
  if m.fromName ≠ "" then encode m.fromName ++ " <" ++ m.fromEmail ++ ">" else m.fromEmail

def writePart (contentType body : String) : String :=
  "--" ++ boundary ++ "\r\n" ++
  "Content-Type: " ++ contentType ++ "; charset=UTF-8\r\n" ++
  "Content-Transfer-Encoding: 8bit\r\n" ++
  "\r\n" ++
  body ++
  "\r\n"

def buildMessage (encode : String → String) (m : SMTPMailer) (msg : Message) : String :=
  "From: " ++ fromValue encode m ++ "\r\n" ++
  "To: " ++ msg.to_ ++ "\r\n" ++
  "Subject: " ++ encode msg.subject ++ "\r\n" ++
  (if msg.unsubscribeURL ≠ "" then "List-Unsubscribe: <" ++ msg.unsubscribeURL ++ ">\r\n"
    else "") ++
  "MIME-Version: 1.0\r\n" ++
  "Content-Type: multipart/alternative; boundary=\"" ++ boundary ++ "\"\r\n" ++
  "\r\n" ++
  writePart "text/plain" msg.textBody ++
  writePart "text/html" msg.htmlBody ++
  "--" ++ boundary ++ "--\r\n"

def writtenFields (encode : String → String) (m : SMTPMailer) (msg : Message) : List Field :=
  [⟨"From", fromValue encode m⟩, ⟨"To", msg.to_⟩, ⟨"Subject", encode msg.subject⟩] ++
    (if msg.unsubscribeURL ≠ "" then
      [⟨"List-Unsubscribe", "<" ++ msg.unsubscribeURL ++ ">"⟩]
    else []) ++
    [⟨"MIME-Version", "1.0"⟩,
      ⟨"Content-Type", "multipart/alternative; boundary=\"" ++ boundary ++ "\""⟩]

def partOf (contentType body : String) : Entity :=
  ⟨[⟨"Content-Type", contentType ++ "; charset=UTF-8"⟩, ⟨"Content-Transfer-Encoding", "8bit"⟩],
    body⟩

def written (encode : String → String) (m : SMTPMailer) (msg : Message) : MultipartMessage :=
  ⟨writtenFields encode m msg, [partOf "text/plain" msg.textBody, partOf "text/html" msg.htmlBody]⟩

def fieldLine (f : Field) : String := f.name ++ ": " ++ f.value ++ "\r\n"

theorem toList_fieldLine (f : Field) : (fieldLine f).toList = printLine f ++ crlf := by
  rw [fieldLine, String.toList_append, String.toList_append, String.toList_append, printLine,
    List.append_assoc, List.append_assoc, List.append_assoc, List.append_assoc]
  rfl

theorem toList_dashBoundary :
    ("--" ++ boundary).toList = Library.dashBoundary boundary.toList := by
  rw [String.toList_append]
  rfl

theorem writePart_eq (contentType body : String) : writePart contentType body =
    "--" ++ boundary ++ ("\r\n" ++ (fieldLine ⟨"Content-Type", contentType ++ "; charset=UTF-8"⟩ ++
      (fieldLine ⟨"Content-Transfer-Encoding", "8bit"⟩ ++ ("\r\n" ++ (body ++ "\r\n"))))) := by
  have htype : "Content-Type: " = "Content-Type" ++ ": " := by simp
  have hcharset : "; charset=UTF-8\r\n" = "; charset=UTF-8" ++ "\r\n" := by simp
  have hencoding : "Content-Transfer-Encoding: 8bit\r\n" =
      "Content-Transfer-Encoding" ++ (": " ++ ("8bit" ++ "\r\n")) := by simp
  simp only [writePart, fieldLine, htype, hcharset, hencoding, String.append_assoc]

theorem toList_writePart (contentType body : String) :
    (writePart contentType body).toList = Library.dashBoundary boundary.toList ++
      (crlf ++ (Library.printEntity (partOf contentType body) ++ crlf)) := by
  rw [writePart_eq, String.toList_append, String.toList_append, String.toList_append,
    String.toList_append, String.toList_append, String.toList_append, toList_fieldLine,
    toList_fieldLine, String.toList_append, partOf, Library.printEntity, printHeader]
  simp only [List.flatMap_cons, List.flatMap_nil, List.append_nil, List.append_assoc]
  rfl

theorem buildMessage_eq (encode : String → String) (m : SMTPMailer) (msg : Message) :
    buildMessage encode m msg = fieldLine ⟨"From", fromValue encode m⟩ ++
      (fieldLine ⟨"To", msg.to_⟩ ++ (fieldLine ⟨"Subject", encode msg.subject⟩ ++
        ((if msg.unsubscribeURL ≠ "" then
            fieldLine ⟨"List-Unsubscribe", "<" ++ msg.unsubscribeURL ++ ">"⟩
          else "") ++
          (fieldLine ⟨"MIME-Version", "1.0"⟩ ++ (fieldLine ⟨"Content-Type",
              "multipart/alternative; boundary=\"" ++ boundary ++ "\""⟩ ++ ("\r\n" ++
            (writePart "text/plain" msg.textBody ++ (writePart "text/html" msg.htmlBody ++
              ("--" ++ boundary ++ "--\r\n"))))))))) := by
  have hfrom : "From: " = "From" ++ ": " := by simp
  have hto : "To: " = "To" ++ ": " := by simp
  have hsubject : "Subject: " = "Subject" ++ ": " := by simp
  have hunsubscribe : "List-Unsubscribe: <" = "List-Unsubscribe" ++ (": " ++ "<") := by simp
  have hclose : ">\r\n" = ">" ++ "\r\n" := by simp
  have hversion : "MIME-Version: 1.0\r\n" = "MIME-Version" ++ (": " ++ ("1.0" ++ "\r\n")) := by simp
  have htype : "Content-Type: multipart/alternative; boundary=\"" =
      "Content-Type" ++ (": " ++ "multipart/alternative; boundary=\"") := by simp
  have hquote : "\"\r\n" = "\"" ++ "\r\n" := by simp
  unfold buildMessage fieldLine
  rw [hfrom, hto, hsubject, hunsubscribe, hclose, hversion, htype, hquote]
  simp only [String.append_assoc]

theorem buildMessage_eq_printMessage (encode : String → String) (m : SMTPMailer) (msg : Message) :
    (buildMessage encode m msg).toList =
      printMessage boundary.toList (written encode m msg) := by
  have hunsubscribe : (if msg.unsubscribeURL ≠ "" then
      fieldLine ⟨"List-Unsubscribe", "<" ++ msg.unsubscribeURL ++ ">"⟩ else "").toList =
      printHeader (if msg.unsubscribeURL ≠ "" then
        [⟨"List-Unsubscribe", "<" ++ msg.unsubscribeURL ++ ">"⟩] else []) := by
    split_ifs
    · rw [toList_fieldLine, printHeader, List.flatMap_singleton]
    · rfl
  have hend : ("--" ++ boundary ++ "--\r\n").toList =
      Library.dashBoundary boundary.toList ++ ("--".toList ++ crlf) := by
    rw [String.toList_append, toList_dashBoundary]
    rfl
  rw [buildMessage_eq]
  rw [String.toList_append, String.toList_append, String.toList_append, String.toList_append,
    String.toList_append, String.toList_append, String.toList_append, String.toList_append,
    String.toList_append, hunsubscribe, hend, toList_writePart, toList_writePart]
  simp only [toList_fieldLine, printMessage, written, writtenFields, printHeader,
    List.flatMap_append, List.flatMap_cons, List.flatMap_nil, List.append_nil, List.append_assoc,
    Library.printMultipart, Library.printRest, Library.delimiter]
  rfl

def Unbroken (s : String) : Prop := ∀ c ∈ s.toList, c ≠ '\r' ∧ c ≠ '\n'

instance (s : String) : Decidable (Unbroken s) :=
  decidable_of_iff (s.toList.all fun c => decide (c ≠ '\r' ∧ c ≠ '\n'))
    (List.all_eq_true.trans (forall₂_congr fun _ _ => decide_eq_true_iff))

structure QEncoding (encode decode : String → String) : Prop where
  unbroken : ∀ s, Unbroken (encode s)
  decode_encode : ∀ s, decode (encode s) = s

structure Addressed (m : SMTPMailer) (msg : Message) : Prop where
  sender : Unbroken m.fromEmail
  recipient : Unbroken msg.to_
  unsubscribeURL : Unbroken msg.unsubscribeURL

structure ReadsBack (encode decode : String → String) (m : SMTPMailer) (msg : Message)
    (message : MultipartMessage) : Prop where
  fields : message.fields = writtenFields encode m msg
  subject : (message.fields.find? (fun f => f.name = "Subject")).map (fun f => decode f.value) =
    some msg.subject
  parts : message.parts = [partOf "text/plain" msg.textBody, partOf "text/html" msg.htmlBody]

def Decodes (encode decode : String → String) (m : SMTPMailer) (msg : Message) : Prop :=
  ∃ message, parseMessage "multipart/alternative" (buildMessage encode m msg).toList =
    some message ∧ ReadsBack encode decode m msg message

variable {encode decode : String → String} {m : SMTPMailer} {msg : Message}

theorem not_mem_toList {s : String} (h : Unbroken s) : '\r' ∉ s.toList :=
  fun hmem => (h _ hmem).1 rfl

def fieldNames : List String :=
  ["From", "To", "Subject", "List-Unsubscribe", "MIME-Version", "Content-Type",
    "Content-Transfer-Encoding"]

theorem wellFormed_of_name {name value : String} (hname : name ∈ fieldNames)
    (hvalue : '\r' ∉ value.toList) : WellFormed ⟨name, value⟩ := by
  have hall : ∀ name ∈ fieldNames, name.toList ≠ [] ∧
      name.toList.all (fun c => decide (c ≠ ':' ∧ c ≠ '\r')) ∧
      name.toList.head?.all (fun c => decide (c ≠ '-' ∧ Library.isWSP c = false)) := by
    decide +kernel
  obtain ⟨hnonempty, hplain, hstart⟩ := hall name hname
  refine ⟨hnonempty, fun c hc => ?_, fun c hc => ?_, hvalue⟩
  · exact of_decide_eq_true (List.all_eq_true.mp hplain c hc)
  · exact of_decide_eq_true ((Option.all_eq_true _ _).mp hstart c hc)

theorem not_mem_fromValue (hQ : QEncoding encode decode) (h : Addressed m msg) :
    '\r' ∉ (fromValue encode m).toList := by
  have hname := not_mem_toList (hQ.unbroken m.fromName)
  have hemail := not_mem_toList h.sender
  unfold fromValue
  split_ifs
  · simp [String.toList_append, hname, hemail]
  · exact hemail

theorem wellFormed_writtenFields (hQ : QEncoding encode decode) (h : Addressed m msg) :
    ∀ f ∈ writtenFields encode m msg, WellFormed f := by
  have hlink : '\r' ∉ ("<" ++ msg.unsubscribeURL ++ ">").toList := by
    simp [String.toList_append, not_mem_toList h.unsubscribeURL]
  intro f hf
  simp only [writtenFields, List.mem_append, List.mem_cons, List.not_mem_nil, or_false] at hf
  rcases hf with ((rfl | rfl | rfl) | hunsubscribe) | rfl | rfl
  · exact wellFormed_of_name (by decide) (not_mem_fromValue hQ h)
  · exact wellFormed_of_name (by decide) (not_mem_toList h.recipient)
  · exact wellFormed_of_name (by decide) (not_mem_toList (hQ.unbroken _))
  · split_ifs at hunsubscribe
    · rw [List.mem_singleton.mp hunsubscribe]
      exact wellFormed_of_name (by decide) hlink
    · cases hunsubscribe
  · exact wellFormed_of_name (by decide) (by decide)
  · exact wellFormed_of_name (by decide) (by decide +kernel)

theorem wellFormed_partOf {contentType : String} (h : '\r' ∉ contentType.toList) (body : String) :
    ∀ f ∈ (partOf contentType body).fields, WellFormed f := by
  intro f hf
  simp only [partOf, List.mem_cons, List.not_mem_nil, or_false] at hf
  rcases hf with rfl | rfl
  · refine wellFormed_of_name (by decide) ?_
    simp [String.toList_append, h]
  · exact wellFormed_of_name (by decide) (by decide)

theorem declaredBoundary_writtenFields (encode : String → String) (m : SMTPMailer)
    (msg : Message) :
    Library.declaredBoundary "multipart/alternative" (writtenFields encode m msg) =
      some boundary.toList := by
  refine Library.declaredBoundary_eq
    ("multipart/alternative; boundary=\"" ++ boundary ++ "\"") ?_ ?_ (by decide)
  · unfold writtenFields
    split_ifs <;> simp
  · decide +kernel

theorem parseMessage_buildMessage_iff (hQ : QEncoding encode decode) (h : Addressed m msg) :
    parseMessage "multipart/alternative" (buildMessage encode m msg).toList =
        some (written encode m msg) ↔
      Free boundary.toList msg.textBody.toList ∧ Free boundary.toList msg.htmlBody.toList := by
  have hparts : ∀ e ∈ (written encode m msg).parts, ∀ f ∈ e.fields, WellFormed f := by
    intro e he
    simp only [written, List.mem_cons, List.not_mem_nil, or_false] at he
    rcases he with rfl | rfl <;> exact wellFormed_partOf (by decide) _
  rw [buildMessage_eq_printMessage, Library.parseMessage_printMessage_iff
    (wellFormed_writtenFields hQ h) (declaredBoundary_writtenFields encode m msg) (by decide)
    hparts]
  simp [written, partOf]

theorem Decodes.parse_eq (h : Decodes encode decode m msg) :
    parseMessage "multipart/alternative" (buildMessage encode m msg).toList =
      some (written encode m msg) := by
  obtain ⟨message, hparse, hreads⟩ := h
  rw [hparse, written, ← hreads.fields, ← hreads.parts]

theorem decodes_of_parse_eq (hQ : QEncoding encode decode)
    (h : parseMessage "multipart/alternative" (buildMessage encode m msg).toList =
      some (written encode m msg)) : Decodes encode decode m msg := by
  have hfound : (written encode m msg).fields.find? (fun f => f.name = "Subject") =
      some ⟨"Subject", encode msg.subject⟩ := by
    simp [written, writtenFields]
  refine ⟨written encode m msg, h, rfl, ?_, rfl⟩
  rw [hfound, Option.map_some, hQ.decode_encode]

/-- A mail is read back exactly when neither body has a line that begins with the boundary. -/
theorem buildMessage_decodes_iff (hQ : QEncoding encode decode) (h : Addressed m msg) :
    Decodes encode decode m msg ↔
      Free boundary.toList msg.textBody.toList ∧ Free boundary.toList msg.htmlBody.toList := by
  rw [← parseMessage_buildMessage_iff hQ h]
  exact ⟨Decodes.parse_eq, decodes_of_parse_eq hQ⟩

def escape : Char → List Char
  | '\r' => ['=', 'D']
  | '\n' => ['=', 'A']
  | '=' => ['=', '=']
  | c => [c]

def unescape : List Char → List Char
  | '=' :: 'D' :: rest => '\r' :: unescape rest
  | '=' :: 'A' :: rest => '\n' :: unescape rest
  | '=' :: '=' :: rest => '=' :: unescape rest
  | c :: rest => c :: unescape rest
  | [] => []

def plainEncode (s : String) : String := String.ofList (s.toList.flatMap escape)

def plainDecode (s : String) : String := String.ofList (unescape s.toList)

theorem escape_unbroken (c : Char) : ∀ d ∈ escape c, d ≠ '\r' ∧ d ≠ '\n' := by
  unfold escape
  split <;> simp_all

theorem unescape_cons {c : Char} (h : c ≠ '=') (rest : List Char) :
    unescape (c :: rest) = c :: unescape rest := by
  conv_lhs => unfold unescape
  split <;> simp_all

theorem unescape_escape (cs : List Char) : unescape (cs.flatMap escape) = cs := by
  induction cs with
  | nil => rfl
  | cons c cs ih =>
    rw [List.flatMap_cons]
    by_cases hspecial : c = '\r' ∨ c = '\n' ∨ c = '='
    · rcases hspecial with rfl | rfl | rfl <;> exact congrArg _ ih
    · rw [not_or, not_or] at hspecial
      have hplain : escape c = [c] := by
        unfold escape
        split <;> simp_all
      rw [hplain, List.singleton_append, unescape_cons hspecial.2.2, ih]

theorem qEncoding_plain : QEncoding plainEncode plainDecode where
  unbroken s := by
    intro c hc
    rw [plainEncode, String.toList_ofList, List.mem_flatMap] at hc
    obtain ⟨d, -, hd⟩ := hc
    exact escape_unbroken d c hd
  decode_encode s := by
    rw [plainDecode, plainEncode, String.toList_ofList, unescape_escape, String.ofList_toList]

def statusMailer : SMTPMailer := { fromEmail := "status@example.com", fromName := "Statora" }

def outageMail (textBody : String) : Message where
  to_ := "sub@example.com"
  subject := "[Status] New incident: Outage"
  textBody := textBody
  htmlBody := "<p>Outage</p>"
  unsubscribeURL := "https://status.example.com/api/subscribe/unsubscribe?token=t"

theorem addressed_outageMail (textBody : String) :
    Addressed statusMailer (outageMail textBody) where
  sender := show Unbroken "status@example.com" by decide +kernel
  recipient := show Unbroken "sub@example.com" by decide +kernel
  unsubscribeURL :=
    show Unbroken "https://status.example.com/api/subscribe/unsubscribe?token=t" by decide +kernel

theorem buildMessage_decodes_iff_outage :
    Decodes plainEncode plainDecode statusMailer (outageMail "Outage\r\n--statora") ↔
      Free boundary.toList "Outage\r\n--statora".toList ∧
        Free boundary.toList "<p>Outage</p>".toList :=
  buildMessage_decodes_iff qEncoding_plain (addressed_outageMail _)

theorem boundaryLine_lost :
    QEncoding plainEncode plainDecode ∧
      Addressed statusMailer (outageMail "Outage\r\n--statora-boundary-3f9a1c--") ∧
      ¬ Decodes plainEncode plainDecode statusMailer
        (outageMail "Outage\r\n--statora-boundary-3f9a1c--") := by
  refine ⟨qEncoding_plain, addressed_outageMail _, fun h => ?_⟩
  have hfree := (parseMessage_buildMessage_iff qEncoding_plain (addressed_outageMail _)).mp
    h.parse_eq
  exact absurd hfree.1 (by decide +kernel)

end Statora.Mailer
