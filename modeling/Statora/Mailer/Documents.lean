import Statora.Mailer.Templates

/-!
# The documents of the mails

The template of each mail as a list of elements, and the document that a reader gets: the
template with the data in its holes, as it was before it was escaped.
-/

namespace Statora.Mailer
open Library
open Library.Markup (Arg Attribute Piece Token attributeFormat fill fillPieces formatOf
  joinTexts literal parseFormat print read)
open Notifications (IncidentEmailData MaintenanceEmailData)
open Status (zeroTime)

def tag (name : String) (attributes : List (String × String)) : Piece :=
  .token (.openTag name.toList (attributes.map fun a => ⟨a.1.toList, a.2.toList⟩))

def endTag (name : String) : Piece := .token (.close name.toList)

def lineBreak : Piece := .token (.void "br".toList [])

def words (s : String) : Piece := .token (.text s.toList)

def tagWith (name hole : String) (attributes : List (String × String)) : Piece :=
  .openTag name.toList
    ((hole.toList, none) :: attributes.map fun a => (a.1.toList, some a.2.toList))

def unsubscribeTemplate : List Piece :=
  [tag "p" [("style", "font-size:12px;color:#6b7280;margin-top:24px")],
    words "You are receiving this because you subscribed to status updates. ",
    tagWith "a" "href" [("style", "color:#6b7280")], words "Unsubscribe", endTag "a", endTag "p"]

def documentTemplate : List Piece :=
  [.token (.declaration "DOCTYPE html".toList), words "\n", tag "html" [], words "\n",
    tag "body" [("style", "margin:0;background:#f9fafb")], words "\n", tagWith "div" "style" [],
    words "\n", tag "h2" [("style", "margin:0 0 16px;font-size:18px")], .slot, endTag "h2",
    words "\n", .slot, words "\n", .slot, words "\n", endTag "div", words "\n", endTag "body",
    words "\n", endTag "html"]

def verificationTemplate : List Piece :=
  [tag "p" [], words "Hello,", endTag "p", tag "p" [],
    words "Please confirm your subscription to ", tag "strong" [], .slot, endTag "strong",
    words " status updates:", endTag "p", tag "p" [],
    tagWith "a" "href" [("style",
      "display:inline-block;background:#16a34a;color:#ffffff;padding:10px 18px;border-radius:6px;text-decoration:none")],
    words "Confirm subscription", endTag "a", endTag "p",
    tag "p" [("style", "font-size:13px;color:#6b7280")], words "Or copy this link: ", .slot,
    endTag "p", tag "p" [("style", "font-size:13px;color:#6b7280")],
    words "This link expires at ", .slot,
    words ". If you did not request this, ignore this email.", endTag "p"]

def incidentCreatedTemplate : List Piece :=
  [tag "p" [], words "A new incident was created on ", tag "strong" [], .slot, endTag "strong",
    words ".", endTag "p", tag "p" [], tag "strong" [], words "Title:", endTag "strong",
    words " ", .slot, lineBreak, tag "strong" [], words "Impact:", endTag "strong", words " ",
    .slot, lineBreak, tag "strong" [], words "Started:", endTag "strong", words " ", .slot,
    endTag "p", tag "div" [], .slot, endTag "div", tag "p" [], tagWith "a" "href" [],
    words "View details", endTag "a", endTag "p"]

def incidentResolvedTemplate : List Piece :=
  [tag "p" [("style", "color:#16a34a;font-weight:600")], words "✔ Incident resolved", endTag "p",
    tag "p" [], words "The incident ", tag "strong" [], .slot, endTag "strong", words " on ",
    tag "strong" [], .slot, endTag "strong", words " has been resolved at ", .slot, words ".",
    endTag "p", tag "div" [], .slot, endTag "div", tag "p" [], tagWith "a" "href" [],
    words "View details", endTag "a", endTag "p"]

def maintenanceTemplate : List Piece :=
  [tag "p" [], words "Maintenance on ", tag "strong" [], .slot, endTag "strong",
    words " has been scheduled or updated.", endTag "p", tag "p" [], tag "strong" [],
    words "Title:", endTag "strong", words " ", .slot, lineBreak, tag "strong" [],
    words "Window:", endTag "strong", words " ", .slot, words " → ", .slot, endTag "p",
    tag "div" [], .slot, endTag "div"]

def testTemplate : List Piece :=
  [tag "p" [], words "This is a ", tag "strong" [], words "test email", endTag "strong",
    words " from ", tag "strong" [], .slot, endTag "strong", words ".", endTag "p", tag "p" [],
    tag "strong" [], words "Provider:", endTag "strong", words " ", .slot, lineBreak,
    tag "strong" [], words "Sent at:", endTag "strong", words " ", .slot, lineBreak,
    tag "strong" [], words "Recipient:", endTag "strong", words " ", .slot, endTag "p",
    tag "p" [], words "If you received this, your mail configuration works.", endTag "p"]

theorem toList_of_literal {s : String} {cs : List Char} (h : s = String.ofList cs) :
    s.toList = cs := by
  rw [h, String.toList_ofList]

theorem toList_append_literal {s last : String} {cs ds : List Char} (hs : s.toList = cs)
    (h : last = String.ofList ds) : (s ++ last).toList = cs ++ ds := by
  rw [String.toList_append, hs, toList_of_literal h]

set_option maxRecDepth 8000 in
theorem parse_unsubscribeFormat :
    parseFormat unsubscribeFormat.toList = formatOf unsubscribeTemplate := by
  have hchars : unsubscribeFormat.toList = _ :=
    toList_append_literal (toList_of_literal rfl) rfl
  rw [hchars]
  decide +kernel

set_option maxRecDepth 8000 in
theorem parse_documentFormat : parseFormat documentFormat.toList = formatOf documentTemplate := by
  have hchars : documentFormat.toList = _ :=
    toList_append_literal (toList_of_literal rfl) rfl
  rw [hchars]
  decide +kernel

set_option maxRecDepth 8000 in
theorem parse_verificationFormat :
    parseFormat verificationFormat.toList = formatOf verificationTemplate := by
  have hchars : verificationFormat.toList = _ :=
    toList_append_literal (toList_append_literal (toList_append_literal (toList_append_literal
      (toList_append_literal (toList_of_literal rfl) rfl) rfl) rfl) rfl) rfl
  rw [hchars]
  decide +kernel

set_option maxRecDepth 8000 in
theorem parse_incidentCreatedFormat :
    parseFormat incidentCreatedFormat.toList = formatOf incidentCreatedTemplate := by
  have hchars : incidentCreatedFormat.toList = _ :=
    toList_append_literal (toList_append_literal (toList_of_literal rfl) rfl) rfl
  rw [hchars]
  decide +kernel

set_option maxRecDepth 8000 in
theorem parse_incidentResolvedFormat :
    parseFormat incidentResolvedFormat.toList = formatOf incidentResolvedTemplate := by
  have hchars : incidentResolvedFormat.toList = _ :=
    toList_append_literal (toList_append_literal (toList_of_literal rfl) rfl) rfl
  rw [hchars]
  decide +kernel

set_option maxRecDepth 8000 in
theorem parse_maintenanceFormat :
    parseFormat maintenanceFormat.toList = formatOf maintenanceTemplate := by
  have hchars : maintenanceFormat.toList = _ :=
    toList_append_literal (toList_of_literal rfl) rfl
  rw [hchars]
  decide +kernel

set_option maxRecDepth 8000 in
theorem parse_testFormat : parseFormat testFormat.toList = formatOf testTemplate := by
  have hchars : testFormat.toList = _ :=
    toList_append_literal (toList_append_literal (toList_of_literal rfl) rfl) rfl
  rw [hchars]
  decide +kernel

def shown (s : String) : Arg := .markup [.text s.toList]

def descriptionTokens (description : String) : List Token :=
  if trimSpace description = "" then []
  else [.openTag "p".toList [⟨"style".toList, "white-space:pre-line".toList⟩],
    .text (trimSpace description).toList, .close "p".toList]

def unsubscribeTokens (unsubscribeURL : String) : Option (List Token) :=
  if unsubscribeURL = "" then some []
  else fillPieces unsubscribeTemplate [.value unsubscribeURL.toList]

def page (title : String) (body : List Token) (unsubscribeURL : String) : Option (List Token) := do
  let unsub ← unsubscribeTokens unsubscribeURL
  fillPieces documentTemplate
    [.value layoutCSS.toList, shown title, .markup body, .markup unsub]

inductive Mail
  | verification (data : VerificationEmailData)
  | incidentCreated (data : IncidentEmailData)
  | incidentResolved (data : IncidentEmailData)
  | maintenanceCreated (data : MaintenanceEmailData)
  | maintenanceUpdated (data : MaintenanceEmailData)
  | test (data : TestEmailData)

section Mails
variable (upper : String → String)

def Mail.render : Mail → Except String Rendered
  | .verification data => renderVerificationEmail data
  | .incidentCreated data => .ok (renderIncidentCreatedEmail upper data)
  | .incidentResolved data => .ok (renderIncidentResolvedEmail data)
  | .maintenanceCreated data => .ok (renderMaintenanceCreatedEmail data)
  | .maintenanceUpdated data => .ok (renderMaintenanceUpdatedEmail data)
  | .test data => .ok (renderTestEmail data)

def Mail.title : Mail → String
  | .verification _ => "Confirm your subscription"
  | .incidentCreated data =>
    sprintf "[%s] New incident: %s" [siteOf data.siteName, data.incidentTitle]
  | .incidentResolved data =>
    sprintf "[%s] Resolved: %s" [siteOf data.siteName, data.incidentTitle]
  | .maintenanceCreated data =>
    sprintf "[%s] Scheduled maintenance: %s" [siteOf data.siteName, data.title]
  | .maintenanceUpdated data =>
    sprintf "[%s] Maintenance updated: %s" [siteOf data.siteName, data.title]
  | .test data => sprintf "[%s] Test email" [siteOf data.siteName]

def maintenanceBody (data : MaintenanceEmailData) : Option (List Token) :=
  fillPieces maintenanceTemplate [shown (siteOf data.siteName), shown data.title,
    shown (formatTime data.startTime), shown (formatTime data.endTime),
    .markup (descriptionTokens data.description)]

def Mail.body : Mail → Option (List Token)
  | .verification data => fillPieces verificationTemplate
      [shown (siteOf data.siteName), .value data.verificationURL.toList,
        shown data.verificationURL, shown (formatTime data.expiresAt)]
  | .incidentCreated data => fillPieces incidentCreatedTemplate
      [shown (siteOf data.siteName), shown data.incidentTitle, shown (impactOf upper data.impact),
        shown (formatTime data.startedAt), .markup (descriptionTokens data.description),
        .value data.incidentURL.toList]
  | .incidentResolved data => fillPieces incidentResolvedTemplate
      [shown data.incidentTitle, shown (siteOf data.siteName),
        shown (formatTime (data.resolvedAt.getD zeroTime)),
        .markup (descriptionTokens data.description), .value data.incidentURL.toList]
  | .maintenanceCreated data | .maintenanceUpdated data => maintenanceBody data
  | .test data => fillPieces testTemplate
      [shown (siteOf data.siteName),
        shown (if data.provider = "" then "unknown" else data.provider),
        shown (formatTime data.sentAt), shown data.recipient]

def Mail.unsubscribeURL : Mail → String
  | .incidentCreated data | .incidentResolved data => data.unsubscribeURL
  | .maintenanceCreated data | .maintenanceUpdated data => data.unsubscribeURL
  | .verification _ | .test _ => ""

/-- The document of a mail: its template with the data as they are. -/
def Mail.document (mail : Mail) : Option (List Token) := do
  page mail.title (← mail.body upper) mail.unsubscribeURL

def unsubscribeLinks (unsubscribeURL : String) : List String :=
  if unsubscribeURL = "" then [] else [unsubscribeURL]

/-- Where the links of a mail lead. -/
def Mail.links : Mail → List String
  | .verification data => [data.verificationURL]
  | .incidentCreated data | .incidentResolved data =>
    data.incidentURL :: unsubscribeLinks data.unsubscribeURL
  | .maintenanceCreated data | .maintenanceUpdated data => unsubscribeLinks data.unsubscribeURL
  | .test _ => []

end Mails

def linkOf : Token → Option String
  | .openTag name attributes =>
    if name = "a".toList then
      (attributes.find? fun a => a.name = "href".toList).map fun a => String.ofList a.value
    else none
  | _ => none

def linksOf (tokens : List Token) : List String := tokens.filterMap linkOf

@[simp] theorem linksOf_nil : linksOf [] = [] := rfl

@[simp] theorem linksOf_cons (t : Token) (tokens : List Token) :
    linksOf (t :: tokens) = (linkOf t).toList ++ linksOf tokens := by
  cases h : linkOf t <;> simp [linksOf, h]

@[simp] theorem linksOf_append (tokens tokens' : List Token) :
    linksOf (tokens ++ tokens') = linksOf tokens ++ linksOf tokens' := List.filterMap_append

theorem linksOf_addText (content : List Char) (tokens : List Token) :
    linksOf (Library.Markup.addText content tokens) = linksOf tokens := by
  unfold Library.Markup.addText
  split
  · rfl
  · split_ifs <;> rfl

theorem linksOf_joinTexts (tokens : List Token) : linksOf (joinTexts tokens) = linksOf tokens := by
  induction tokens with
  | nil => rfl
  | cons t tokens ih =>
    cases t with
    | text content => exact (linksOf_addText content (joinTexts tokens)).trans ih
    | _ => simp [joinTexts, ih]

theorem linksOf_descriptionTokens (description : String) :
    linksOf (descriptionTokens description) = [] := by
  unfold descriptionTokens
  split_ifs <;> rfl

theorem exists_unsubscribeTokens (unsubscribeURL : String) :
    ∃ tokens, unsubscribeTokens unsubscribeURL = some tokens ∧
      linksOf tokens = unsubscribeLinks unsubscribeURL := by
  unfold unsubscribeTokens unsubscribeLinks
  by_cases h : unsubscribeURL = ""
  · rw [if_pos h, if_pos h]
    exact ⟨[], rfl, rfl⟩
  · rw [if_neg h, if_neg h]
    refine ⟨_, rfl, ?_⟩
    simp [linkOf]

theorem exists_page (title : String) (body : List Token) (unsubscribeURL : String) :
    ∃ tokens, page title body unsubscribeURL = some tokens ∧
      linksOf tokens = linksOf body ++ unsubscribeLinks unsubscribeURL := by
  obtain ⟨unsub, hunsub, hlinks⟩ := exists_unsubscribeTokens unsubscribeURL
  unfold page
  rw [hunsub, ← hlinks]
  refine ⟨_, rfl, ?_⟩
  simp [linkOf]

theorem exists_body (upper : String → String) (mail : Mail) :
    ∃ body, mail.body upper = some body ∧
      mail.links = linksOf body ++ unsubscribeLinks mail.unsubscribeURL := by
  cases mail with
  | verification data | test data =>
    refine ⟨_, rfl, ?_⟩
    simp [linkOf, Mail.links, Mail.unsubscribeURL, unsubscribeLinks]
  | incidentCreated data | incidentResolved data | maintenanceCreated data
  | maintenanceUpdated data =>
    refine ⟨_, rfl, ?_⟩
    simp [linkOf, Mail.links, Mail.unsubscribeURL, linksOf_descriptionTokens]

theorem toList_escapeString (s : String) : (escapeString s).toList = Markup.escape s.toList :=
  String.toList_ofList

@[simp] theorem print_shown (s : String) : (shown s).print = Markup.escape s.toList := by
  simp [shown, Arg.print, Token.print]

@[simp] theorem print_value (content : List Char) :
    (Arg.value content).print = Markup.escape content := rfl

@[simp] theorem print_markup (tokens : List Token) : (Arg.markup tokens).print = print tokens :=
  rfl

theorem toList_sprintf {format : String} {pieces : List Piece} {values : List String}
    {args : List Arg} {tokens : List Token} (hformat : parseFormat format.toList = formatOf pieces)
    (hvalues : values.map String.toList = args.map Arg.print)
    (h : fillPieces pieces args = some tokens) :
    (sprintf format values).toList = print tokens := by
  rw [sprintf, String.toList_ofList, hformat, hvalues, Library.Markup.fill_formatOf h]

theorem escape_intercalate (lines : List (List Char)) :
    Markup.escape (['\n'].intercalate lines) = ['\n'].intercalate (lines.map Markup.escape) := by
  induction lines with
  | nil => rfl
  | cons line lines ih =>
    cases lines with
    | nil => simp
    | cons next lines =>
      have hbreak : Markup.escape ['\n'] = ['\n'] := by decide
      simp only [List.intercalate_cons_cons, List.map_cons, Library.Markup.escape_append, hbreak]
      simp only [List.map_cons] at ih
      rw [ih]

theorem toList_renderDescriptionHTML (description : String) :
    (renderDescriptionHTML description).toList = print (descriptionTokens description) := by
  unfold renderDescriptionHTML descriptionTokens
  split_ifs with h
  · rfl
  · have hopen : ("<p style=\"white-space:pre-line\">").toList =
        Token.print (.openTag "p".toList [⟨"style".toList, "white-space:pre-line".toList⟩]) := by
      decide +kernel
    have hclose : ("</p>").toList = Token.print (.close "p".toList) := by decide +kernel
    simp only [String.toList_append, String.toList_ofList, ← escape_intercalate,
      List.intercalate_splitOn, hopen, hclose]
    simp [Token.print]

def timeChars : List Char := ['-', ' ', ':', 'U', 'T', 'C']

theorem plain_of_time {c : Char} (h : c.isDigit = true ∨ c ∈ timeChars) :
    c ∉ Library.Markup.references.map Prod.fst := by
  intro hc
  have hspecial : (Library.Markup.references.map Prod.fst).all
      (fun c => !(c.isDigit || timeChars.contains c)) = true := by decide
  have hnot := List.all_eq_true.mp hspecial c hc
  rcases h with h | h <;> simp [h] at hnot

theorem time_of_mem_appendInt {x : ℤ} {width : ℕ} {c : Char} (h : c ∈ appendInt x width) :
    c.isDigit = true ∨ c ∈ timeChars := by
  unfold appendInt at h
  simp only [List.mem_append, List.mem_replicate] at h
  rcases h with (hsign | ⟨-, rfl⟩) | hdigit
  · split_ifs at hsign
    · rw [List.mem_singleton.mp hsign]
      decide
    · cases hsign
  · decide
  · exact Or.inl (Nat.isDigit_of_mem_toDigits (by decide) (by decide) hdigit)

theorem escape_formatTime (t : ℤ) :
    Markup.escape (formatTime t).toList = (formatTime t).toList := by
  refine Library.Markup.escape_of_plain fun c hc => plain_of_time ?_
  unfold formatTime formatDate at hc
  split_ifs at hc
  · cases hc
  · simp only [String.toList_append, String.toList_ofList, List.mem_append, List.mem_cons] at hc
    have hliteral : ∀ s : String, s.toList.all (timeChars.contains ·) = true → c ∈ s.toList →
        c.isDigit = true ∨ c ∈ timeChars :=
      fun s hs hmem => Or.inr (List.contains_iff_mem.mp (List.all_eq_true.mp hs c hmem))
    rcases hc with
      ((((hyear | rfl | hmonth) | rfl | hday) | hspace) | hhour | rfl | hminute) | hutc
    · exact time_of_mem_appendInt hyear
    · decide
    · exact time_of_mem_appendInt hmonth
    · decide
    · exact time_of_mem_appendInt hday
    · exact hliteral " " (by decide) hspace
    · exact time_of_mem_appendInt hhour
    · decide
    · exact time_of_mem_appendInt hminute
    · exact hliteral " UTC" (by decide) hutc

theorem toList_unsubscribe {unsubscribeURL : String} {tokens : List Token}
    (h : unsubscribeTokens unsubscribeURL = some tokens) :
    (if unsubscribeURL ≠ "" then sprintf unsubscribeFormat [escapeString unsubscribeURL]
      else "").toList = print tokens := by
  unfold unsubscribeTokens at h
  by_cases hempty : unsubscribeURL = ""
  · rw [if_pos hempty] at h
    cases h
    rw [if_neg (not_not.mpr hempty)]
    rfl
  · rw [if_neg hempty] at h
    rw [if_pos hempty]
    refine toList_sprintf parse_unsubscribeFormat ?_ h
    simp [toList_escapeString]

theorem toList_renderHTMLDocument {title body unsubscribeURL : String} {content tokens : List Token}
    (hbody : body.toList = print content) (h : page title content unsubscribeURL = some tokens) :
    (renderHTMLDocument title body unsubscribeURL).toList = print tokens := by
  obtain ⟨unsub, hunsub, hpage⟩ := Option.bind_eq_some_iff.mp h
  have hlayout : Markup.escape layoutCSS.toList = layoutCSS.toList := by decide +kernel
  refine toList_sprintf parse_documentFormat ?_ hpage
  simp only [List.map_cons, List.map_nil, toList_escapeString, toList_unsubscribe hunsub, hbody,
    print_value, print_shown, print_markup, hlayout]

theorem toList_maintenanceHTML {data : MaintenanceEmailData} {body : List Token}
    (h : maintenanceBody data = some body) :
    (maintenanceHTML (siteOf data.siteName) data).toList = print body := by
  refine toList_sprintf parse_maintenanceFormat ?_ h
  simp [toList_escapeString, escape_formatTime, toList_renderDescriptionHTML]

theorem toList_html {upper : String → String} {mail : Mail} {rendered : Rendered}
    (hrender : mail.render upper = .ok rendered) {body tokens : List Token}
    (hbody : mail.body upper = some body)
    (hpage : page mail.title body mail.unsubscribeURL = some tokens) :
    rendered.html.toList = print tokens := by
  cases mail with
  | verification data =>
    change renderVerificationEmail data = _ at hrender
    unfold renderVerificationEmail at hrender
    split_ifs at hrender
    cases hrender
    refine toList_renderHTMLDocument (toList_sprintf parse_verificationFormat ?_ hbody) hpage
    simp [toList_escapeString, escape_formatTime]
  | incidentCreated data =>
    cases hrender
    refine toList_renderHTMLDocument (toList_sprintf parse_incidentCreatedFormat ?_ hbody) hpage
    simp [toList_escapeString, escape_formatTime, toList_renderDescriptionHTML]
  | incidentResolved data =>
    cases hrender
    refine toList_renderHTMLDocument (toList_sprintf parse_incidentResolvedFormat ?_ hbody) hpage
    simp [toList_escapeString, escape_formatTime, toList_renderDescriptionHTML]
  | maintenanceCreated data | maintenanceUpdated data =>
    cases hrender
    exact toList_renderHTMLDocument (toList_maintenanceHTML hbody) hpage
  | test data =>
    cases hrender
    refine toList_renderHTMLDocument (toList_sprintf parse_testFormat ?_ hbody) hpage
    simp [toList_escapeString, escape_formatTime]

theorem wellFormed_descriptionTokens (description : String) :
    ∀ t ∈ descriptionTokens description, t.WellFormed := by
  unfold descriptionTokens
  split_ifs
  · exact List.forall_mem_nil _
  · simp [Token.WellFormed, Library.Markup.IsName]

theorem wellFormed_shown (s : String) : (shown s).WellFormed := by
  simp [shown, Arg.WellFormed, Token.WellFormed]

theorem wellFormed_value (content : List Char) : (Arg.value content).WellFormed := trivial

theorem wellFormed_description (description : String) :
    (Arg.markup (descriptionTokens description)).WellFormed :=
  wellFormed_descriptionTokens description

theorem wellFormed_body {upper : String → String} {mail : Mail} {body : List Token}
    (h : mail.body upper = some body) : ∀ t ∈ body, t.WellFormed := by
  cases mail <;> refine Library.Markup.wellFormed_fillPieces h (by decide +kernel) ?_ <;>
    simp [wellFormed_shown, wellFormed_value, wellFormed_description]

theorem wellFormed_page {title : String} {body : List Token} {unsubscribeURL : String}
    {tokens : List Token} (h : page title body unsubscribeURL = some tokens)
    (hbody : ∀ t ∈ body, t.WellFormed) : ∀ t ∈ tokens, t.WellFormed := by
  obtain ⟨unsub, hunsub, hpage⟩ := Option.bind_eq_some_iff.mp h
  have hlink : ∀ t ∈ unsub, t.WellFormed := by
    unfold unsubscribeTokens at hunsub
    split_ifs at hunsub
    · cases hunsub
      exact List.forall_mem_nil _
    · refine Library.Markup.wellFormed_fillPieces hunsub (by decide +kernel) ?_
      simp [Arg.WellFormed]
  refine Library.Markup.wellFormed_fillPieces hpage (by decide +kernel) ?_
  simp only [List.forall_mem_cons, wellFormed_shown, true_and]
  exact ⟨trivial, hbody, hlink, List.forall_mem_nil _⟩

/-- The document of a rendered mail is read as its template with the data of the mail in its
holes, whatever characters these have, and its links lead where the mail says. -/
theorem read_render (upper : String → String) (mail : Mail) {rendered : Rendered}
    (h : mail.render upper = .ok rendered) :
    ∃ tokens, mail.document upper = some tokens ∧
      read rendered.html.toList = some (joinTexts tokens) ∧
      linksOf (joinTexts tokens) = mail.links := by
  obtain ⟨body, hbody, hlinks⟩ := exists_body upper mail
  obtain ⟨tokens, hpage, hpageLinks⟩ := exists_page mail.title body mail.unsubscribeURL
  refine ⟨tokens, ?_, ?_, ?_⟩
  · rw [Mail.document, hbody]
    exact hpage
  · rw [toList_html h hbody hpage]
    exact Library.Markup.read_print (wellFormed_page hpage (wellFormed_body hbody))
  · rw [linksOf_joinTexts, hpageLinks, hlinks]

def markupIncident : IncidentEmailData where
  siteName := "Example \"Status\""
  incidentTitle := "</strong><a href='https://attacker.example'>&amp;</a>"
  incidentStatus := .investigating
  impact := .major
  description := "<b>down</b>\nstill down"
  startedAt := 0
  resolvedAt := none
  incidentURL := "https://status.example/history?a=1&b=2"
  unsubscribeURL := "https://status.example/api/subscribe/unsubscribe?token=ab"

theorem read_render_markupIncident :
    ∃ tokens, (Mail.incidentCreated markupIncident).document String.toUpper = some tokens ∧
      read (renderIncidentCreatedEmail String.toUpper markupIncident).html.toList =
        some (joinTexts tokens) ∧
      linksOf (joinTexts tokens) = ["https://status.example/history?a=1&b=2",
        "https://status.example/api/subscribe/unsubscribe?token=ab"] :=
  read_render String.toUpper (.incidentCreated markupIncident) rfl

end Statora.Mailer
