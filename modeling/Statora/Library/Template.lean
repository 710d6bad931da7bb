import Statora.Library.Markup

/-!
# Markup templates

A format has holes that values are put into. When the format is that of a template, and
the values are escaped texts or markup that was written, filling the format gives what
writing the filled template gives.
-/

namespace Statora.Library.Markup

abbrev Format := List (Option Char)

/-- The format of a text in which `%s` stands for a hole. -/
def parseFormat : List Char → Format
  | '%' :: 's' :: cs => none :: parseFormat cs
  | c :: cs => some c :: parseFormat cs
  | [] => []

def missing : List Char := "%!s(MISSING)".toList

def fill : Format → List (List Char) → List Char
  | [], _ => []
  | some c :: format, values => c :: fill format values
  | none :: format, value :: values => value ++ fill format values
  | none :: format, [] => missing ++ fill format []

def literal (cs : List Char) : Format := cs.map some

@[simp] theorem fill_literal_append (cs : List Char) (format : Format)
    (values : List (List Char)) :
    fill (literal cs ++ format) values = cs ++ fill format values := by
  induction cs with
  | nil => rfl
  | cons c cs ih => exact congrArg (c :: ·) ih

inductive Arg
  | value (content : List Char)
  | markup (tokens : List Token)

def Arg.print : Arg → List Char
  | .value content => escape content
  | .markup tokens => Markup.print tokens

/-- A token, a hole for markup, or a tag with holes for values of attributes. -/
inductive Piece
  | token (t : Token)
  | slot
  | openTag (name : List Char) (attributes : List (List Char × Option (List Char)))

def holeFormat : Option (List Char) → Format
  | some value => literal (escape value)
  | none => [none]

def attributeFormat (a : List Char × Option (List Char)) : Format :=
  literal (' ' :: a.1 ++ ['=', '"']) ++ (holeFormat a.2 ++ literal ['"'])

def Piece.format : Piece → Format
  | .token t => literal t.print
  | .slot => [none]
  | .openTag name attributes =>
    literal ('<' :: name) ++ (attributes.flatMap attributeFormat ++ literal ['>'])

def formatOf (pieces : List Piece) : Format := pieces.flatMap Piece.format

def fillAttributes : List (List Char × Option (List Char)) → List Arg →
    Option (List Attribute × List Arg)
  | [], args => some ([], args)
  | (name, some value) :: attributes, args =>
    (fillAttributes attributes args).map fun filled => (⟨name, value⟩ :: filled.1, filled.2)
  | (name, none) :: attributes, .value content :: args =>
    (fillAttributes attributes args).map fun filled => (⟨name, content⟩ :: filled.1, filled.2)
  | (_, none) :: _, _ => none

def fillPieces : List Piece → List Arg → Option (List Token)
  | [], [] => some []
  | [], _ :: _ => none
  | .token t :: pieces, args => (fillPieces pieces args).map (t :: ·)
  | .slot :: pieces, .markup tokens :: args => (fillPieces pieces args).map (tokens ++ ·)
  | .slot :: _, _ => none
  | .openTag name attributes :: pieces, args =>
    (fillAttributes attributes args).bind fun filled =>
      (fillPieces pieces filled.2).map (.openTag name filled.1 :: ·)

theorem fill_attributes {attributes : List (List Char × Option (List Char))} {args rest : List Arg}
    {filled : List Attribute} (h : fillAttributes attributes args = some (filled, rest))
    (format : Format) :
    fill (attributes.flatMap attributeFormat ++ format) (args.map Arg.print) =
      filled.flatMap Attribute.print ++ fill format (rest.map Arg.print) := by
  induction attributes generalizing args filled with
  | nil =>
    simp only [fillAttributes, Option.some.injEq, Prod.mk.injEq] at h
    obtain ⟨rfl, rfl⟩ := h
    rfl
  | cons a attributes ih =>
    obtain ⟨name, value | value⟩ := a
    · cases args with
      | nil => simp [fillAttributes] at h
      | cons arg args =>
        cases arg with
        | markup tokens => simp [fillAttributes] at h
        | value content =>
          rw [fillAttributes] at h
          obtain ⟨⟨others, left⟩, hothers, heq⟩ := Option.map_eq_some_iff.mp h
          obtain ⟨rfl, rfl⟩ := Prod.mk.inj heq
          simp [attributeFormat, holeFormat, fill, ih hothers, Attribute.print, Arg.print]
    · rw [fillAttributes] at h
      obtain ⟨⟨others, left⟩, hothers, heq⟩ := Option.map_eq_some_iff.mp h
      obtain ⟨rfl, rfl⟩ := Prod.mk.inj heq
      simp [attributeFormat, holeFormat, ih hothers, Attribute.print]

/-- Filling the format of a template writes the filled template. -/
theorem fill_formatOf {pieces : List Piece} {args : List Arg} {tokens : List Token}
    (h : fillPieces pieces args = some tokens) :
    fill (formatOf pieces) (args.map Arg.print) = print tokens := by
  induction pieces generalizing args tokens with
  | nil =>
    cases args with
    | nil =>
      cases h
      rfl
    | cons arg args => cases h
  | cons piece pieces ih =>
    rw [formatOf, List.flatMap_cons, ← formatOf]
    cases piece with
    | token t =>
      rw [fillPieces] at h
      obtain ⟨others, hothers, rfl⟩ := Option.map_eq_some_iff.mp h
      simp [Piece.format, ih hothers]
    | slot =>
      cases args with
      | nil => cases h
      | cons arg args =>
        cases arg with
        | value content => cases h
        | markup inserted =>
          rw [fillPieces] at h
          obtain ⟨others, hothers, rfl⟩ := Option.map_eq_some_iff.mp h
          simp [Piece.format, fill, ih hothers, Arg.print]
    | openTag name attributes =>
      obtain ⟨⟨filled, rest⟩, hfilled, hmap⟩ := Option.bind_eq_some_iff.mp h
      obtain ⟨others, hothers, rfl⟩ := Option.map_eq_some_iff.mp hmap
      simp [Piece.format, fill_attributes hfilled, ih hothers, Token.print]

def Piece.WellFormed : Piece → Prop
  | .token t => t.WellFormed
  | .slot => True
  | .openTag name attributes => IsName name ∧ ∀ a ∈ attributes, IsName a.1

instance : DecidablePred Piece.WellFormed
  | .token t => inferInstanceAs (Decidable t.WellFormed)
  | .slot => isTrue trivial
  | .openTag name attributes =>
    inferInstanceAs (Decidable (IsName name ∧ ∀ a ∈ attributes, IsName a.1))

def Arg.WellFormed : Arg → Prop
  | .value _ => True
  | .markup tokens => ∀ t ∈ tokens, t.WellFormed

theorem wellFormed_fillAttributes {attributes : List (List Char × Option (List Char))}
    {args rest : List Arg} {filled : List Attribute}
    (h : fillAttributes attributes args = some (filled, rest))
    (hnames : ∀ a ∈ attributes, IsName a.1) (hargs : ∀ arg ∈ args, arg.WellFormed) :
    (∀ a ∈ filled, IsName a.name) ∧ ∀ arg ∈ rest, arg.WellFormed := by
  induction attributes generalizing args filled with
  | nil =>
    simp only [fillAttributes, Option.some.injEq, Prod.mk.injEq] at h
    obtain ⟨rfl, rfl⟩ := h
    exact ⟨List.forall_mem_nil _, hargs⟩
  | cons a attributes ih =>
    rw [List.forall_mem_cons] at hnames
    obtain ⟨name, value | value⟩ := a
    · cases args with
      | nil => simp [fillAttributes] at h
      | cons arg args =>
        cases arg with
        | markup tokens => simp [fillAttributes] at h
        | value content =>
          rw [fillAttributes] at h
          obtain ⟨⟨others, left⟩, hothers, heq⟩ := Option.map_eq_some_iff.mp h
          obtain ⟨rfl, rfl⟩ := Prod.mk.inj heq
          have hrest := ih hothers hnames.2 (List.forall_mem_cons.mp hargs).2
          exact ⟨List.forall_mem_cons.mpr ⟨hnames.1, hrest.1⟩, hrest.2⟩
    · rw [fillAttributes] at h
      obtain ⟨⟨others, left⟩, hothers, heq⟩ := Option.map_eq_some_iff.mp h
      obtain ⟨rfl, rfl⟩ := Prod.mk.inj heq
      have hrest := ih hothers hnames.2 hargs
      exact ⟨List.forall_mem_cons.mpr ⟨hnames.1, hrest.1⟩, hrest.2⟩

theorem wellFormed_fillPieces {pieces : List Piece} {args : List Arg} {tokens : List Token}
    (h : fillPieces pieces args = some tokens) (hpieces : ∀ p ∈ pieces, p.WellFormed)
    (hargs : ∀ arg ∈ args, arg.WellFormed) : ∀ t ∈ tokens, t.WellFormed := by
  induction pieces generalizing args tokens with
  | nil =>
    cases args with
    | nil =>
      cases h
      exact List.forall_mem_nil _
    | cons arg args => cases h
  | cons piece pieces ih =>
    rw [List.forall_mem_cons] at hpieces
    cases piece with
    | token t =>
      rw [fillPieces] at h
      obtain ⟨others, hothers, rfl⟩ := Option.map_eq_some_iff.mp h
      exact List.forall_mem_cons.mpr ⟨hpieces.1, ih hothers hpieces.2 hargs⟩
    | slot =>
      cases args with
      | nil => cases h
      | cons arg args =>
        cases arg with
        | value content => cases h
        | markup inserted =>
          rw [fillPieces] at h
          obtain ⟨others, hothers, rfl⟩ := Option.map_eq_some_iff.mp h
          rw [List.forall_mem_cons] at hargs
          exact List.forall_mem_append.mpr ⟨hargs.1, ih hothers hpieces.2 hargs.2⟩
    | openTag name attributes =>
      obtain ⟨⟨filled, rest⟩, hfilled, hmap⟩ := Option.bind_eq_some_iff.mp h
      obtain ⟨others, hothers, rfl⟩ := Option.map_eq_some_iff.mp hmap
      have hattributes := wellFormed_fillAttributes hfilled hpieces.1.2 hargs
      exact List.forall_mem_cons.mpr
        ⟨⟨hpieces.1.1, hattributes.1⟩, ih hothers hpieces.2 hattributes.2⟩

end Statora.Library.Markup
