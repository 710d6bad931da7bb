import Statora.Incidents.Service

/-!
# The text of a document in the browser

The web client derives the plain text of a rich text document by itself. It reads the
fields of a node without a test for null, so a document with a null node makes it
throw, and the `trim` of its language takes other characters for white space.
-/

namespace Statora.Web
open Incidents (textOf flattenContent flattenArray flattenNodes flattenRichTextNode
  derivePlainText)

/-- The errors of the language that reading a document can raise. -/
inductive TypeError
  | nullProperty (name : String)
  | notFunction (name : String)
  deriving DecidableEq, Repr

/-- White space and line terminators of `String.prototype.trim`. -/
def isWhiteSpace (c : Char) : Bool :=
  c = ' ' || ('\t' ≤ c && c ≤ '\r') || c = '\u00A0' || c = '\u1680' ||
    ('\u2000' ≤ c && c ≤ '\u200A') || c = '\u2028' || c = '\u2029' || c = '\u202F' ||
    c = '\u205F' || c = '\u3000' || c = '\uFEFF'

def trimString (s : String) : String := String.ofList (Library.trim isWhiteSpace s.toList)

def utf16Length (s : String) : ℕ :=
  (s.toList.map fun c => if c.toNat < 0x10000 then 1 else 2).sum

def truthy : JSONValue → Bool
  | .null => false
  | .bool value => value
  | .number value => value ≠ 0
  | .string text => text ≠ ""
  | .array _ | .object _ => true

def lengthOf : JSONValue → Option JSONValue
  | .null | .bool _ | .number _ => none
  | .string text => some (.number (utf16Length text))
  | .array items => some (.number items.length)
  | .object fields => fields.lookup "length"

mutual

def extractNode : JSONValue → Except TypeError (List String)
  | .null => .error (.nullProperty "text")
  | .object fields => do
    let directText := textOf fields
    let nestedContent ← extractContent fields
    return directText ++ nestedContent
  | _ => .ok []

def extractContent : List (String × JSONValue) → Except TypeError (List String)
  | [] => .ok []
  | (name, value) :: fields =>
    if name = "content" then extractArray value else extractContent fields

def extractArray : JSONValue → Except TypeError (List String)
  | .array items => extractText items
  | _ => .ok []

def extractText : List JSONValue → Except TypeError (List String)
  | [] => .ok []
  | node :: nodes => do
    let text ← extractNode node
    let texts ← extractText nodes
    return text ++ texts

end

def getPlainTextFromRichText (document : RichTextDocument) : Except TypeError String :=
  match document.bind (·.lookup "content") with
  | none => .ok ""
  | some content =>
    if !(lengthOf content).any truthy then .ok ""
    else
      match content with
      | .array items => do
        let texts ← extractText items
        return trimString ("\n".intercalate texts)
      | _ => .error (.notFunction "flatMap")

structure IncidentContent where
  text : String
  json : RichTextDocument

def getIncidentContent (description : String) (descriptionJSON : RichTextDocument) :
    Except TypeError IncidentContent := do
  let derivedText ← getPlainTextFromRichText descriptionJSON
  return {
    text := if derivedText ≠ "" then derivedText else description
    json := descriptionJSON }

mutual

def subtree : JSONValue → List JSONValue
  | .object fields => .object fields :: below fields
  | node => [node]

def below : List (String × JSONValue) → List JSONValue
  | [] => []
  | (name, value) :: fields => if name = "content" then listed value else below fields

def listed : JSONValue → List JSONValue
  | .array items => forest items
  | _ => []

def forest : List JSONValue → List JSONValue
  | [] => []
  | node :: nodes => subtree node ++ forest nodes

end

def nodeText : JSONValue → List String
  | .object fields => textOf fields
  | _ => []

def isNull : JSONValue → Bool
  | .null => true
  | _ => false

def texts (nodes : List JSONValue) : List String := nodes.flatMap nodeText

theorem texts_append (nodes nodes' : List JSONValue) :
    texts (nodes ++ nodes') = texts nodes ++ texts nodes' := List.flatMap_append

mutual

theorem flattenRichTextNode_eq : ∀ node, flattenRichTextNode node = texts (subtree node)
  | .object fields => by
    rw [flattenRichTextNode, flattenContent_eq fields, subtree]
    rfl
  | .null | .bool _ | .number _ | .string _ | .array _ => rfl

theorem flattenContent_eq : ∀ fields, flattenContent fields = texts (below fields)
  | [] => rfl
  | (name, value) :: fields => by
    rw [flattenContent, below]
    split_ifs
    · exact flattenArray_eq value
    · exact flattenContent_eq fields

theorem flattenArray_eq : ∀ value, flattenArray value = texts (listed value)
  | .array items => flattenNodes_eq items
  | .null | .bool _ | .number _ | .string _ | .object _ => rfl

theorem flattenNodes_eq : ∀ nodes, flattenNodes nodes = texts (forest nodes)
  | [] => rfl
  | node :: nodes => by
    rw [flattenNodes, forest, texts_append, flattenRichTextNode_eq node, flattenNodes_eq nodes]

end

def readTexts (nodes : List JSONValue) : Except TypeError (List String) :=
  if nodes.any isNull then .error (.nullProperty "text") else .ok (texts nodes)

theorem readTexts_append (nodes nodes' : List JSONValue) :
    readTexts (nodes ++ nodes') = do
      let first ← readTexts nodes
      let rest ← readTexts nodes'
      return first ++ rest := by
  unfold readTexts
  rw [List.any_append, texts_append]
  cases nodes.any isNull <;> cases nodes'.any isNull <;> rfl

theorem readTexts_object (fields : List (String × JSONValue)) (nodes : List JSONValue) :
    readTexts (.object fields :: nodes) = do
      let rest ← readTexts nodes
      return textOf fields ++ rest := by
  unfold readTexts
  rw [List.any_cons]
  cases nodes.any isNull <;> rfl

mutual

theorem extractNode_eq : ∀ node, extractNode node = readTexts (subtree node)
  | .object fields => by
    rw [extractNode, extractContent_eq fields, subtree, readTexts_object]
  | .null | .bool _ | .number _ | .string _ | .array _ => rfl

theorem extractContent_eq : ∀ fields, extractContent fields = readTexts (below fields)
  | [] => rfl
  | (name, value) :: fields => by
    rw [extractContent, below]
    split_ifs
    · exact extractArray_eq value
    · exact extractContent_eq fields

theorem extractArray_eq : ∀ value, extractArray value = readTexts (listed value)
  | .array items => extractText_eq items
  | .null | .bool _ | .number _ | .string _ | .object _ => rfl

theorem extractText_eq : ∀ nodes, extractText nodes = readTexts (forest nodes)
  | [] => rfl
  | node :: nodes => by
    rw [extractText, forest, readTexts_append, extractNode_eq node, extractText_eq nodes]

end

end Statora.Web
