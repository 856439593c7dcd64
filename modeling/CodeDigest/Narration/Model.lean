import CodeDigest.Failure
import CodeDigest.Narration.Prompt

/-!
# A language model as narrator

A `Model` turns a prompt and the schema of the wanted value into a JSON value, or fails.  Asked
through a model, a question has an answer as far as the value can be read as one, and none when the
model fails.  Values are read leniently: the field of the schema may be missing when the value
itself is what the field should hold, and a list may arrive as one text.
-/

namespace CodeDigest

/-- Turns a prompt and a schema into a value, remembering something of type `σ`. -/
abbrev Model (σ : Type) := (prompt : String) → (schema : Json) → StateM σ (Except Failure Json)

namespace Schema

/-- The schema of a text. -/
def text : Json := .object [("type", .string "string")]

/-- The schema of a list of texts. -/
def list : Json := .object [("type", .string "array"), ("items", text)]

/-- The schema of an object. -/
def record (properties : List (String × Json)) (required : List String) : Json :=
  .object
    [("type", .string "object"),
     ("properties", .object properties),
     ("required", .strings required)]

/-- The schema of an overview. -/
def overview : Json :=
  record
    [("project_name", text), ("description", text), ("purpose", text), ("key_technologies", list),
     ("architecture_pattern", text), ("main_features", list), ("dependencies", list)]
    ["project_name", "description", "purpose"]

end Schema

/-- The schema of the value that is asked for. -/
def Question.schema : Question → Json
  | complexity .. => Schema.record [("interpretation", Schema.text)] ["interpretation"]
  | method .. => Schema.record [("description", Schema.text)] ["description"]
  | aspects .. => Schema.record [("aspects", Schema.list)] ["aspects"]
  | recommendations _ => Schema.record [("recommendations", Schema.list)] ["recommendations"]
  | overview _ => Schema.overview

namespace ModelValue

/-- The texts that are not blank, trimmed. -/
def trimmedItems (texts : List String) : List String := texts.filterMap trimmed?

/-- A list, if it has elements. -/
def nonempty? (texts : List String) : Option (List String) :=
  if texts.isEmpty then none else some texts

/-- The text in a field, or the value itself when it is a text; a blank text counts as missing. -/
def text? (field : String) (value : Json) : Option String :=
  (match value with
    | .string s => some s
    | v => (v.get? field).bind Json.string?).bind trimmed?

/-- The texts in a field, or in the value itself when it is an array; one text is taken as a list
with commas. -/
def list? (field : String) (value : Json) : Option (List String) :=
  let target : Option Json :=
    match value with
    | .array xs => some (.array xs)
    | v => v.get? field
  match target with
  | some (.array xs) => nonempty? (trimmedItems (xs.filterMap Json.string?))
  | some (.string s) => nonempty? (trimmedItems (pieces ',' s))
  | _ => none

/-- The lines of the texts in a field, or in the value itself when it is an array or a text. -/
def lines? (field : String) (value : Json) : Option (List String) :=
  let target : Option Json :=
    match value with
    | .array xs => some (.array xs)
    | .string s => some (.string s)
    | v => v.get? field
  match target with
  | some (.array xs) => nonempty? ((xs.filterMap Json.string?).flatMap textLines)
  | some (.string s) => nonempty? (textLines s)
  | _ => none

/-- The text without quotation marks around it: first double ones, then single ones. -/
def unquoted (s : String) : String :=
  let strip (q : Char) (cs : List Char) : List Char :=
    ((cs.dropWhile (· == q)).reverse.dropWhile (· == q)).reverse
  String.ofList (Text.trim (strip '\'' (strip '"' (Text.trim s.toList))))

/-- The draft in a value. -/
def draft (value : Json) : OverviewDraft :=
  match value with
  | .object _ =>
    { projectName := text? "project_name" value
      description := text? "description" value
      purpose := text? "purpose" value
      keyTechnologies := list? "key_technologies" value
      architecturePattern := text? "architecture_pattern" value
      mainFeatures := list? "main_features" value
      dependencies := list? "dependencies" value }
  | _ => .empty

end ModelValue

/-- Reads a value as an answer. -/
def Question.readAnswer : (q : Question) → Json → q.Answer
  | complexity .., value => ModelValue.text? "interpretation" value
  | method .., value =>
    ((ModelValue.text? "description" value).map ModelValue.unquoted).filter (!·.isEmpty)
  | aspects .., value => ModelValue.lines? "aspects" value
  | recommendations _, value => (ModelValue.list? "recommendations" value).getD []
  | overview _, value =>
    let draft := ModelValue.draft value
    if draft = .empty then (none : Option OverviewDraft) else some draft

/-- The narrator that asks a model once for each question. -/
def Narrator.ofModel {σ : Type} (model : Model σ) : Narrator σ := fun q => do
  match ← model q.prompt q.schema with
  | .ok value => pure (q.readAnswer value)
  | .error _ => pure q.noAnswer

end CodeDigest
