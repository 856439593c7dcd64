import CodeDigest.Toml.Quoted
import CodeDigest.Toml.Scalar

/-!
# The statements of a TOML document

A document is a list of statements, one a line: a value for a key, the head of a table, or the head
of one more table in an array of tables.  Keys are paths.  Tables within a line follow the same
rules for their keys as a document does, so they are kept as lists of assignments here.
-/

namespace CodeDigest.Toml

/-- The table that is built from assignments, if they do not contradict each other. -/
abbrev Assemble := List (List String × Json) → Option Json

/-- A statement. -/
inductive Statement where
  | assign (path : List String) (value : Json)
  | table (path : List String)
  | arrayTable (path : List String)

/-- Drops the blanks of a line. -/
def dropBlanks (cs : List Char) : List Char := cs.dropWhile fun c => c == ' ' || c == '\t'

/-- What follows a comment, if one stands in front. -/
def afterComment : List Char → List Char
  | '#' :: rest => rest.dropWhile fun c => !isControl c
  | cs => cs

/-- What follows the rest of a line, which holds nothing but blanks and a comment. -/
def afterLine? (cs : List Char) : Option (List Char) :=
  match afterComment (dropBlanks cs) with
  | [] => some []
  | cs => afterNewline? cs

/-- Drops blanks, newlines and comments between the elements of an array. -/
def dropSpace : (count : Nat) → List Char → List Char
  | 0, cs => cs
  | count + 1, cs =>
    let cs := dropBlanks cs
    match afterNewline? (afterComment cs) with
    | some rest => dropSpace count rest
    | none => cs

/-- A character of a key without quotes. -/
def isKeyChar (c : Char) : Bool := c.isAlphanum || c == '_' || c == '-'

/-- Reads one part of a key. -/
def keyPart? (cs : List Char) : Option (String × List Char) :=
  match cs with
  | '"' :: rest => (basic? [] (cs.length + 1) rest).map fun (s, rest) => (String.ofList s, rest)
  | '\'' :: rest => (literal? [] rest).map fun (s, rest) => (String.ofList s, rest)
  | _ =>
    let part := cs.takeWhile isKeyChar
    if part.isEmpty then none else some (String.ofList part, cs.dropWhile isKeyChar)

/-- Reads a key with the blanks around its parts. -/
def key? : (count : Nat) → List Char → Option (List String × List Char)
  | 0, _ => none
  | count + 1, cs => do
    let (part, rest) ← keyPart? (dropBlanks cs)
    match dropBlanks rest with
    | '.' :: rest => (key? count rest).map fun (parts, rest) => (part :: parts, rest)
    | rest => return ([part], rest)

/-- How deep values may nest. -/
def nestingLimit : Nat := 80

mutual

/-- Reads a value; `depth` is how much deeper it may nest. -/
def value? (assemble : Assemble) : (count depth : Nat) → List Char → Option (Json × List Char)
  | 0, _, _ => none
  | _, 0, _ => none
  | count + 1, depth + 1, cs =>
    match cs with
    | '[' :: rest => elements? assemble [] count depth rest
    | '{' :: rest =>
      match dropBlanks rest with
      | '}' :: rest => some (.object [], rest)
      | rest => pairs? assemble [] count depth rest
    | c :: _ =>
      if c == '"' || c == '\'' then
        (string? cs).map fun (s, rest) => (.string (String.ofList s), rest)
      else readScalar? cs
    | [] => none

/-- Reads the elements of an array behind those in `done`. -/
def elements? (assemble : Assemble) (done : List Json) :
    (count depth : Nat) → List Char → Option (Json × List Char)
  | 0, _, _ => none
  | count + 1, depth, cs =>
    match dropSpace cs.length cs with
    | ']' :: rest => some (.array done.reverse, rest)
    | cs =>
      match value? assemble count depth cs with
      | none => none
      | some (v, rest) =>
        match dropSpace rest.length rest with
        | ',' :: rest => elements? assemble (v :: done) count depth rest
        | ']' :: rest => some (.array (v :: done).reverse, rest)
        | _ => none

/-- Reads the assignments of a table within a line behind those in `done`. -/
def pairs? (assemble : Assemble) (done : List (List String × Json)) :
    (count depth : Nat) → List Char → Option (Json × List Char)
  | 0, _, _ => none
  | count + 1, depth, cs =>
    match key? (cs.length + 1) cs with
    | some (path, '=' :: rest) =>
      match value? assemble count depth (dropBlanks rest) with
      | none => none
      | some (v, rest) =>
        match dropBlanks rest with
        | ',' :: rest => pairs? assemble ((path, v) :: done) count depth rest
        | '}' :: rest => (assemble ((path, v) :: done).reverse).map fun v => (v, rest)
        | _ => none
    | _ => none

end

/-- Reads the head of a table behind its opening bracket. -/
def head? (cs : List Char) : Option (Statement × List Char) :=
  match cs with
  | '[' :: rest =>
    match key? (cs.length + 1) rest with
    | some (path, ']' :: ']' :: rest) => some (.arrayTable path, rest)
    | _ => none
  | _ =>
    match key? (cs.length + 1) cs with
    | some (path, ']' :: rest) => some (.table path, rest)
    | _ => none

/-- Reads an assignment. -/
def assignment? (assemble : Assemble) (cs : List Char) : Option (Statement × List Char) :=
  match key? (cs.length + 1) cs with
  | some (path, '=' :: rest) =>
    (value? assemble (2 * cs.length + 2) nestingLimit (dropBlanks rest)).map
      fun (v, rest) => (.assign path v, rest)
  | _ => none

/-- Reads statements to the end behind those in `done`. -/
def statementsFrom? (assemble : Assemble) (done : List Statement) :
    (count : Nat) → List Char → Option (List Statement)
  | 0, _ => none
  | count + 1, cs =>
    match afterLine? cs with
    | some [] => some done.reverse
    | some rest => statementsFrom? assemble done count rest
    | none =>
      let read :=
        match dropBlanks cs with
        | '[' :: rest => head? rest
        | cs => assignment? assemble cs
      match read with
      | none => none
      | some (statement, rest) =>
        match afterLine? rest with
        | some rest => statementsFrom? assemble (statement :: done) count rest
        | none => none

/-- The statements of a document. -/
def statements? (assemble : Assemble) (text : String) : Option (List Statement) :=
  let cs := text.toList
  let cs := if cs.head? == some (Char.ofNat 0xFEFF) then cs.drop 1 else cs
  statementsFrom? assemble [] (cs.length + 1) cs

end CodeDigest.Toml
