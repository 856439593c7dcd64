import CodeDigest.Json.Reader
import CodeDigest.Text.Pieces
import CodeDigest.Toml.Quoted
import CodeDigest.Toml.Scalar

/-!
# Values in environment variables

The text of a variable is read as a switch, a number, a quoted text, a list in brackets or a table
in braces.  A text that is none of these stands for itself.
-/

namespace CodeDigest.Variable

/-- An ASCII blank. -/
def isSpace (c : Char) : Bool :=
  c == ' ' || c == '\t' || c == '\n' || c == '\r' || c.toNat == 12

/-- Drops ASCII blanks in front. -/
def dropSpace (cs : List Char) : List Char := cs.dropWhile isSpace

/-- A character that ends a bare word. -/
def endsWord (c : Char) : Bool := [',', '{', '}', '[', ']'].contains c

/-- A character of a key without quotes. -/
def isKeyChar (c : Char) : Bool := c.isAlphanum || c == '_' || c == '-'

/-- The number that a word with a point denotes. -/
def float? (cs : List Char) : Option Json := do
  let (negative, cs) := Toml.sign cs
  let (mantissa, rest) := cs.span fun c => c != 'e' && c != 'E'
  let (front, behind) := mantissa.span (· != '.')
  let fraction := behind.drop 1
  let digits := front ++ fraction
  if behind.isEmpty || digits.isEmpty || !digits.all Char.isDigit then none
  let exponent : Int ←
    match rest with
    | [] => some 0
    | _ :: ds =>
      let (down, ds) := Toml.sign ds
      if ds.isEmpty || !ds.all Char.isDigit then none
      else
        let n : Int := Toml.valueIn 10 ds
        some (if down then -n else n)
  let x := Toml.nearestDouble digits (exponent - fraction.length)
  return .double (if negative then -x else x)

/-- The whole number that a word denotes, if it has 64 bits. -/
def whole? (cs : List Char) : Option Json :=
  let (negative, ds) := Toml.sign cs
  if ds.isEmpty || !ds.all Char.isDigit then none
  else
    let n := Toml.valueIn 10 ds
    if negative then if n ≤ 0x8000000000000000 then some (.int (-n)) else none
    else if n < 0x10000000000000000 then some (.nat n)
    else none

/-- The value of a bare word. -/
def word (cs : List Char) : Json :=
  ((float? cs).or (whole? cs)).getD (.string (String.ofList cs))

/-- Reads the text between double quotes. -/
def quoted? (cs : List Char) : Option (String × List Char) :=
  (Toml.basic? [] (cs.length + 1) cs).map fun (s, rest) => (String.ofList s, rest)

/-- Reads a key. -/
def key? (cs : List Char) : Option (String × List Char) :=
  match cs with
  | '"' :: rest => quoted? rest
  | _ =>
    let key := cs.takeWhile isKeyChar
    if key.isEmpty then none else some (String.ofList key, cs.dropWhile isKeyChar)

mutual

/-- Reads a value with the blanks around it. -/
def value? : (count : Nat) → List Char → Option (Json × List Char)
  | 0, _ => none
  | count + 1, cs =>
    let cs := dropSpace cs
    let read :=
      match cs with
      | '{' :: rest => pairs? [] count rest
      | '[' :: rest => elements? [] count rest
      | '"' :: rest => (quoted? rest).map fun (s, rest) => (.string s, rest)
      | '\'' :: c :: '\'' :: rest => some (.string (String.singleton c), rest)
      | '\'' :: _ => none
      | _ =>
        match Text.dropPrefix? "true".toList cs, Text.dropPrefix? "false".toList cs with
        | some rest, _ => some (.bool true, rest)
        | _, some rest => some (.bool false, rest)
        | none, none =>
          some (word (Text.trim (cs.takeWhile (!endsWord ·))), cs.dropWhile (!endsWord ·))
    read.map fun (v, rest) => (v, dropSpace rest)

/-- Reads the elements of a list behind those in `done`. -/
def elements? (done : List Json) : (count : Nat) → List Char → Option (Json × List Char)
  | 0, _ => none
  | count + 1, cs =>
    match cs with
    | ']' :: rest => some (.array done.reverse, rest)
    | _ =>
      match value? count cs with
      | some (v, ',' :: rest) => elements? (v :: done) count rest
      | some (v, ']' :: rest) => some (.array (v :: done).reverse, rest)
      | _ => none

/-- Reads the members of a table behind those in `done`. -/
def pairs? (done : List (String × Json)) : (count : Nat) → List Char → Option (Json × List Char)
  | 0, _ => none
  | count + 1, cs =>
    match cs with
    | '}' :: rest => some (.object done, rest)
    | _ =>
      match (key? (dropSpace cs)).map fun (key, rest) => (key, dropSpace rest) with
      | some (key, '=' :: rest) =>
        match value? count rest with
        | some (v, ',' :: rest) => pairs? (Json.putMember key v done) count rest
        | some (v, '}' :: rest) => some (.object (Json.putMember key v done), rest)
        | _ => none
      | _ => none

end

/-- The value of a variable with a given text. -/
def ofText (text : String) : Json :=
  let text := trimmed text
  match value? (text.toList.length + 1) text.toList with
  | some (v, []) => v
  | _ => .string text

end CodeDigest.Variable
