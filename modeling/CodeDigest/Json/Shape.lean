import CodeDigest.Json.Reader

/-!
# Reading a part of a JSON text

A `Shape` says what is wanted of a value: nothing, a value that is no container, the elements of a
list, or some fields of a record.  `readShape?` follows a text and builds a value with what is
wanted.  What is not wanted has to be well formed and no more than that: its numbers may be too
large, and its objects may have a key twice.  A field that is wanted may be there once at most.

A record can also be written as the array of its fields.
-/

namespace CodeDigest.Json

/-- What is wanted of a value. -/
inductive Shape where
  | ignored
  /-- The value, if it is no container. -/
  | scalar
  | list (element : Shape)
  | record (fields : List (String × Shape))

namespace Shape

/-- A record whose fields are no containers. -/
def scalars (names : List String) : Shape := record (names.map fun name => (name, scalar))

/-- Whether anything is wanted. -/
def isWanted : Shape → Bool
  | ignored => false
  | _ => true

/-- What is wanted of the first elements of an array and of those behind them, if the value may be
one. -/
def elements? : Shape → Option (List Shape × Shape)
  | ignored => some ([], ignored)
  | scalar => none
  | list element => some ([], element)
  | record fields => some (fields.map Prod.snd, ignored)

/-- The fields that are wanted of an object, if the value may be one. -/
def fields? : Shape → Option (List (String × Shape))
  | ignored => some []
  | record fields => some fields
  | scalar | list _ => none

end Shape

/-! ## Leaves -/

/-- Splits off the text of a string up to its closing quotation mark, which is part of it. -/
def stringText? : List Char → Option (List Char × List Char)
  | [] => none
  | '"' :: cs => some (['"'], cs)
  | '\\' :: 'u' :: a :: b :: c :: d :: cs =>
    if [a, b, c, d].all fun digit => (hexValue? digit).isSome then
      (stringText? cs).map fun (text, rest) => ('\\' :: 'u' :: a :: b :: c :: d :: text, rest)
    else none
  | '\\' :: letter :: cs =>
    if (simpleEscape? letter).isSome then
      (stringText? cs).map fun (text, rest) => ('\\' :: letter :: text, rest)
    else none
  | c :: cs =>
    if c.toNat < 0x20 then none
    else (stringText? cs).map fun (text, rest) => (c :: text, rest)

/-- Whether a character can stand in a number or in a literal. -/
def isLeafChar (c : Char) : Bool := isNumberChar c || c.isAlpha

/-- Whether a text is a number, however large, or a literal. -/
def isLeafText (text : List Char) : Bool :=
  text == "null".toList || text == "true".toList || text == "false".toList
    || (Numeral.ofText? text).isSome

/-- Splits off the text of a value that is no container. -/
def leafText? : List Char → Option (List Char × List Char)
  | '"' :: cs => (stringText? cs).map fun (text, rest) => ('"' :: text, rest)
  | cs =>
    let text := cs.takeWhile isLeafChar
    if isLeafText text then some (text, cs.dropWhile isLeafChar) else none

/-- Reads a value that is no container; what is not wanted counts as null. -/
def readLeaf (wanted : Bool) (cs : List Char) : Option (Json × List Char) := do
  let (text, rest) ← leafText? cs
  if wanted then (read? text).map fun v => (v, rest) else some (.null, rest)

/-! ## Containers -/

/-- A text without the blanks in front. -/
def withoutBlanks (cs : List Char) : List Char := cs.dropWhile isSpace

/-- Reads a key and the colon behind it. -/
def readKey (cs : List Char) : Option (String × List Char) :=
  match withoutBlanks cs with
  | '"' :: cs =>
    match readLeaf true ('"' :: cs) with
    | some (.string key, rest) =>
      match withoutBlanks rest with
      | ':' :: rest => some (key, rest)
      | _ => none
    | _ => none
  | _ => none

/-- An object with the members that are wanted of it, unless one of them is there twice. -/
def distinctObject? (ms : List (String × Json)) : Option Json :=
  if (ms.map Prod.fst).Nodup then some (.object ms) else none

mutual

/-- Reads what is wanted of a value. -/
def readShape : (fuel : Nat) → Shape → List Char → Option (Json × List Char)
  | 0, _, _ => none
  | fuel + 1, shape, cs =>
    match withoutBlanks cs with
    | '[' :: cs => do
      let (first, others) ← shape.elements?
      match withoutBlanks cs with
      | ']' :: rest => some (.array [], rest)
      | _ => (readElements fuel first others cs).map fun (vs, rest) => (.array vs, rest)
    | '{' :: cs => do
      let fields ← shape.fields?
      match withoutBlanks cs with
      | '}' :: rest => some (.object [], rest)
      | _ => do
        let (ms, rest) ← readMembers fuel fields cs
        (distinctObject? ms).map fun v => (v, rest)
    | cs => readLeaf shape.isWanted cs

/-- Reads what is wanted of the elements of an array, up to the bracket that closes it. -/
def readElements : (fuel : Nat) → (first : List Shape) → (others : Shape) → List Char →
    Option (List Json × List Char)
  | 0, _, _, _ => none
  | fuel + 1, first, others, cs => do
    let (v, cs) ← readShape fuel (first.headD others) cs
    match withoutBlanks cs with
    | ']' :: rest => some ([v], rest)
    | ',' :: cs => (readElements fuel first.tail others cs).map fun (vs, rest) => (v :: vs, rest)
    | _ => none

/-- Reads the members of an object that are wanted, up to the brace that closes it. -/
def readMembers : (fuel : Nat) → (fields : List (String × Shape)) → List Char →
    Option (List (String × Json) × List Char)
  | 0, _, _ => none
  | fuel + 1, fields, cs => do
    let (key, cs) ← readKey cs
    let (v, cs) ← readShape fuel ((fields.lookup key).getD .ignored) cs
    let found := if (fields.lookup key).isSome then [(key, v)] else []
    match withoutBlanks cs with
    | '}' :: rest => some (found, rest)
    | ',' :: cs => (readMembers fuel fields cs).map fun (ms, rest) => (found ++ ms, rest)
    | _ => none

end

/-- What is wanted of a text. -/
def readShape? (shape : Shape) (text : String) : Option Json :=
  match readShape (text.length + 1) shape text.toList with
  | some (v, rest) => if rest.all isSpace then some v else none
  | none => none

end CodeDigest.Json
