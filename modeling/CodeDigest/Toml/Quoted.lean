import CodeDigest.Json.Reader

/-!
# Strings in TOML

There are four forms: with escapes between double quotes, as written between single quotes, and both
over several lines between three quotes.  Each reader stands behind the opening quotes and gives the
text and what follows the closing quotes.
-/

namespace CodeDigest.Toml

/-- A character that no text may hold as it is; tabs are fine. -/
def isControl (c : Char) : Bool := (c.toNat < 0x20 && c != '\t') || c.toNat == 0x7F

/-- What follows a newline. -/
def afterNewline? : List Char → Option (List Char)
  | '\n' :: rest => some rest
  | '\r' :: '\n' :: rest => some rest
  | _ => none

/-- The character with a code of some hexadecimal digits. -/
def codePoint? (count : Nat) (cs : List Char) : Option (Char × List Char) := do
  let ds ← (cs.take count).mapM Json.hexValue?
  let n := ds.foldl (fun n d => 16 * n + d) 0
  if ds.length == count && (n < 0xD800 || (0xE000 ≤ n && n < 0x110000)) then
    return (Char.ofNat n, cs.drop count)
  else none

/-- The character that an escape stands for, behind its backslash. -/
def escaped? : List Char → Option (Char × List Char)
  | 'b' :: rest => some (Char.ofNat 8, rest)
  | 't' :: rest => some ('\t', rest)
  | 'n' :: rest => some ('\n', rest)
  | 'f' :: rest => some (Char.ofNat 12, rest)
  | 'r' :: rest => some ('\r', rest)
  | '"' :: rest => some ('"', rest)
  | '\\' :: rest => some ('\\', rest)
  | 'u' :: rest => codePoint? 4 rest
  | 'U' :: rest => codePoint? 8 rest
  | _ => none

/-- A text with the characters in front of it. -/
abbrev ReadText := Option (List Char × List Char)

/-- Reads the text between double quotes. -/
def basic? (done : List Char) : (count : Nat) → List Char → ReadText
  | 0, _ => none
  | count + 1, cs =>
    match cs with
    | '"' :: rest => some (done.reverse, rest)
    | '\\' :: rest =>
      match escaped? rest with
      | some (c, rest) => basic? (c :: done) count rest
      | none => none
    | c :: rest => if isControl c then none else basic? (c :: done) count rest
    | [] => none

/-- Reads the text between single quotes. -/
def literal? (done : List Char) : List Char → ReadText
  | '\'' :: rest => some (done.reverse, rest)
  | c :: rest => if isControl c then none else literal? (c :: done) rest
  | [] => none

/-- A run of quotes inside a text over several lines: fewer than three belong to the text, and of
more than two the last three close it. -/
def quoteRun (quote : Char) (cs : List Char) : Nat × List Char :=
  ((cs.takeWhile (· == quote)).length, cs.dropWhile (· == quote))

/-- Drops blanks and newlines. -/
def dropGap : List Char → List Char
  | ' ' :: rest => dropGap rest
  | '\t' :: rest => dropGap rest
  | '\n' :: rest => dropGap rest
  | '\r' :: '\n' :: rest => dropGap rest
  | cs => cs

/-- What follows a backslash at the end of a line, with the blanks and newlines behind it. -/
def afterLineEnd? (cs : List Char) : Option (List Char) :=
  (afterNewline? (cs.dropWhile fun c => c == ' ' || c == '\t')).map dropGap

/-- Reads a text over several lines; `escapes` says whether a backslash has a meaning. -/
def manyLines? (quote : Char) (escapes : Bool) (done : List Char) :
    (count : Nat) → List Char → ReadText
  | 0, _ => none
  | count + 1, cs =>
    match cs with
    | [] => none
    | c :: rest =>
      if c == quote then
        let (n, behind) := quoteRun quote cs
        if n < 3 then manyLines? quote escapes (List.replicate n quote ++ done) count behind
        else if n ≤ 5 then some ((List.replicate (n - 3) quote ++ done).reverse, behind)
        else none
      else if c == '\\' && escapes then
        match escaped? rest with
        | some (d, rest) => manyLines? quote escapes (d :: done) count rest
        | none =>
          match afterLineEnd? rest with
          | some rest => manyLines? quote escapes done count rest
          | none => none
      else
        match afterNewline? cs with
        | some rest => manyLines? quote escapes ('\n' :: done) count rest
        | none => if isControl c then none else manyLines? quote escapes (c :: done) count rest

/-- The text without the newline that may stand right behind the opening quotes. -/
def afterOpening (cs : List Char) : List Char := (afterNewline? cs).getD cs

/-- Reads a string of any form. -/
def string? (cs : List Char) : ReadText :=
  match cs with
  | '"' :: '"' :: '"' :: rest => manyLines? '"' true [] (cs.length + 1) (afterOpening rest)
  | '"' :: rest => basic? [] (cs.length + 1) rest
  | '\'' :: '\'' :: '\'' :: rest => manyLines? '\'' false [] (cs.length + 1) (afterOpening rest)
  | '\'' :: rest => literal? [] rest
  | _ => none

end CodeDigest.Toml
