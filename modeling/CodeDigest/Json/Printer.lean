import CodeDigest.Json.Basic
import CodeDigest.Decimal.Layout

/-!
# Writing JSON

Compact and indented text.  Strings escape the quotation mark, the backslash and the control
characters, and nothing else.  Numbers that are not whole take the fewest digits that read back,
positionally from `1e-5` up to below `1e16`; infinities and the absence of a number are written as
`null`.  The indented form puts each element on its own line, two blanks further in than its
container; empty containers stay closed.
-/

namespace CodeDigest.Json

/-- The hexadecimal digit of a value below 16. -/
def hexDigit (n : Nat) : Char := Char.ofNat (if n < 10 then 48 + n else 87 + n)

/-- One character of a string. -/
def escapeChar (c : Char) : List Char :=
  if c == '"' then ['\\', '"']
  else if c == '\\' then ['\\', '\\']
  else if c == '\n' then ['\\', 'n']
  else if c == '\r' then ['\\', 'r']
  else if c == '\t' then ['\\', 't']
  else if c.toNat == 8 then ['\\', 'b']
  else if c.toNat == 12 then ['\\', 'f']
  else if c.toNat < 0x20 then
    ['\\', 'u', '0', '0', hexDigit (c.toNat / 16), hexDigit (c.toNat % 16)]
  else [c]

/-- A string between quotation marks. -/
def quoted (s : String) : List Char := '"' :: s.toList.flatMap escapeChar ++ ['"']

/-- A number that floating-point arithmetic has produced. -/
def writeReading (layout : Decimal.Layout) : Decimal.Reading → List Char
  | .finite b => (layout.write (.finite b)).toList
  | _ => "null".toList

/-- A number. -/
def Number.write : Number → List Char
  | .whole n => (toString n).toList
  | .double x => writeReading .wide (.ofDouble x)
  | .single x => writeReading .narrow (.ofSingle x)

/-- The value of a leaf; containers are written by their callers. -/
def writeLeaf : Json → List Char
  | .bool true => "true".toList
  | .bool false => "false".toList
  | .number n => n.write
  | .string s => quoted s
  | _ => "null".toList

mutual

/-- Compact text. -/
def compact : Json → List Char
  | .array xs => '[' :: compactElements true xs ++ [']']
  | .object ms => '{' :: compactMembers true ms ++ ['}']
  | v => writeLeaf v

/-- The elements of an array, with a comma before all but the first. -/
def compactElements (first : Bool) : List Json → List Char
  | [] => []
  | v :: vs => (if first then [] else [',']) ++ compact v ++ compactElements false vs

/-- The members of an object, with a comma before all but the first. -/
def compactMembers (first : Bool) : List (String × Json) → List Char
  | [] => []
  | (k, v) :: ms =>
    (if first then [] else [',']) ++ quoted k ++ ':' :: compact v ++ compactMembers false ms

end

/-- A new line that starts `depth` levels in. -/
def newLine (depth : Nat) : List Char := '\n' :: List.replicate (2 * depth) ' '

mutual

/-- Indented text of a value that stands `depth` levels in. -/
def indented (depth : Nat) : Json → List Char
  | .array [] => ['[', ']']
  | .array (x :: xs) => '[' :: indentedElements true (depth + 1) (x :: xs) ++ newLine depth ++ [']']
  | .object [] => ['{', '}']
  | .object (m :: ms) =>
    '{' :: indentedMembers true (depth + 1) (m :: ms) ++ newLine depth ++ ['}']
  | v => writeLeaf v

/-- The elements of an array, each on its own line. -/
def indentedElements (first : Bool) (depth : Nat) : List Json → List Char
  | [] => []
  | v :: vs =>
    (if first then [] else [',']) ++ newLine depth ++ indented depth v
      ++ indentedElements false depth vs

/-- The members of an object, each on its own line. -/
def indentedMembers (first : Bool) (depth : Nat) : List (String × Json) → List Char
  | [] => []
  | (k, v) :: ms =>
    (if first then [] else [',']) ++ newLine depth ++ quoted k ++ [':', ' '] ++ indented depth v
      ++ indentedMembers false depth ms

end

/-- Compact text. -/
def toCompact (v : Json) : String := String.ofList (compact v)

/-- Indented text. -/
def toPretty (v : Json) : String := String.ofList (indented 0 v)

end CodeDigest.Json
