import CodeDigest.Decimal.Layout
import CodeDigest.Json.Basic
import CodeDigest.Text.Pieces

/-!
# Writing TOML

A document is written as tables of keys with values.  A text stands between double quotes when it
needs no escapes there, and else in the first form that can hold it.  A list of more than one
element has one element a line.
-/

namespace CodeDigest.Toml

/-- The length of the longest run of a character. -/
def longestRun (c : Char) (cs : List Char) : Nat :=
  (cs.foldl (fun (best, run) d => if d == c then (max best (run + 1), run + 1) else (best, 0))
    (0, 0)).1

/-- Whether a text holds characters that only escapes can write. -/
def needsCodes (cs : List Char) : Bool :=
  cs.any fun c => (c.toNat < 0x20 && c != '\t' && c != '\n') || c.toNat == 0x7F

/-- A hexadecimal digit. -/
def upperHexDigit (n : Nat) : Char := Char.ofNat (if n < 10 then 48 + n else 55 + n)

/-- The escape of a character by its code. -/
def codeEscape (c : Char) : List Char :=
  ['\\', 'u', '0', '0', upperHexDigit (c.toNat / 16), upperHexDigit (c.toNat % 16)]

/-- A character between double quotes, after `run` double quotes in a row; up to `allowed` of them
need no escape, and neither do newlines if `lines`. -/
def escapeChar (lines : Bool) (c : Char) : List Char :=
  if c == '\\' then ['\\', '\\']
  else if c == '\t' then ['\\', 't']
  else if c == '\n' then if lines then ['\n'] else ['\\', 'n']
  else if c == '\r' then ['\\', 'r']
  else if c.toNat == 8 then ['\\', 'b']
  else if c.toNat == 12 then ['\\', 'f']
  else if c.toNat < 0x20 || c.toNat == 0x7F then codeEscape c
  else [c]

/-- A text with escapes; `run` double quotes stand in front of it, and of a run of them those beyond
`allowed` are escaped. -/
def escapeText (lines : Bool) (allowed run : Nat) : List Char → List Char
  | [] => []
  | c :: rest =>
    if c == '"' then
      if run < allowed then '"' :: escapeText lines allowed (run + 1) rest
      else '\\' :: '"' :: escapeText lines allowed 0 rest
    else escapeChar lines c ++ escapeText lines allowed 0 rest

/-- A text between quotes; one over several lines starts on a line of its own. -/
def enclose (quotes : String) (lines : Bool) (cs body : List Char) : List Char :=
  quotes.toList ++ (if lines && cs.contains '\n' then ['\n'] else []) ++ body ++ quotes.toList

/-- A text as it is written. -/
def quoted (s : String) : List Char :=
  let cs := s.toList
  let codes := needsCodes cs
  let backslashes := cs.contains '\\'
  let newlines := cs.contains '\n'
  let doubles := longestRun '"' cs
  let singles := longestRun '\'' cs
  if !codes && !backslashes && doubles == 0 && !newlines then
    enclose "\"" false cs (escapeText false 0 0 cs)
  else if !codes && singles == 0 && !newlines then enclose "'" false cs cs
  else if !codes && !backslashes && doubles ≤ 2 then
    enclose "\"\"\"" true cs (escapeText true 2 0 cs)
  else if !codes && singles ≤ 2 then enclose "'''" true cs cs
  else if newlines then enclose "\"\"\"" true cs (escapeText true 2 0 cs)
  else enclose "\"" false cs (escapeText false 0 0 cs)

/-- A number with a point as it is written. -/
def floatText : Decimal.Reading → String
  | .notANumber => "nan"
  | x => Decimal.Layout.pointed.write x

/-- Texts as a list. -/
def listText (xs : List String) : List Char :=
  match xs with
  | [] => "[]".toList
  | [x] => '[' :: quoted x ++ [']']
  | xs => "[\n".toList ++ xs.flatMap (fun x => "    ".toList ++ quoted x ++ ",\n".toList) ++ [']']

/-- A value of a setting; a value that is missing is not written. -/
def settingText? : Json → Option (List Char)
  | .null => none
  | .bool b => some (if b then "true".toList else "false".toList)
  | .number (.whole n) => some (toString n).toList
  | .number (.double x) => some (floatText (.ofDouble x)).toList
  | .number (.single x) => some (floatText (.ofSingle x)).toList
  | .string s => some (quoted s)
  | .array xs => some (listText (xs.filterMap Json.string?))
  | .object _ => none

/-- One setting on a line. -/
def settingLine (name : String) (v : Json) : List Char :=
  match settingText? v with
  | some text => name.toList ++ " = ".toList ++ text ++ ['\n']
  | none => []

/-- A table with its head. -/
def tableText (name : String) (members : List (String × Json)) : String :=
  String.ofList ('[' :: name.toList ++ "]\n".toList
    ++ members.flatMap fun (key, v) => settingLine key v)

/-- A document of tables that hold settings: the members of an object that are objects. -/
def document (v : Json) : String :=
  match v with
  | .object tables =>
    joined "\n" (tables.filterMap fun (name, v) =>
      match v with
      | .object members => some (tableText name members)
      | _ => none)
  | _ => ""

end CodeDigest.Toml
