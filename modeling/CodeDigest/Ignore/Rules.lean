import CodeDigest.FileTree
import CodeDigest.Ignore.Pattern

/-!
# Ignore rules

An ignore file holds one rule a line.  A rule says that the paths its pattern fits are ignored, or
with an exclamation mark in front that they are not; with a slash at the end it is about directories
only.  Within a file the last rule that fits decides, and between files the one in the innermost
directory; `.ignore` files come before `.gitignore` files, and these before `.git/info/exclude`.
-/

namespace CodeDigest.Ignore

/-- A rule. -/
structure Rule where
  pattern : Pattern
  /-- Whether the rule keeps what it fits. -/
  keeps : Bool
  directoriesOnly : Bool

/-- What rules say of a path. -/
inductive Verdict where
  | ignored
  | kept
deriving Repr, DecidableEq

namespace Rule

/-- Drops the blanks at the end of a line, unless the last one is escaped. -/
def trimLine (line : List Char) : List Char :=
  if (Text.dropSuffix? ['\\', ' '] line).isSome then line else Text.trimEnd line

/-- A line without the marks in front, whether it keeps, and whether it is tied to the directory of
its file. -/
def marks : List Char → Bool × Bool × List Char
  | '\\' :: '!' :: rest => (false, false, '!' :: rest)
  | '\\' :: '#' :: rest => (false, false, '#' :: rest)
  | '!' :: '/' :: rest => (true, true, rest)
  | '!' :: rest => (true, false, rest)
  | '/' :: rest => (false, true, rest)
  | line => (false, false, line)

/-- A line without the slash at its end, and whether there was one. -/
def directoryMark (line : List Char) : Bool × List Char :=
  match Text.dropSuffix? ['/'] line with
  | some front => (true, (Text.dropSuffix? ['\\'] front).getD front)
  | none => (false, line)

/-- The text of the pattern.  One without a slash may fit in any directory, and one for all that is
below a directory does not fit the directory. -/
def patternText (tied : Bool) (line : List Char) : List Char :=
  let anywhere := "**/".toList
  let line :=
    if tied || line.contains '/' || line == "**".toList then line else anywhere ++ line
  if (Text.dropSuffix? "/**".toList line).isSome then line ++ "/*".toList else line

/-- The rule that a line holds, if it holds one. -/
def ofLine? (line : List Char) : Option Rule :=
  if line.head? == some '#' then none
  else
    let line := trimLine line
    if line.isEmpty then none
    else
      let (keeps, tied, rest) := marks line
      let (directoriesOnly, rest) := directoryMark rest
      (Pattern.ofText? (patternText tied rest)).map fun pattern =>
        ⟨pattern, keeps, directoriesOnly⟩

/-- What a rule says of a path, given relative to the directory of its file. -/
def verdict? (rule : Rule) (path : String) (isDirectory : Bool) : Option Verdict :=
  if (isDirectory || !rule.directoriesOnly) && rule.pattern.fits path then
    some (if rule.keeps then .kept else .ignored)
  else none

end Rule

/-- What some rules say of a path: the last one that fits decides. -/
def verdictOf? (rules : List Rule) (path : String) (isDirectory : Bool) : Option Verdict :=
  rules.reverse.findSome? fun rule => rule.verdict? path isDirectory

/-- Splits bytes at newlines. -/
def byteLines (bytes : List UInt8) : List (List UInt8) := bytes.splitOn 10

/-- The rules of an ignore file; reading stops at a line that is no text. -/
def rulesOf (content : ByteArray) : List Rule :=
  let texts := (byteLines content.toList).map fun line => String.fromUTF8? ⟨line.toArray⟩
  let lines := (texts.takeWhile (·.isSome)).filterMap fun text =>
    text.map fun s => dropReturn s.toList
  match lines with
  | [] => []
  | first :: rest =>
    ((first.dropWhile (· == Char.ofNat 0xFEFF)) :: rest).filterMap Rule.ofLine?

/-- The names of ignore files, those that decide first in front. -/
def fileNames : List String := [".ignore", ".gitignore", ".git/info/exclude"]

/-- The rules of an ignore file in a directory. -/
def rulesAt (t : FileTree) (directory : List String) (name : String) : List Rule :=
  match ({ t with here := directory } : FileTree).node? name with
  | some (.file content) => rulesOf content
  | _ => []

/-- The directories above a path, the innermost first, each with the path below it. -/
def above (names : List String) : List (List String × List String) :=
  ((List.range names.length).reverse).map fun n => (names.take n, names.drop n)

/-- What the ignore files say of a path, given by the names from the root that lead to it. -/
def verdict? (t : FileTree) (names : List String) (isDirectory : Bool) : Option Verdict :=
  fileNames.findSome? fun file =>
    (above names).findSome? fun (directory, below) =>
      verdictOf? (rulesAt t directory file) (joined "/" below) isDirectory

/-- Whether the ignore files leave a path out. -/
def isIgnored (t : FileTree) (names : List String) (isDirectory : Bool) : Bool :=
  verdict? t names isDirectory == some .ignored

end CodeDigest.Ignore
