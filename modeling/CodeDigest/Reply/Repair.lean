import CodeDigest.Text.Blank

/-!
# Repairing JSON that was cut off

Repair reads a text once from left to right and copies it, with three changes.  A comma that stands
directly before a closing bracket or at the end of the text, blanks aside, is left out together with
the blanks behind it.  A string that is still open at the end is closed, after dropping a backslash
that has nothing behind it.  The closing brackets that are still missing are added, innermost first.

A closing bracket that does not fit the innermost open one is copied and closes nothing.
-/

namespace CodeDigest.Reply

/-- Where a text stands with respect to string literals. -/
inductive Region where
  | outside
  | inside
  /-- Inside, directly behind a backslash. -/
  | escaped
deriving Repr, DecidableEq

/-- The region behind one more character. -/
def Region.next (r : Region) (c : Char) : Region :=
  match r with
  | .outside => if c == '"' then .inside else .outside
  | .inside => if c == '\\' then .escaped else if c == '"' then .outside else .inside
  | .escaped => .inside

/-- The closing bracket that an opening bracket asks for. -/
def closerOf? (c : Char) : Option Char :=
  if c == '{' then some '}' else if c == '[' then some ']' else none

/-- Whether a character is a closing bracket. -/
def isCloser (c : Char) : Bool := c == '}' || c == ']'

/-- Leaves out a comma at the end of what has been copied, and the blanks behind it.  What has been
copied is held in reverse, the latest character first. -/
def dropComma (copied : List Char) : List Char :=
  match copied.dropWhile Text.isBlank with
  | ',' :: rest => rest
  | _ => copied

/-- A repair in progress. -/
structure Repair where
  /-- What has been copied, in reverse. -/
  copied : List Char
  /-- The closing brackets that are still due, innermost first. -/
  due : List Char
  region : Region

/-- A repair that has read nothing. -/
def Repair.start : Repair := ⟨[], [], .outside⟩

/-- Reads one character. -/
def Repair.step (r : Repair) (c : Char) : Repair :=
  match r.region with
  | .outside =>
    if isCloser c then
      { r with copied := c :: dropComma r.copied
               due := if r.due.head? == some c then r.due.tail else r.due }
    else
      match closerOf? c with
      | some closer => { r with copied := c :: r.copied, due := closer :: r.due }
      | none => { r with copied := c :: r.copied, region := r.region.next c }
  | region => { r with copied := c :: r.copied, region := region.next c }

/-- Closes what is open: the text repaired, in reverse but for the brackets that are added. -/
def Repair.finish (r : Repair) : List Char :=
  let copied :=
    match r.region with
    | .outside => dropComma r.copied
    | .inside => '"' :: r.copied
    | .escaped => '"' :: r.copied.tail
  copied.reverse ++ r.due

/-- The text repaired. -/
def repair (cs : List Char) : List Char := (cs.foldl Repair.step .start).finish

end CodeDigest.Reply
