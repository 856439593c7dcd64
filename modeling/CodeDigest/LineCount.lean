import CodeDigest.Text.Pieces

/-!
# Counting lines

A text has one line more than it has newlines.  A line is a line of code when something is left of
it after trimming and this does not start with the comment prefix; every other line counts as a
comment, blank ones included.
-/

namespace CodeDigest

/-- The lines of a text by kind. -/
structure LineCount where
  total : Nat
  code : Nat
  comment : Nat
deriving Repr, DecidableEq

namespace LineCount

/-- Whether a line is a line of code. -/
def isCode (commentPrefix line : List Char) : Bool :=
  let t := Text.trim line
  !t.isEmpty && (Text.dropPrefix? commentPrefix t).isNone

/-- Counts the lines of a text. -/
def ofText (content commentPrefix : String) : LineCount :=
  let ls := Text.split '\n' content.toList
  let code := ls.countP (isCode commentPrefix.toList)
  ⟨ls.length, code, ls.length - code⟩

/-- Code and comment lines make up all lines. -/
theorem code_add_comment (content commentPrefix : String) :
    (ofText content commentPrefix).code + (ofText content commentPrefix).comment
      = (ofText content commentPrefix).total := by
  have h : (Text.split '\n' content.toList).countP (isCode commentPrefix.toList)
      ≤ (Text.split '\n' content.toList).length := List.countP_le_length
  simp only [ofText]
  omega

end LineCount

end CodeDigest
