import CodeDigest.Text.Pieces

/-!
# Unwrapping a model's reply

A reply may have blanks and byte order marks around it and may stand in a code fence.  Cleaning
removes these wrappers: first blanks, then byte order marks in front, then blanks again; then, if
the text opens with three backticks, the line they stand on and the three backticks at the end, if
they are there; then blanks once more.  A fence whose line never ends loses only its backticks.
-/

namespace CodeDigest.Reply

/-- The byte order mark. -/
def byteOrderMark : Char := Char.ofNat 0xFEFF

/-- Three backticks. -/
def fence : List Char := List.replicate 3 (Char.ofNat 0x60)

/-- The text behind the first newline, or all of it when there is none. -/
def dropInfoLine (cs : List Char) : List Char :=
  match cs.dropWhile (· != '\n') with
  | [] => cs
  | _ :: rest => rest

/-- The text without three backticks at its end, blanks behind them included. -/
def dropClosingFence (cs : List Char) : List Char :=
  (Text.dropSuffix? fence (Text.trimEnd cs)).getD cs

/-- The content of a code fence that opens the text, or the text itself. -/
def unfence (cs : List Char) : List Char :=
  match Text.dropPrefix? fence cs with
  | some rest => dropClosingFence (dropInfoLine rest)
  | none => cs

/-- The text without blanks and byte order marks around it. -/
def unwrap (cs : List Char) : List Char :=
  Text.trim ((Text.trim cs).dropWhile (· == byteOrderMark))

/-- The reply without its wrappers. -/
def clean (cs : List Char) : List Char := Text.trim (unfence (unwrap cs))

end CodeDigest.Reply
