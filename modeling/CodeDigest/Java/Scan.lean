/-!
# Shapes of text

A `Scan` reads a piece of text from the front and says how many characters it may take; several
answers mean several ways to read.
-/

namespace CodeDigest.Java

/-- Reads from the front: the possible lengths of what is read. -/
abbrev Scan := List Char → List Nat

namespace Scan

/-- Reads nothing. -/
def nothing : Scan := fun _ => [0]

/-- Reads one character with a property. -/
def one (p : Char → Bool) : Scan
  | [] => []
  | c :: _ => if p c then [1] else []

/-- Reads one of some characters. -/
def anyOf (chars : String) : Scan := one chars.toList.contains

/-- Reads with the first and then with the second. -/
def andThen (a b : Scan) : Scan := fun cs =>
  (a cs).flatMap fun n => (b (cs.drop n)).map (n + ·)

/-- Reads with either. -/
def orElse (a b : Scan) : Scan := fun cs => a cs ++ b cs

/-- Reads with `a`, or nothing. -/
def maybe (a : Scan) : Scan := orElse a nothing

/-- Reads with each in turn. -/
def all : List Scan → Scan
  | [] => nothing
  | a :: rest => andThen a (all rest)

/-- Reads with one of several. -/
def any : List Scan → Scan
  | [] => fun _ => []
  | a :: rest => orElse a (any rest)

/-- Reads groups of characters with property `p`, as many as there are, between underscores: one
underscore between two groups, or any number if `wide`.  `taken` characters make up the groups so
far, and `pending` underscores have been seen behind them. -/
def groupsFrom (p : Char → Bool) (wide : Bool) (taken pending : Nat) : Scan
  | [] => [taken]
  | c :: cs =>
    if p c then
      if pending ≤ 1 || wide then groupsFrom p wide (taken + pending + 1) 0 cs else [taken]
    else if c == '_' then groupsFrom p wide taken (pending + 1) cs
    else [taken]

/-- Reads groups of characters with property `p` between single underscores, or between any number
of them if `wide`. -/
def groups (p : Char → Bool) (wide : Bool) : Scan
  | [] => []
  | c :: cs => if p c then groupsFrom p wide 1 0 cs else []

/-- The length of the longest reading. -/
def longest? (a : Scan) (cs : List Char) : Option Nat := (a cs).max?

end Scan

/-- A hexadecimal digit. -/
def isHexDigit (c : Char) : Bool :=
  c.isDigit || ('a' ≤ c && c ≤ 'f') || ('A' ≤ c && c ≤ 'F')

/-- An octal digit. -/
def isOctalDigit (c : Char) : Bool := '0' ≤ c && c ≤ '7'

namespace Number

open Scan

/-- Decimal digits without a zero in front. -/
def digits : Scan :=
  orElse (anyOf "0")
    (andThen (one fun c => '1' ≤ c && c ≤ '9')
      (maybe (andThen (maybe (anyOf "_")) (groups Char.isDigit true))))

/-- Decimal digits. -/
def decimalDigits : Scan := groups Char.isDigit false

/-- Hexadecimal digits. -/
def hexDigits : Scan := groups isHexDigit false

/-- The mark in front of hexadecimal digits. -/
def hexMark : Scan := andThen (anyOf "0") (anyOf "xX")

/-- The suffix of a long number. -/
def longMark : Scan := maybe (anyOf "lL")

/-- The suffix of a floating-point number. -/
def floatMark : Scan := maybe (anyOf "fFdD")

/-- An exponent. -/
def exponent (letters : String) (ds : Scan) : Scan :=
  all [anyOf letters, maybe (anyOf "+-"), ds]

/-- Whole numbers in four bases. -/
def whole : Scan :=
  any
    [all [digits, longMark],
     all [hexMark, hexDigits, longMark],
     all [anyOf "0", maybe (anyOf "oO"), groups isOctalDigit false, longMark],
     all [anyOf "0", anyOf "bB", groups (fun c => c == '0' || c == '1') false, longMark]]

/-- Decimal numbers with a point, an exponent or a suffix. -/
def decimalFloat : Scan :=
  any
    [all [decimalDigits, anyOf ".", maybe decimalDigits, maybe (exponent "eE" decimalDigits),
      floatMark],
     all [anyOf ".", decimalDigits, maybe (exponent "eE" decimalDigits), floatMark],
     all [digits, exponent "eEpP" decimalDigits, floatMark],
     all [digits, maybe (exponent "eE" decimalDigits), anyOf "fFdD"]]

/-- Hexadecimal numbers with a point or an exponent. -/
def hexFloat : Scan :=
  all
    [hexMark,
     orElse (andThen hexDigits (maybe (anyOf "."))) (all [maybe hexDigits, anyOf ".", hexDigits]),
     maybe (all [exponent "eEpP" digits, floatMark])]

/-- Every number literal. -/
def literal : Scan := any [whole, decimalFloat, hexFloat]

end Number

end CodeDigest.Java
