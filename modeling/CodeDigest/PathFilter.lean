import CodeDigest.Failure

/-!
# Filters on paths

A filter is a text with wildcards.  A question mark stands for any character and a star for any
text, separators included; two stars stand for whole parts of the path and must be a part of the
path themselves; brackets list characters, and an exclamation mark in front of the list inverts it.
-/

namespace CodeDigest

/-- A piece of a path filter. -/
inductive FilterPiece where
  | char (c : Char)
  | anyChar
  /-- One of the characters in the ranges, or one outside of them if `inverted`. -/
  | oneOf (inverted : Bool) (ranges : List (Char × Char))
  | anyText
  /-- Any number of whole parts of the path, or all that is left of it. -/
  | anyParts
deriving Repr, DecidableEq

/-- A filter on paths. -/
abbrev PathFilter := List FilterPiece

namespace PathFilter

/-- Why a text is no filter; the position counts characters. -/
structure Flaw where
  position : Nat
  reason : String
deriving Repr, DecidableEq

/-- The wording of a flaw. -/
def Flaw.message (f : Flaw) : String :=
  "Pattern syntax error near position " ++ toString f.position ++ ": " ++ f.reason

/-- A run of more than two stars. -/
def tooManyStars (position : Nat) : Flaw :=
  ⟨position, "wildcards are either regular \x60*\x60 or recursive \x60**\x60"⟩

/-- Two stars next to something that is no separator. -/
def starsInPart (position : Nat) : Flaw :=
  ⟨position, "recursive wildcards must form a single path component"⟩

/-- A bracket that is not closed. -/
def openRange (position : Nat) : Flaw := ⟨position, "invalid range pattern"⟩

/-- The ranges that the text between brackets lists. -/
def ranges : List Char → List (Char × Char)
  | a :: '-' :: b :: rest => (a, b) :: ranges rest
  | a :: rest => (a, a) :: ranges rest
  | [] => []

/-- The text up to the next closing bracket and the text behind it; the first character never
closes. -/
def bracketed? : List Char → Option (List Char × List Char)
  | [] => none
  | first :: rest =>
    match rest.span (· != ']') with
    | (inner, _ :: behind) => some (first :: inner, behind)
    | (_, []) => none

/-- Reads a bracket behind its opening. -/
def range? : List Char → Option (FilterPiece × List Char)
  | '!' :: rest => (bracketed? rest).map fun (inner, behind) => (.oneOf true (ranges inner), behind)
  | rest => (bracketed? rest).map fun (inner, behind) => (.oneOf false (ranges inner), behind)

/-- Puts a piece for whole parts behind the others, unless one stands there already. -/
def addParts (done : List FilterPiece) : List FilterPiece :=
  if 1 < done.length && done.head? == some .anyParts then done else .anyParts :: done

/-- Reads a filter; `done` holds the pieces so far in reverse, `position` the number of characters
that have been read and `before` the last one of them. -/
def readFrom (done : List FilterPiece) (position : Nat) (before : Option Char) :
    (count : Nat) → List Char → Except Flaw PathFilter
  | 0, _ => .ok done.reverse
  | count + 1, cs =>
    match cs with
    | [] => .ok done.reverse
    | '?' :: rest => readFrom (.anyChar :: done) (position + 1) (some '?') count rest
    | '*' :: '*' :: '*' :: _ => .error (tooManyStars (position + 2))
    | '*' :: '*' :: rest =>
      if before.isSome && before != some '/' then .error (starsInPart (position - 1))
      else
        match rest with
        | [] => .ok (addParts done).reverse
        | '/' :: behind => readFrom (addParts done) (position + 3) (some '/') count behind
        | _ => .error (starsInPart (position + 2))
    | '*' :: rest => readFrom (.anyText :: done) (position + 1) (some '*') count rest
    | '[' :: rest =>
      match range? rest with
      | some (piece, behind) =>
        readFrom (piece :: done) (position + (cs.length - behind.length)) (some ']') count behind
      | none => .error (openRange position)
    | c :: rest => readFrom (.char c :: done) (position + 1) (some c) count rest

/-- Reads a filter. -/
def ofText (text : String) : Except Flaw PathFilter :=
  readFrom [] 0 none (text.toList.length + 1) text.toList

/-- Whether a character lies in one of some ranges. -/
def inRanges (rs : List (Char × Char)) (c : Char) : Bool :=
  rs.any fun (low, high) => low ≤ c && c ≤ high

/-- Whether some text that ends at a separator may be left out so that `p` accepts the rest; all of
the text may be left out as well. -/
def skippingParts (p : List Char → Bool) : List Char → Bool
  | [] => p []
  | '/' :: rest => p rest || skippingParts p rest
  | _ :: rest => skippingParts p rest

/-- Whether some text in front may be left out so that `p` accepts the rest. -/
def skipping (p : List Char → Bool) : List Char → Bool
  | [] => p []
  | c :: rest => p (c :: rest) || skipping p rest

/-- Whether a filter accepts a text. -/
def accepts : PathFilter → List Char → Bool
  | [], cs => cs.isEmpty
  | .anyText :: pieces, cs => skipping (accepts pieces) cs
  | .anyParts :: pieces, cs => accepts pieces cs || skippingParts (accepts pieces) cs
  | _ :: _, [] => false
  | .char a :: pieces, c :: rest => c == a && accepts pieces rest
  | .anyChar :: pieces, _ :: rest => accepts pieces rest
  | .oneOf inverted rs :: pieces, c :: rest => inRanges rs c != inverted && accepts pieces rest

/-- Whether a filter accepts a path. -/
def matchesPath (f : PathFilter) (path : String) : Bool := f.accepts path.toList

/-- Reads filters; the first one that is none is at fault. -/
def ofTexts : List String → Except Failure (List PathFilter)
  | [] => .ok []
  | text :: texts =>
    match ofText text with
    | .error flaw => .error (.settings (.pattern text flaw.message))
    | .ok f => (ofTexts texts).map (f :: ·)

/-- A filter without wildcards accepts its own text only. -/
theorem accepts_chars (a cs : List Char) : accepts (a.map .char) cs = (cs == a) := by
  induction a generalizing cs with
  | nil => cases cs <;> rfl
  | cons c a ih =>
    cases cs with
    | nil => rfl
    | cons d cs => simp [accepts, ih]

/-- A single star accepts everything. -/
theorem accepts_anyText (cs : List Char) : accepts [.anyText] cs = true := by
  induction cs with
  | nil => rfl
  | cons c cs ih =>
    simp only [accepts, skipping, Bool.or_eq_true]
    exact Or.inr (by simpa [accepts] using ih)

end PathFilter

end CodeDigest
