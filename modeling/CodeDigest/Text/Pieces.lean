import CodeDigest.Text.Blank

/-!
# Cutting texts into pieces

Splitting at a character, searching for a run of characters, and the two ends of a text.  All of it
is plain recursion on `List Char`, so a statement about a piece is proved by induction on the text.
-/

namespace CodeDigest.Text

/-- Splits at the characters that satisfy `p`, with the pieces `done` and the open piece `piece`
before the text, both in reverse. -/
def splitFrom (p : Char → Bool) (done : List (List Char)) (piece : List Char) :
    List Char → List (List Char)
  | [] => (piece.reverse :: done).reverse
  | c :: cs =>
    if p c then splitFrom p (piece.reverse :: done) [] cs else splitFrom p done (c :: piece) cs

/-- The pieces between the characters that satisfy `p`; there is always at least one, and `n`
separators give `n + 1` pieces. -/
def splitBy (p : Char → Bool) (cs : List Char) : List (List Char) := splitFrom p [] [] cs

/-- The pieces between the occurrences of one character. -/
def split (sep : Char) (cs : List Char) : List (List Char) := splitBy (· == sep) cs

/-- Pieces with more characters in front of the first one. -/
def extendFirst (front : List Char) : List (List Char) → List (List Char)
  | [] => [front]
  | piece :: rest => (front ++ piece) :: rest

theorem splitFrom_eq (p : Char → Bool) (done : List (List Char)) (piece cs : List Char) :
    splitFrom p done piece cs
      = done.reverse ++ extendFirst piece.reverse (splitFrom p [] [] cs) := by
  induction cs generalizing done piece with
  | nil => simp [splitFrom, extendFirst]
  | cons c cs ih =>
    by_cases h : p c = true
    · simp only [splitFrom, h, if_true]
      rw [ih (piece.reverse :: done) [], ih [[].reverse] []]
      simp [extendFirst]
    · simp only [splitFrom, h]
      rw [ih done (c :: piece), ih [] [c]]
      cases splitFrom p [] [] cs <;> simp [extendFirst]

theorem splitFrom_ne_nil (p : Char → Bool) (done : List (List Char)) (piece cs : List Char) :
    splitFrom p done piece cs ≠ [] := by
  induction cs generalizing done piece with
  | nil => simp [splitFrom]
  | cons c cs ih =>
    simp only [splitFrom]
    split <;> exact ih _ _

@[simp] theorem splitBy_nil (p : Char → Bool) : splitBy p [] = [[]] := rfl

/-- A separator in front adds an empty piece, any other character joins the first piece. -/
theorem splitBy_cons (p : Char → Bool) (c : Char) (cs : List Char) :
    splitBy p (c :: cs) = if p c then [] :: splitBy p cs else extendFirst [c] (splitBy p cs) := by
  have hne := splitFrom_ne_nil p [] [] cs
  by_cases h : p c = true
  · simp only [splitBy, splitFrom, h, if_true]
    rw [splitFrom_eq]
    cases hs : splitFrom p [] [] cs with
    | nil => exact absurd hs hne
    | cons first rest => simp [extendFirst]
  · simp only [splitBy, splitFrom, h]
    rw [splitFrom_eq p [] [c] cs]
    simp

theorem splitBy_ne_nil (p : Char → Bool) (cs : List Char) : splitBy p cs ≠ [] :=
  splitFrom_ne_nil p [] [] cs

/-- One more piece than there are separators. -/
theorem length_splitBy (p : Char → Bool) (cs : List Char) :
    (splitBy p cs).length = cs.countP p + 1 := by
  induction cs with
  | nil => rfl
  | cons c cs ih =>
    rw [splitBy_cons]
    by_cases h : p c = true
    · simp [h, ih]
    · cases hs : splitBy p cs with
      | nil => exact absurd hs (splitBy_ne_nil p cs)
      | cons first rest => simp [h, ← ih, hs, extendFirst]

/-- What follows `front`, when the text starts with it. -/
def dropPrefix? : List Char → List Char → Option (List Char)
  | [], cs => some cs
  | _ :: _, [] => none
  | p :: ps, c :: cs => if p == c then dropPrefix? ps cs else none

theorem dropPrefix?_eq_some_iff {front cs rest : List Char} :
    dropPrefix? front cs = some rest ↔ cs = front ++ rest := by
  induction front generalizing cs with
  | nil => simp [dropPrefix?, eq_comm]
  | cons p ps ih =>
    cases cs with
    | nil => simp [dropPrefix?]
    | cons c cs =>
      by_cases h : p = c
      · subst h; simp [dropPrefix?, ih]
      · have h' : ¬c = p := fun e => h e.symm
        simp [dropPrefix?, h, h']

/-- What stands before `back`, when the text ends with it. -/
def dropSuffix? (back cs : List Char) : Option (List Char) :=
  (dropPrefix? back.reverse cs.reverse).map List.reverse

/-- Splits at the first occurrence of `needle`: what stands before it and what follows it. -/
def cut? (needle : List Char) : List Char → Option (List Char × List Char)
  | [] => (dropPrefix? needle []).map fun rest => ([], rest)
  | c :: cs =>
    match dropPrefix? needle (c :: cs) with
    | some rest => some ([], rest)
    | none => (cut? needle cs).map fun (before, rest) => (c :: before, rest)

/-- Whether `needle` occurs in the text. -/
def contains (needle : List Char) : List Char → Bool
  | [] => needle.isEmpty
  | c :: cs => (dropPrefix? needle (c :: cs)).isSome || contains needle cs

/-- The text with every occurrence of one character replaced. -/
def replaceChar (old new : Char) (cs : List Char) : List Char :=
  cs.map fun c => if c == old then new else c

end CodeDigest.Text

namespace CodeDigest

/-- The pieces of a text between the occurrences of one character. -/
def pieces (sep : Char) (s : String) : List String := (Text.split sep s.toList).map String.ofList

/-- Whether `needle` occurs in `s`. -/
def occursIn (needle s : String) : Bool := Text.contains needle.toList s.toList

/-- The first `n` characters of a text. -/
def firstChars (n : Nat) (s : String) : String := String.ofList (s.toList.take n)

/-- The pieces of a text at its newlines. -/
def lines (s : String) : List String := pieces '\n' s

/-- A line without the carriage return at its end. -/
def dropReturn (line : List Char) : List Char := (Text.dropSuffix? ['\r'] line).getD line

/-- Lines from pieces between newlines: a carriage return in front of a newline belongs to it, and
what follows the last newline is a line only if it is not empty. -/
def linesOfPieces : List (List Char) → List (List Char)
  | [] => []
  | [last] => if last.isEmpty then [] else [last]
  | line :: rest => dropReturn line :: linesOfPieces rest

/-- The lines of a text; each but the last ends in a newline, which is no part of it. -/
def textLines (s : String) : List String :=
  (linesOfPieces (Text.split '\n' s.toList)).map String.ofList

/-- The texts one after the other with `sep` between neighbours. -/
def joined (sep : String) (parts : List String) : String := String.intercalate sep parts

end CodeDigest
