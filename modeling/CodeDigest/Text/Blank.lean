/-!
# Blank characters and trimming

A character is *blank* when it has the Unicode property White_Space: 25 code points, listed in
`isBlank`.  Trimming removes blanks from one or both ends of a text and touches nothing inside.

Texts are scanned as `List Char` throughout the library and kept as `String` in records, so every
operation comes in the two forms; the `String` form is the list form between `String.toList` and
`String.ofList`.
-/

namespace CodeDigest.Text

/-- The characters with the Unicode property White_Space. -/
def isBlank (c : Char) : Bool :=
  let n := c.toNat
  (9 ≤ n && n ≤ 13) || n == 0x20 || n == 0x85 || n == 0xA0 || n == 0x1680
    || (0x2000 ≤ n && n ≤ 0x200A) || n == 0x2028 || n == 0x2029 || n == 0x202F
    || n == 0x205F || n == 0x3000

/-- Every blank of the ASCII class of the core library is a blank here. -/
theorem isBlank_of_isWhitespace {c : Char} (h : c.isWhitespace = true) : isBlank c = true := by
  simp only [Char.isWhitespace, Bool.or_eq_true, decide_eq_true_eq] at h
  rcases h with ((h | h) | h) | h <;> subst h <;> rfl

/-- Drops the blanks in front. -/
def trimStart (cs : List Char) : List Char := cs.dropWhile isBlank

/-- Drops the blanks at the end. -/
def trimEnd (cs : List Char) : List Char := (cs.reverse.dropWhile isBlank).reverse

/-- Drops the blanks at both ends. -/
def trim (cs : List Char) : List Char := trimEnd (trimStart cs)

@[simp] theorem trimStart_nil : trimStart [] = [] := rfl

@[simp] theorem trimEnd_nil : trimEnd [] = [] := rfl

@[simp] theorem trim_nil : trim [] = [] := rfl

/-- A text that starts with a character that is not blank loses nothing in front. -/
theorem trimStart_cons_of_not_blank {c : Char} (h : isBlank c = false) (cs : List Char) :
    trimStart (c :: cs) = c :: cs := by
  simp [trimStart, h]

/-- A text that ends in a character that is not blank loses nothing at the end. -/
theorem trimEnd_append_of_not_blank {c : Char} (h : isBlank c = false) (cs : List Char) :
    trimEnd (cs ++ [c]) = cs ++ [c] := by
  simp [trimEnd, h]

/-- Whether nothing but blanks is left. -/
def allBlank (cs : List Char) : Bool := cs.all isBlank

end CodeDigest.Text

namespace CodeDigest

/-- The text without the blanks at its two ends. -/
def trimmed (s : String) : String := String.ofList (Text.trim s.toList)

/-- The trimmed text, when something is left of it. -/
def trimmed? (s : String) : Option String :=
  let t := trimmed s
  if t.isEmpty then none else some t

end CodeDigest
