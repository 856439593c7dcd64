import CodeDigest.Text.CaseTable

/-!
# Letter case

Lowercase texts and uppercase initials.  The mappings are the full Unicode ones: a character can
become several (`İ` in lowercase, `ß` in uppercase), and a capital sigma becomes the final form `ς`
where it ends a word.  A word ends there when a cased character comes before the sigma and none
comes after it, characters with the property Case_Ignorable being looked through on both sides.
-/

namespace CodeDigest.Text

/-- The form of `c` that the first run covering it gives. -/
def mapByRuns (runs : List CaseRun) (c : Char) : Char :=
  match runs.find? (·.covers c.toNat) with
  | some run => Char.ofNat (c.toNat + run.shift).toNat
  | none => c

/-- The lowercase form of one character on its own. -/
def lowercaseChar (c : Char) : List Char :=
  if c.toNat < 128 then [c.toLower]
  else if c == 'İ' then ['i', Char.ofNat 0x307]
  else [mapByRuns lowercaseRuns c]

/-- The uppercase form of one character on its own. -/
def uppercaseChar (c : Char) : List Char :=
  if c.toNat < 128 then [c.toUpper]
  else
    match uppercaseExpansions.lookup c.toNat with
    | some codes => codes.map Char.ofNat
    | none => [mapByRuns uppercaseRuns c]

/-- Whether one of the ranges holds the character. -/
def inCaseRanges (ranges : List (Nat × Nat)) (c : Char) : Bool :=
  ranges.any fun (low, high) => low ≤ c.toNat && c.toNat ≤ high

/-- Whether the first character that is not case-ignorable is cased. -/
def casedNext (cs : List Char) : Bool :=
  match cs.dropWhile (inCaseRanges caseIgnorableRanges) with
  | [] => false
  | c :: _ => inCaseRanges casedRanges c

/-- The lowercase form of a character with `before` in front of it, nearest first, and `after`
behind it. -/
def lowercaseAt (before after : List Char) (c : Char) : List Char :=
  if c == 'Σ' then [if casedNext before && !casedNext after then 'ς' else 'σ']
  else lowercaseChar c

/-- Lowercase of a text that has `before` in front of it, nearest first; `done` is the lowercase
form of that, in reverse. -/
def lowercaseFrom (done before : List Char) : List Char → List Char
  | [] => done.reverse
  | c :: cs => lowercaseFrom ((lowercaseAt before cs c).reverse ++ done) (c :: before) cs

/-- The lowercase form of a text. -/
def lowercase (cs : List Char) : List Char := lowercaseFrom [] [] cs

/-- The text with its first character in uppercase and every other character in lowercase. -/
def titleCase : List Char → List Char
  | [] => []
  | c :: cs => uppercaseChar c ++ cs.flatMap lowercaseChar

end CodeDigest.Text

namespace CodeDigest

/-- The lowercase form of a text. -/
def lowercased (s : String) : String := String.ofList (Text.lowercase s.toList)

/-- The text with its first character in uppercase and every other character in lowercase. -/
def titleCased (s : String) : String := String.ofList (Text.titleCase s.toList)

end CodeDigest
