import CodeDigest.Url.Percent

/-!
# Punycode

The ASCII form of a label with other characters.  The ASCII characters come first, and the
others follow as a run of numbers in increasing order of code points: each number says how many
steps of the pair (code point, position) to go on to the next insertion.  A number is written with
digits of a base that varies from place to place, the thresholds following a bias that is adapted
after each number.
-/

namespace CodeDigest.Url.Punycode

/-- The digit for a value below 36. -/
def digit (n : Nat) : Char := Char.ofNat (if n < 26 then 97 + n else 22 + n)

/-- The value of a digit. -/
def digitValue? (c : Char) : Option Nat :=
  if c.isDigit then some (c.toNat - 22)
  else if c.isLower then some (c.toNat - 97)
  else if c.isUpper then some (c.toNat - 65)
  else none

/-- The threshold at a place, which counts in steps of 36. -/
def threshold (bias place : Nat) : Nat :=
  if place ≤ bias then 1 else if bias + 26 ≤ place then 26 else place - bias

theorem one_le_threshold (bias place : Nat) : 1 ≤ threshold bias place := by
  unfold threshold
  repeat' split
  all_goals omega

/-- Divides by 35 until the value fits, counting the places. -/
def shrink (delta places : Nat) : Nat × Nat :=
  if 455 < delta then shrink (delta / 35) (places + 36) else (delta, places)
termination_by delta
decreasing_by omega

/-- The bias after a number, when the text has `count` characters. -/
def adapt (delta count : Nat) (first : Bool) : Nat :=
  let delta := if first then delta / 700 else delta / 2
  let (delta, places) := shrink (delta + delta / count) 0
  places + 36 * delta / (delta + 38)

/-! ## Writing -/

/-- The digits of a number. -/
def digits (bias place n : Nat) : List Char :=
  let t := threshold bias place
  if n < t then [digit n]
  else digit (t + (n - t) % (36 - t)) :: digits bias (place + 36) ((n - t) / (36 - t))
termination_by n
decreasing_by
  have h := one_le_threshold bias place
  have hd := Nat.div_le_self (n - threshold bias place) (36 - threshold bias place)
  omega

/-- Where the writing of a text has got to. -/
structure Progress where
  /-- The digits so far, the last one first. -/
  done : List Char
  /-- The steps since the last insertion. -/
  delta : Nat
  bias : Nat
  /-- How many characters are written. -/
  count : Nat

/-- Goes on past one character of the text, while characters with the code `code` are inserted. -/
def Progress.pass (basic code : Nat) (p : Progress) (c : Char) : Progress :=
  if c.toNat < code then { p with delta := p.delta + 1 }
  else if c.toNat = code then
    { done := (digits p.bias 36 p.delta).reverse ++ p.done
      delta := 0
      bias := adapt p.delta (p.count + 1) (p.count == basic)
      count := p.count + 1 }
  else p

/-- Inserts the characters with the codes in the list, which is in increasing order and starts at
`least` or later. -/
def insertAll (text : List Char) (basic least : Nat) (p : Progress) : List Nat → Progress
  | [] => p
  | code :: codes =>
    let p := { p with delta := p.delta + (code - least) * (p.count + 1) }
    let p := text.foldl (Progress.pass basic code) p
    insertAll text basic (code + 1) { p with delta := p.delta + 1 } codes

/-- The ASCII form of a text. -/
def encode (text : List Char) : List Char :=
  let basic := text.filter (·.toNat < 128)
  let codes := ((text.map Char.toNat).filter (128 ≤ ·)).mergeSort.eraseReps
  let p := insertAll text basic.length 128 ⟨[], 0, 72, basic.length⟩ codes
  basic ++ (if basic.isEmpty then [] else ['-']) ++ p.done.reverse

/-! ## Reading -/

/-- Reads the digits of one number: what they add to `sum`, and what follows them. -/
def number? (bias place weight sum : Nat) : List Char → Option (Nat × List Char)
  | [] => none
  | c :: cs =>
    match digitValue? c with
    | none => none
    | some d =>
      let t := threshold bias place
      if d < t then some (sum + d * weight, cs)
      else number? bias (place + 36) (weight * (36 - t)) (sum + d * weight) cs

/-- Inserts a character for each number; every number takes a digit at least, so the fuel is the
number of digits. -/
def insertNumbers (fuel code position bias : Nat) (text digits : List Char) : Option (List Char) :=
  match fuel, digits with
  | _, [] => some text
  | 0, _ => none
  | fuel + 1, cs =>
    match number? bias 36 1 0 cs with
    | none => none
    | some (n, rest) =>
      let count := text.length + 1
      let code := code + (position + n) / count
      let place := (position + n) % count
      if code < 0x110000 then
        insertNumbers fuel code (place + 1) (adapt n count (position == 0))
          (text.take place ++ Char.ofNat code :: text.drop place) rest
      else none

/-- The text of an ASCII form. -/
def decode? (cs : List Char) : Option (List Char) :=
  let (back, front) := cs.reverse.span (· != '-')
  let text := (front.drop 1).reverse
  insertNumbers back.length 128 0 72 text back.reverse

end CodeDigest.Url.Punycode
