import CodeDigest.Json.Number

/-!
# Numbers, switches and dates in TOML

A word that is no string is a switch, a number or a date.  Whole numbers fit 64 bits with a sign and
may be written in four bases, with single underscores between digits; numbers with a point or an
exponent are of double precision.  A date stands for itself: its value is an object with its text.
-/

namespace CodeDigest.Toml

/-- The characters that words are made of. -/
def isWordChar (c : Char) : Bool :=
  c.isAlphanum || c == '+' || c == '-' || c == '_' || c == '.' || c == ':'

/-- Digits without the underscores between them; every underscore has a digit at each side. -/
def digits? (isDigit : Char → Bool) : List Char → Option (List Char)
  | [] => none
  | [c] => if isDigit c then some [c] else none
  | c :: '_' :: rest => if isDigit c then (digits? isDigit rest).map (c :: ·) else none
  | c :: rest => if isDigit c then (digits? isDigit rest).map (c :: ·) else none

/-- The value of a digit in bases up to sixteen. -/
def digitValue (c : Char) : Nat :=
  if c.isDigit then c.toNat - 48 else if c.toNat < 97 then c.toNat - 55 else c.toNat - 87

/-- Whether a character is a digit in a base. -/
def isDigitIn (base : Nat) (c : Char) : Bool :=
  (c.isDigit || ('a' ≤ c && c ≤ 'f') || ('A' ≤ c && c ≤ 'F')) && digitValue c < base

/-- The number that digits denote in a base. -/
def valueIn (base : Nat) (ds : List Char) : Nat := ds.foldl (fun n c => base * n + digitValue c) 0

/-- A whole number in a base other than ten. -/
def based? (base : Nat) (cs : List Char) : Option Json :=
  (digits? (isDigitIn base) cs).bind fun ds =>
    if valueIn base ds < 0x8000000000000000 then some (.int (valueIn base ds)) else none

/-- The sign in front of a number and what follows it. -/
def sign : List Char → Bool × List Char
  | '-' :: cs => (true, cs)
  | '+' :: cs => (false, cs)
  | cs => (false, cs)

/-- Decimal digits without a zero in front of others. -/
def wholePart? (cs : List Char) : Option (List Char) :=
  (digits? Char.isDigit cs).bind fun ds =>
    if ds.head? == some '0' && ds.length != 1 then none else some ds

/-- A decimal whole number. -/
def whole? (cs : List Char) : Option Json :=
  let (negative, cs) := sign cs
  (wholePart? cs).bind fun ds =>
    let n := valueIn 10 ds
    if negative then if n ≤ 0x8000000000000000 then some (.int (-n)) else none
    else if n < 0x8000000000000000 then some (.int n)
    else none

/-- The number `digits · 10 ^ power`, rounded to the nearest one. -/
def nearestDouble (digits : List Char) (power : Int) : Float :=
  let n := valueIn 10 digits
  match power with
  | .ofNat k =>
    if n == 0 then 0
    else if 400 < k then 1.0 / 0.0
    else Float.ofScientific (n * Nat.pow 10 k) false 0
  | .negSucc k => if n == 0 || 400 + digits.length < k then 0 else Float.ofScientific n true (k + 1)

/-- A number with a point or an exponent; one that is too large is refused unless it is negative. -/
def float? (cs : List Char) : Option Json := do
  let (negative, cs) := sign cs
  let (mantissa, rest) := cs.span fun c => c != 'e' && c != 'E'
  let (front, behind) := mantissa.span (· != '.')
  let front ← wholePart? front
  let fraction ←
    match behind with
    | [] => if rest.isEmpty then none else some []
    | _ :: ds => digits? Char.isDigit ds
  let exponent : Int ←
    match rest with
    | [] => some 0
    | _ :: ds =>
      let (down, ds) := sign ds
      (digits? Char.isDigit ds).map fun ds =>
        if down then -(valueIn 10 ds : Int) else (valueIn 10 ds : Int)
  let x := nearestDouble (front ++ fraction) (exponent - fraction.length)
  if negative then return .double (-x) else if x.isInf then none else return .double x

/-- Not a number. -/
def notANumber : Float := 0.0 / 0.0

/-- The numbers that have names. -/
def named? (cs : List Char) : Option Json :=
  let (negative, cs) := sign cs
  if cs == "inf".toList then some (.double (if negative then -1.0 / 0.0 else 1.0 / 0.0))
  else if cs == "nan".toList then some (.double notANumber)
  else none

/-! ## Dates and times -/

/-- The number of exactly `count` digits, if it lies between two limits. -/
def field? (count low high : Nat) (cs : List Char) : Option (Nat × List Char) :=
  let ds := cs.take count
  let n := valueIn 10 ds
  if ds.length == count && ds.all Char.isDigit && low ≤ n && n ≤ high then some (n, cs.drop count)
  else none

/-- What follows a character. -/
def after? (c : Char) : List Char → Option (List Char)
  | d :: rest => if c == d then some rest else none
  | [] => none

/-- The number of days in a month. -/
def daysIn (year month : Nat) : Nat :=
  if month == 2 then if year % 4 == 0 && (year % 100 != 0 || year % 400 == 0) then 29 else 28
  else if [4, 6, 9, 11].contains month then 30
  else 31

/-- What follows a date. -/
def afterDate? (cs : List Char) : Option (List Char) := do
  let (year, cs) ← field? 4 0 9999 cs
  let (month, cs) ← field? 2 1 12 (← after? '-' cs)
  let (_, cs) ← field? 2 1 (daysIn year month) (← after? '-' cs)
  return cs

/-- What follows a time of day. -/
def afterTime? (cs : List Char) : Option (List Char) := do
  let (_, cs) ← field? 2 0 23 cs
  let (_, cs) ← field? 2 0 59 (← after? ':' cs)
  let (_, cs) ← field? 2 0 60 (← after? ':' cs)
  match cs with
  | '.' :: rest =>
    if (rest.takeWhile Char.isDigit).isEmpty then none else return rest.dropWhile Char.isDigit
  | _ => return cs

/-- Whether a text is nothing or the offset of a time zone. -/
def isOffset (cs : List Char) : Bool :=
  match cs with
  | [] => true
  | ['Z'] => true
  | ['z'] => true
  | c :: rest =>
    (c == '+' || c == '-')
      && (do
        let (_, cs) ← field? 2 0 23 rest
        let (_, cs) ← field? 2 0 59 (← after? ':' cs)
        some cs) == some []

/-- Whether a text is a date, a time, or both with a letter between them. -/
def isDate (cs : List Char) : Bool :=
  match afterDate? cs with
  | some [] => true
  | some (c :: rest) => (c == 'T' || c == 't') && (afterTime? rest).any isOffset
  | none => afterTime? cs == some []

/-- The value of a date. -/
def dateValue (cs : List Char) : Json := .object [("datetime", .string (String.ofList cs))]

/-- The value of a word. -/
def scalar? (cs : List Char) : Option Json :=
  if cs == "true".toList then some (.bool true)
  else if cs == "false".toList then some (.bool false)
  else
    match cs with
    | '0' :: 'x' :: rest => based? 16 rest
    | '0' :: 'o' :: rest => based? 8 rest
    | '0' :: 'b' :: rest => based? 2 rest
    | _ =>
      if isDate cs then some (dateValue cs)
      else (named? cs).or ((whole? cs).or (float? cs))

/-- Reads a word at the front of a text; a date may go on behind a single space with a time. -/
def readScalar? (cs : List Char) : Option (Json × List Char) :=
  let word := cs.takeWhile isWordChar
  let rest := cs.dropWhile isWordChar
  let longer := word ++ 'T' :: (rest.drop 1).takeWhile isWordChar
  if afterDate? word == some [] && rest.head? == some ' ' && isDate longer then
    some (dateValue longer, (rest.drop 1).dropWhile isWordChar)
  else (scalar? word).map fun v => (v, rest)

end CodeDigest.Toml
