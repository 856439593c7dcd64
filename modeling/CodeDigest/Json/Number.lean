import CodeDigest.Json.Basic

/-!
# Reading numbers

A JSON number is an optional minus sign, a whole part without leading zeros, an optional fraction
and an optional exponent.  `Numeral` holds these parts as written; `Numeral.value?` says which
number they denote.

Whole numbers from `-2 ^ 63` up to below `2 ^ 64` denote themselves.  Anything else is computed in
double precision from a significand of at most 64 bits, the digits beyond it being dropped, and one
multiplication or division by a power of ten (several when the power is below `1e-308`).  The
result can differ from the nearest number in its last bit.  A result that is too large is refused.
-/

namespace CodeDigest.Json

/-- The parts of a number as written. -/
structure Numeral where
  negative : Bool
  whole : List Char
  /-- The digits behind the point, when there is one. -/
  fraction : Option (List Char)
  /-- Whether the exponent is negative, and its digits. -/
  exponent : Option (Bool × List Char)

/-- Splits off the digits in front. -/
def digitRun (cs : List Char) : List Char × List Char :=
  (cs.takeWhile Char.isDigit, cs.dropWhile Char.isDigit)

/-- The fraction of a number and what follows it; a point needs a digit behind it. -/
def readFraction : List Char → Option (Option (List Char) × List Char)
  | '.' :: cs =>
    match digitRun cs with
    | ([], _) => none
    | (ds, rest) => some (some ds, rest)
  | cs => some (none, cs)

/-- The exponent of a number, which needs a digit and ends it. -/
def readExponent : List Char → Option (Option (Bool × List Char))
  | [] => some none
  | e :: cs =>
    if e == 'e' || e == 'E' then
      let (negative, cs) :=
        match cs with
        | '-' :: cs => (true, cs)
        | '+' :: cs => (false, cs)
        | cs => (false, cs)
      match digitRun cs with
      | ([], _) => none
      | (ds, []) => some (some (negative, ds))
      | _ => none
    else none

/-- The parts of a number, when the text is one. -/
def Numeral.ofText? (text : List Char) : Option Numeral := do
  let (negative, cs) :=
    match text with
    | '-' :: cs => (true, cs)
    | cs => (false, cs)
  let (whole, cs) := digitRun cs
  if whole.isEmpty || (whole.head? == some '0' && whole.length != 1) then none
  let (fraction, cs) ← readFraction cs
  let exponent ← readExponent cs
  some ⟨negative, whole, fraction, exponent⟩

/-- The value of a digit. -/
def digitValue (c : Char) : Nat := c.toNat - 48

/-- The number that digits denote. -/
def digitsValue (ds : List Char) : Nat := ds.foldl (fun n c => 10 * n + digitValue c) 0

/-- Appends digits to a significand while it stays below `2 ^ 64`; the digits left over come back
with it. -/
def takeSignificand (significand : Nat) : List Char → Nat × List Char
  | [] => (significand, [])
  | c :: cs =>
    if 10 * significand + digitValue c < 0x10000000000000000 then
      takeSignificand (10 * significand + digitValue c) cs
    else (significand, c :: cs)

/-- `10 ^ n` in double precision, for `n ≤ 308`. -/
def doubleTenPower (n : Nat) : Float := Float.ofScientific 1 false n

/-- Divides by `1e308` until the remaining power of ten has an entry of its own. -/
def scaleDown : Nat → Float → Nat → Float
  | 0, x, _ => x
  | fuel + 1, x, n =>
    if n ≤ 308 then x / doubleTenPower n
    else if x == 0 then x
    else scaleDown fuel (x / 1e308) (n - 308)

/-- `significand · 10 ^ power`, when it is not too large. -/
def scaleDouble? (significand : Nat) (power : Int) : Option Float :=
  let x := significand.toUInt64.toFloat
  match power with
  | .ofNat n =>
    if n ≤ 308 then
      let y := x * doubleTenPower n
      if y.isInf then none else some y
    else if x == 0 then some x
    else none
  | .negSucc n => some (scaleDown (n / 308 + 2) x (n + 1))

/-- The size of a number that is not a whole number of 64 bits. -/
def Numeral.magnitude? (t : Numeral) : Option Float :=
  let (significand, dropped) := takeSignificand 0 t.whole
  let (significand, power) :=
    match t.fraction with
    | none => (significand, (dropped.length : Int))
    | some ds =>
      let (s, rest) := takeSignificand significand ds
      (s, (dropped.length : Int) - (ds.length - rest.length : Nat))
  match t.exponent with
  | none => scaleDouble? significand power
  | some (negative, ds) =>
    let e := digitsValue ds
    if e < 0x80000000 then scaleDouble? significand (power + if negative then -(e : Int) else e)
    else if significand != 0 && !negative then none
    else some 0

/-- The number that the parts denote, unless it is too large. -/
def Numeral.value? (t : Numeral) : Option Number :=
  let n := digitsValue t.whole
  if t.fraction.isNone && t.exponent.isNone && !t.negative && n < 0x10000000000000000 then
    some (.whole n)
  else if t.fraction.isNone && t.exponent.isNone && t.negative && n != 0
      && n ≤ 0x8000000000000000 then
    some (.whole (-n))
  else t.magnitude?.map fun x => .double (if t.negative then -x else x)

/-- The number a text denotes. -/
def Number.ofText? (text : List Char) : Option Number := (Numeral.ofText? text).bind Numeral.value?

end CodeDigest.Json
