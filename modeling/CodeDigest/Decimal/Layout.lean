import CodeDigest.Decimal.Shortest

/-!
# Writing decimals

How the digits of a number are laid out.  A `Layout` says where positional notation ends, whether a
whole number keeps `.0`, and how infinities and the absence of a number are spelled; each place that
writes numbers names its layout.  `fixedPlaces` rounds to a number of places instead, a half going
to the even neighbour of the exact value.
-/

namespace CodeDigest.Decimal

/-- The choices of a text form for numbers. -/
structure Layout where
  /-- Positional notation is used when the leading digit's power of ten is at least this. -/
  leastPower : Option Int
  /-- … and less than this. -/
  endPower : Option Int
  /-- A whole number in positional notation ends in `.0`. -/
  keepsPoint : Bool

/-- Only positional notation, and whole numbers without a point. -/
def Layout.plain : Layout := ⟨none, none, false⟩

/-- Only positional notation, and whole numbers with `.0`. -/
def Layout.pointed : Layout := ⟨none, none, true⟩

/-- Positional notation from `1e-5` up to below `1e16`. -/
def Layout.wide : Layout := ⟨some (-5), some 16, true⟩

/-- Positional notation from `1e-6` up to below `1e13`, for single precision. -/
def Layout.narrow : Layout := ⟨some (-6), some 13, true⟩

/-- The decimal digits of a natural number. -/
def digitsOf (n : Nat) : List Char := Nat.toDigits 10 n

/-- Puts the point into the digits; `d.power` says how many places stand behind it. -/
def positional (keepsPoint : Bool) (d : Digits) : List Char :=
  let ds := digitsOf d.digits
  match d.power with
  | .ofNat k =>
    let whole := if d.digits == 0 then ds else ds ++ List.replicate k '0'
    if keepsPoint then whole ++ ['.', '0'] else whole
  | .negSucc k =>
    let places := k + 1
    if ds.length ≤ places then
      ['0', '.'] ++ List.replicate (places - ds.length) '0' ++ ds
    else ds.take (ds.length - places) ++ ['.'] ++ ds.drop (ds.length - places)

/-- One digit, the other digits behind a point if there are any, and the exponent. -/
def scientific (d : Digits) : List Char :=
  let ds := digitsOf d.digits
  let exponent : Int := d.power + (ds.length - 1)
  let tail := ds.drop 1
  ds.take 1 ++ (if tail.isEmpty then [] else '.' :: tail) ++ ['e'] ++ (toString exponent).toList

/-- Whether the layout writes these digits positionally. -/
def Layout.isPositional (l : Layout) (d : Digits) : Bool :=
  let leading : Int := d.power + (digitCount d.digits - 1)
  d.digits == 0 || (l.leastPower.all (· ≤ leading) && l.endPower.all (leading < ·))

/-- The text of a magnitude. -/
def Layout.digits (l : Layout) (d : Digits) : List Char :=
  if l.isPositional d then positional l.keepsPoint d else scientific d

/-- The text of a number. -/
def Layout.write (l : Layout) : Reading → String
  | .finite b => String.ofList ((if b.negative then ['-'] else []) ++ l.digits b.shortest)
  | .infinite negative => if negative then "-inf" else "inf"
  | .notANumber => "NaN"

/-- `num / den` rounded to the nearest whole number, a half going to the even neighbour. -/
def roundHalfEven (num den : Nat) : Nat :=
  let below := num / den
  let twiceRest := 2 * (num % den)
  if twiceRest < den || (twiceRest == den && below % 2 == 0) then below else below + 1

/-- The text of a number with exactly `places` digits behind the point (and no point for none). -/
def fixedPlaces (places : Nat) : Reading → String
  | .finite b =>
    let x := b.magnitude
    let n := roundHalfEven (x.num * Nat.pow 10 places) x.den
    let ds := digitsOf n
    let ds := List.replicate (places + 1 - ds.length) '0' ++ ds
    let whole := ds.take (ds.length - places)
    String.ofList ((if b.negative then ['-'] else []) ++ whole
      ++ if places == 0 then [] else '.' :: ds.drop (ds.length - places))
  | .infinite negative => if negative then "-inf" else "inf"
  | .notANumber => "NaN"

end CodeDigest.Decimal

namespace CodeDigest

/-- A number in running text: shortest digits, never an exponent, no point for whole numbers. -/
def plainNumber (x : Float) : String := Decimal.Layout.plain.write (.ofDouble x)

/-- A number in running text with a fixed number of places. -/
def roundedNumber (places : Nat) (x : Float) : String := Decimal.fixedPlaces places (.ofDouble x)

end CodeDigest
