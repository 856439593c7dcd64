import CodeDigest.Decimal.Binary

/-!
# The fewest digits that read back

A decimal `digits · 10 ^ power` reads back as a binary number when it lies in the interval of reals
that round to that number; the ends belong to it exactly when the mantissa is even, since a tie is
rounded to the even mantissa.  The shortest decimal is the one with the fewest digits among these,
and of several with as few digits the one nearest to the number.

If any decimal with a given last place lies in the interval, then so does one of the two neighbours
of the number on that grid, because the number itself lies in the interval.  So it is enough to try
the two neighbours, from one digit upwards.
-/

namespace CodeDigest.Decimal

/-- The decimal `digits · 10 ^ power`. -/
structure Digits where
  digits : Nat
  power : Int
deriving Repr, DecidableEq

/-- How many decimal digits a number has; zero has one. -/
def digitCount (n : Nat) : Nat := (Nat.toDigits 10 n).length

/-- The power of ten of the leading digit of a positive fraction. -/
def Fraction.leadingPower (x : Fraction) : Int :=
  if x.den ≤ x.num then digitCount (x.num / x.den) - 1
  else -(digitCount ((x.den + x.num - 1) / x.num - 1) : Int)

/-- The interval of reals that round to a positive binary number, all over one denominator. -/
structure Basin where
  low : Nat
  value : Nat
  high : Nat
  den : Nat
  closed : Bool

/-- The interval of a positive binary number. -/
def Binary.basin (b : Binary) : Basin :=
  let quarter := Fraction.scaleTwo 1 (b.exponent - 2)
  { low := (4 * b.mantissa - if b.lowerIsDenser then 1 else 2) * quarter.num
    value := 4 * b.mantissa * quarter.num
    high := (4 * b.mantissa + 2) * quarter.num
    den := quarter.den
    closed := b.mantissa % 2 == 0 }

/-- `10 ^ power` as a fraction. -/
def tenPower (power : Int) : Fraction :=
  match power with
  | .ofNat k => ⟨Nat.pow 10 k, 1⟩
  | .negSucc k => ⟨1, Nat.pow 10 (k + 1)⟩

/-- Whether `n · 10 ^ power` lies in the interval. -/
def Basin.holds (b : Basin) (n : Nat) (power : Int) : Bool :=
  let unit := tenPower power
  let x := n * unit.num * b.den
  if b.closed then b.low * unit.den ≤ x && x ≤ b.high * unit.den
  else b.low * unit.den < x && x < b.high * unit.den

/-- The neighbour of the number on the grid `10 ^ power` that lies in the interval; of two the
nearer one, and the even one of two that are equally near. -/
def Basin.nearest? (b : Basin) (power : Int) : Option Nat :=
  let unit := tenPower power
  let num := b.value * unit.den
  let den := b.den * unit.num
  let below := num / den
  let twiceRest := 2 * (num % den)
  match b.holds below power && below != 0, b.holds (below + 1) power with
  | true, true =>
    if twiceRest < den || (twiceRest == den && below % 2 == 0) then some below
    else some (below + 1)
  | true, false => some below
  | false, true => some (below + 1)
  | false, false => none

/-- Tries the grids from `power` downwards, `tries` of them. -/
def Basin.search (b : Basin) : Nat → Int → Digits
  | 0, power => ⟨b.value * (tenPower power).den / (b.den * (tenPower power).num), power⟩
  | tries + 1, power =>
    match b.nearest? power with
    | some n => ⟨n, power⟩
    | none => b.search tries (power - 1)

/-- Moves trailing zeros of the digits into the power; `fuel` bounds their number. -/
def Digits.stripZeros : Nat → Digits → Digits
  | 0, d => d
  | fuel + 1, d =>
    if d.digits % 10 == 0 && d.digits != 0 then Digits.stripZeros fuel ⟨d.digits / 10, d.power + 1⟩
    else d

/-- The shortest decimal that reads back as the magnitude of `b`. -/
def Binary.shortest (b : Binary) : Digits :=
  if b.mantissa == 0 then ⟨0, 0⟩
  else
    let d := b.basin.search 17 b.magnitude.leadingPower
    d.stripZeros (digitCount d.digits)

end CodeDigest.Decimal
