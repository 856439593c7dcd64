/-!
# Binary floating-point numbers as exact fractions

A finite number of a binary format is `± mantissa · 2 ^ exponent` with a natural mantissa.  The
reals that round to it form an interval around it; `Binary` keeps what is needed to name that
interval in whole numbers, so all that follows is exact arithmetic on `Nat`.
-/

namespace CodeDigest.Decimal

/-- A finite binary number. -/
structure Binary where
  negative : Bool
  mantissa : Nat
  exponent : Int
  /-- The numbers below are twice as dense as those above: the mantissa is the least of its binade
  and the binade is not the lowest one. -/
  lowerIsDenser : Bool

/-- What a floating-point word holds. -/
inductive Reading where
  | finite (value : Binary)
  | infinite (negative : Bool)
  | notANumber

/-- Reads a word with `fraction` low bits of fraction and an exponent field of `width` bits. -/
def Reading.ofWord (fraction width : Nat) (word : Nat) : Reading :=
  let low := word % Nat.pow 2 fraction
  let field := word / Nat.pow 2 fraction % Nat.pow 2 width
  let negative := word / Nat.pow 2 (fraction + width) % 2 == 1
  let bias : Int := Nat.pow 2 (width - 1) - 1 + fraction
  if field == Nat.pow 2 width - 1 then
    if low == 0 then .infinite negative else .notANumber
  else if field == 0 then
    .finite ⟨negative, low, 1 - bias, false⟩
  else
    .finite ⟨negative, Nat.pow 2 fraction + low, field - bias, low == 0 && field != 1⟩

/-- Reads a double-precision number. -/
def Reading.ofDouble (x : Float) : Reading := Reading.ofWord 52 11 x.toBits.toNat

/-- Reads a single-precision number. -/
def Reading.ofSingle (x : Float32) : Reading := Reading.ofWord 23 8 x.toBits.toNat

/-- A non-negative fraction. -/
structure Fraction where
  num : Nat
  den : Nat

/-- `n · 2 ^ e` as a fraction. -/
def Fraction.scaleTwo (n : Nat) (e : Int) : Fraction :=
  match e with
  | .ofNat k => ⟨n * Nat.pow 2 k, 1⟩
  | .negSucc k => ⟨n, Nat.pow 2 (k + 1)⟩

/-- The magnitude of a binary number. -/
def Binary.magnitude (b : Binary) : Fraction := Fraction.scaleTwo b.mantissa b.exponent

end CodeDigest.Decimal
