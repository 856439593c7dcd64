import CodeDigest.Json.Printer

/-!
# Percent-encoding

An address holds only some of the ASCII characters as they are.  Any other character is written as
its UTF-8 bytes, each as a percent sign and two hexadecimal digits.  Which ASCII characters need
that depends on the part of the address: each part names its own list.
-/

namespace CodeDigest.Url

/-- The marks that a fragment does not hold. -/
def fragmentMarks : List Char := " \"<>\x60".toList

/-- The marks that a path does not hold. -/
def pathMarks : List Char := fragmentMarks ++ "#?\x7b\x7d".toList

/-- The marks that a user name or a password does not hold. -/
def userMarks : List Char := pathMarks ++ "/:;=@[\\]^|".toList

/-- The marks that no query holds. -/
def opaqueQueryMarks : List Char := " \"#<>".toList

/-- The marks that the query of a web address does not hold. -/
def queryMarks : List Char := opaqueQueryMarks ++ ['\'']

/-- Whether a part that does not hold `marks` holds the character: control characters and what is
not ASCII are in no part. -/
def isHeld (marks : List Char) (c : Char) : Bool :=
  0x20 ≤ c.toNat && c.toNat < 0x7F && !marks.contains c

/-- A byte as a percent sign and two digits. -/
def percentByte (b : UInt8) : List Char :=
  ['%', (Json.hexDigit (b.toNat / 16)).toUpper, (Json.hexDigit (b.toNat % 16)).toUpper]

/-- A text as a part that does not hold `marks`. -/
def percentEncode (marks : List Char) (cs : List Char) : List Char :=
  cs.flatMap fun c =>
    if isHeld marks c then [c] else (String.singleton c).toUTF8.toList.flatMap percentByte

/-- A text whose characters are all held is written as it is. -/
theorem percentEncode_of_held {marks cs : List Char} (h : ∀ c ∈ cs, isHeld marks c = true) :
    percentEncode marks cs = cs := by
  induction cs with
  | nil => rfl
  | cons c cs ih =>
    have hc := h c (by simp)
    have hcs := ih fun d hd => h d (by simp [hd])
    simp only [percentEncode, List.flatMap_cons, hc, if_true] at hcs ⊢
    rw [hcs, List.singleton_append]

/-- The value of a hexadecimal digit. -/
def hexValue? (c : Char) : Option Nat :=
  if c.isDigit then some (c.toNat - 48)
  else if 'a' ≤ c && c ≤ 'f' then some (c.toNat - 87)
  else if 'A' ≤ c && c ≤ 'F' then some (c.toNat - 55)
  else none

/-- The bytes that a text stands for; a percent sign without two digits stands for itself. -/
def percentDecode : List Char → List UInt8
  | [] => []
  | '%' :: a :: b :: cs =>
    match hexValue? a, hexValue? b with
    | some high, some low => (16 * high + low).toUInt8 :: percentDecode cs
    | _, _ => '%'.toUInt8 :: percentDecode (a :: b :: cs)
  | c :: cs => (String.singleton c).toUTF8.toList ++ percentDecode cs

end CodeDigest.Url
