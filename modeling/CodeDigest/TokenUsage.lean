import CodeDigest.Json.Record

/-!
# The use of tokens

How many tokens a language model has read and written.  Counts have 32 bits, and so has their sum,
which stays at the largest count when it would exceed it.
-/

namespace CodeDigest

/-- The tokens of an exchange. -/
structure TokenUsage where
  input : Nat
  output : Nat
deriving Repr, DecidableEq

namespace TokenUsage

/-- The largest count. -/
def limit : Nat := 0xFFFFFFFF

/-- The number of all tokens. -/
def total (u : TokenUsage) : Nat := min (u.input + u.output) limit

theorem total_le_limit (u : TokenUsage) : u.total ≤ limit := Nat.min_le_right ..

open Json

/-- The counts as JSON. -/
def toJson (u : TokenUsage) : Json :=
  .object [("input_tokens", nat u.input), ("output_tokens", nat u.output)]

/-- Reads counts. -/
def ofJson? : Json → Option TokenUsage :=
  readRecord do
    let input ← field "input_tokens" (readNatBelow 32)
    let output ← field "output_tokens" (readNatBelow 32)
    return ⟨input, output⟩

end TokenUsage

end CodeDigest
