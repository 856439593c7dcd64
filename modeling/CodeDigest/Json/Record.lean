import CodeDigest.Decimal.Binary
import CodeDigest.Json.Basic

/-!
# Reading records from JSON

A record is read from an object by the names of its fields, or from an array by their positions.
Members of an object that are no field are passed over; an array must hold neither too many
elements nor, unless the fields at its end have defaults, too few.

A field is one of four kinds.  `field` must be there.  `fieldOr` has a default for a missing value.
`option` may be missing from an object or be null.  `optionOr` may in addition be missing at the end
of an array.
-/

namespace CodeDigest.Json

/-- The values that a record's fields are taken from. -/
inductive FieldSource where
  | named (members : List (String × Json))
  | positional (rest : List Json)

/-- Reads some fields of a record. -/
abbrev RecordReader (α : Type) := FieldSource → Option (α × FieldSource)

namespace RecordReader

variable {α β : Type}

/-- Reads no field. -/
def pure (a : α) : RecordReader α := fun source => some (a, source)

/-- Reads the fields of one reader, then those of the next. -/
def bind (r : RecordReader α) (k : α → RecordReader β) : RecordReader β := fun source =>
  (r source).bind fun (a, source) => k a source

instance : Monad RecordReader where
  pure := pure
  bind := bind

end RecordReader

variable {α : Type}

/-- The value of the next field, if it is there, and what is left. -/
def FieldSource.next (name : String) : FieldSource → Option Json × FieldSource
  | .named members => (members.lookup name, .named members)
  | .positional [] => (none, .positional [])
  | .positional (v :: rest) => (some v, .positional rest)

/-- A field that must be there. -/
def field (name : String) (read : Json → Option α) : RecordReader α := fun source =>
  match source.next name with
  | (some v, source) => (read v).map fun a => (a, source)
  | (none, _) => none

/-- A field that has a default. -/
def fieldOr (name : String) (read : Json → Option α) (default : α) : RecordReader α := fun source =>
  match source.next name with
  | (some v, source) => (read v).map fun a => (a, source)
  | (none, source) => some (default, source)

/-- The value, unless it is null. -/
def readNullable (read : Json → Option α) : Json → Option (Option α)
  | .null => some none
  | v => (read v).map some

/-- A field that may be null or missing from an object. -/
def option (name : String) (read : Json → Option α) : RecordReader (Option α) := fun source =>
  match source.next name, source with
  | (some v, source), _ => (readNullable read v).map fun a => (a, source)
  | (none, _), .named members => some (none, .named members)
  | (none, _), .positional _ => none

/-- A field that may be null or missing. -/
def optionOr (name : String) (read : Json → Option α) (default : Option α) :
    RecordReader (Option α) :=
  fieldOr name (readNullable read) default

/-- Reads a record. -/
def readRecord (r : RecordReader α) : Json → Option α
  | .object members => (r (.named members)).map (·.1)
  | .array elements =>
    match r (.positional elements) with
    | some (a, .positional []) => some a
    | _ => none
  | _ => none

/-- Reads a record that has only named fields. -/
def readNamed (r : RecordReader α) : Json → Option α
  | .object members => (r (.named members)).map (·.1)
  | _ => none

/-- Reads a natural number below `2 ^ bits`. -/
def readNatBelow (bits : Nat) : Json → Option Nat
  | .number (.whole (.ofNat n)) => if n < Nat.pow 2 bits then some n else none
  | _ => none

/-- Reads a count. -/
def readNat : Json → Option Nat := readNatBelow 64

/-- Reads a text. -/
def readString : Json → Option String := string?

/-- Reads a switch. -/
def readBool : Json → Option Bool
  | .bool b => some b
  | _ => none

/-- A whole number of 64 bits in double precision. -/
def doubleOfInt (n : Int) : Float :=
  match n with
  | .ofNat k => k.toUInt64.toFloat
  | .negSucc k => -(k + 1).toUInt64.toFloat

/-- Reads a number in double precision; whole numbers fit as well. -/
def readDouble : Json → Option Float
  | .number (.whole n) => some (doubleOfInt n)
  | .number (.double x) => some x
  | .number (.single x) => some x.toFloat
  | _ => none

/-- A number of double precision, rounded to the nearest one of single precision. -/
def singleOfDouble (x : Float) : Float32 :=
  match Decimal.Reading.ofDouble x with
  | .notANumber => 0.0 / 0.0
  | .infinite negative => if negative then -1.0 / 0.0 else 1.0 / 0.0
  | .finite b =>
    -- a binary fraction has as many decimals as binary digits
    let y :=
      match b.exponent with
      | .ofNat k => Float32.ofScientific (b.mantissa * Nat.pow 2 k) false 0
      | .negSucc k => Float32.ofScientific (b.mantissa * Nat.pow 5 (k + 1)) true (k + 1)
    if b.negative then -y else y

/-- Reads a number in single precision; whole numbers fit as well. -/
def readSingle : Json → Option Float32
  | .number (.whole (.ofNat k)) => some k.toUInt64.toFloat32
  | .number (.whole (.negSucc k)) => some (-(k + 1).toUInt64.toFloat32)
  | .number (.double x) => some (singleOfDouble x)
  | .number (.single x) => some x
  | _ => none

/-- Reads a list. -/
def readList (read : Json → Option α) : Json → Option (List α)
  | .array xs => xs.mapM read
  | _ => none

/-- Reads a list of texts. -/
def readStrings : Json → Option (List String) := readList readString

/-- One entry of a table. -/
def readEntry (read : Json → Option α) (entry : String × Json) : Option (String × α) :=
  (read entry.2).map fun a => (entry.1, a)

/-- Reads an object as a table, in the order of its keys. -/
def readTable (read : Json → Option α) : Json → Option (List (String × α))
  | .object members =>
    (members.mapM (readEntry read)).map fun entries => entries.mergeSort fun a b => a.1 ≤ b.1
  | _ => none

end CodeDigest.Json
