/-!
# JSON values

The values of the JSON data format.  An object is a list of members in the order in which their
keys first appear; `Json.Member.put` keeps the keys distinct, a later value taking the place of an
earlier one.  A number is a whole number when it is written as one and fits 64 bits, and a binary
floating-point number otherwise; settings with single precision are written with their own, shorter
digits, hence the third form.
-/

namespace CodeDigest

/-- A JSON number. -/
inductive Json.Number where
  | whole (n : Int)
  | double (x : Float)
  | single (x : Float32)

/-- A JSON value. -/
inductive Json where
  | null
  | bool (b : Bool)
  | number (n : Json.Number)
  | string (s : String)
  | array (elements : List Json)
  | object (members : List (String × Json))

namespace Json

instance : Inhabited Json := ⟨.null⟩

/-- A whole number. -/
def int (n : Int) : Json := .number (.whole n)

/-- A natural number. -/
def nat (n : Nat) : Json := .number (.whole n)

/-- A number of double precision. -/
def double (x : Float) : Json := .number (.double x)

/-- An array of strings. -/
def strings (xs : List String) : Json := .array (xs.map .string)

/-- The value, or null where there is none. -/
def orNull : Option Json → Json
  | some v => v
  | none => .null

/-- A string, or null where there is none. -/
def stringOrNull (s : Option String) : Json := orNull (s.map .string)

/-- Sets the value of a key: in place when the key is there, at the end when it is new. -/
def putMember (key : String) (value : Json) : List (String × Json) → List (String × Json)
  | [] => [(key, value)]
  | (k, v) :: rest => if k == key then (k, value) :: rest else (k, v) :: putMember key value rest

/-- The value of a member, when the value is an object that has it. -/
def get? (key : String) : Json → Option Json
  | .object members => members.lookup key
  | _ => none

/-- The text of a string value. -/
def string? : Json → Option String
  | .string s => some s
  | _ => none

/-- The elements of an array value. -/
def elements? : Json → Option (List Json)
  | .array xs => some xs
  | _ => none

/-- Whether a value is null. -/
def isNull : Json → Bool
  | .null => true
  | _ => false

mutual

/-- The value with the members of every object in the order of their keys. -/
def sorted : Json → Json
  | .array xs => .array (sortedElements xs)
  | .object ms => .object ((sortedMembers ms).mergeSort fun a b => a.1 ≤ b.1)
  | v => v

/-- `sorted` on each element. -/
def sortedElements : List Json → List Json
  | [] => []
  | v :: vs => sorted v :: sortedElements vs

/-- `sorted` on the value of each member. -/
def sortedMembers : List (String × Json) → List (String × Json)
  | [] => []
  | (k, v) :: ms => (k, sorted v) :: sortedMembers ms

end

end Json

end CodeDigest
