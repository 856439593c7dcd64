import CodeDigest.Json.Record
import CodeDigest.Text.Case
import CodeDigest.Text.Pieces

/-!
# Which methods do the application's work

A method is an *accessor* when its name starts with `get` or `is` and it takes no argument, or with
`set` and it takes one.  Accessors and utility methods never count.  Of the others those count that
carry one of the business annotations or whose name holds one of the business keywords, letter case
aside.  The accessor rule is fixed; the three lists are settings.
-/

namespace CodeDigest

/-- The lists that decide which methods count. -/
structure BusinessRules where
  /-- Names of methods that never count. -/
  utilityMethods : List String
  /-- Annotations that make a method count. -/
  businessAnnotations : List String
  /-- Parts of names that make a method count. -/
  businessKeywords : List String
deriving Repr, DecidableEq

namespace BusinessRules

/-- The rules when nothing is set. -/
def standard : BusinessRules where
  utilityMethods := ["equals", "hashCode", "toString", "clone", "finalize"]
  businessAnnotations :=
    ["PostMapping", "GetMapping", "PutMapping", "DeleteMapping", "RequestMapping", "Service",
     "Transactional", "Async"]
  businessKeywords :=
    ["create", "update", "delete", "save", "find", "search", "process", "calculate", "validate",
     "authenticate", "authorize", "send", "receive", "fetch", "load", "rent"]

/-- Whether a text starts with another one. -/
def startsWith (name front : String) : Bool := (Text.dropPrefix? front.toList name.toList).isSome

/-- Whether a method only hands out or takes in a value, by its name and number of parameters. -/
def isAccessor (name : String) (parameterCount : Nat) : Bool :=
  startsWith name "get" && parameterCount == 0
    || startsWith name "set" && parameterCount == 1
    || startsWith name "is" && parameterCount == 0

/-- Whether a name holds a keyword, letter case aside. -/
def holdsKeyword (name keyword : String) : Bool :=
  occursIn (lowercased keyword) (lowercased name)

/-- Whether a method does some of the application's work. -/
def isBusiness (r : BusinessRules) (name : String) (annotations : List String)
    (parameterCount : Nat) : Bool :=
  !isAccessor name parameterCount && !r.utilityMethods.contains name
    && (annotations.any r.businessAnnotations.contains
      || r.businessKeywords.any (holdsKeyword name))

/-- Accessors never count. -/
theorem isBusiness_of_isAccessor (r : BusinessRules) {name : String} {parameterCount : Nat}
    (h : isAccessor name parameterCount = true) (annotations : List String) :
    r.isBusiness name annotations parameterCount = false := by
  simp [isBusiness, h]

/-- The rules as JSON. -/
def toJson (r : BusinessRules) : Json :=
  .object
    [("utility_methods", .strings r.utilityMethods),
     ("business_annotations", .strings r.businessAnnotations),
     ("business_keywords", .strings r.businessKeywords)]

open Json in
/-- Reads rules; a list that is missing keeps its standard value. -/
def ofJson? : Json → Option BusinessRules :=
  readRecord do
    let utilityMethods ← fieldOr "utility_methods" readStrings standard.utilityMethods
    let businessAnnotations ←
      fieldOr "business_annotations" readStrings standard.businessAnnotations
    let businessKeywords ← fieldOr "business_keywords" readStrings standard.businessKeywords
    return ⟨utilityMethods, businessAnnotations, businessKeywords⟩

end BusinessRules

end CodeDigest
