import CodeDigest.Json.Record

/-!
# Records of source files

What is kept of a source file: its lines, its package and imports, its classes and their methods.
A file owns its classes and a class owns its methods.  These records are all that the analysis of a
code base looks at; they are read from JSON and written to JSON as well.
-/

namespace CodeDigest

/-- A method declaration. -/
structure SourceMethod where
  name : String
  /-- Return type, name and parameters in one line. -/
  signature : String
  description : Option String
  returnType : Option String
  /-- Cyclomatic complexity; a declaration without a body has none. -/
  complexity : Option Float
  annotations : List String
  /-- Whether the method does some of the application's work. -/
  isBusiness : Bool
  parameterCount : Nat

/-- A class declaration with the methods that stand directly in its body. -/
structure SourceClass where
  name : String
  package : Option String
  annotations : List String
  methods : List SourceMethod

/-- A source file. -/
structure SourceFile where
  /-- The path below the root of the code base. -/
  path : String
  /-- The tag of the file's language. -/
  fileType : String
  package : Option String
  imports : List String
  classes : List SourceClass
  totalLines : Nat
  codeLines : Nat
  commentLines : Nat
  /-- The mean complexity of the methods that have one. -/
  complexity : Option Float

/-- The sum of some counts. -/
def sumOf (counts : List Nat) : Nat := counts.foldr (· + ·) 0

@[simp] theorem sumOf_nil : sumOf [] = 0 := rfl

@[simp] theorem sumOf_cons (n : Nat) (counts : List Nat) :
    sumOf (n :: counts) = n + sumOf counts := rfl

namespace SourceClass

/-- Whether the class carries an annotation. -/
def hasAnnotation (c : SourceClass) (name : String) : Bool := c.annotations.contains name

/-- The methods that do some of the application's work. -/
def businessMethods (c : SourceClass) : List SourceMethod := c.methods.filter (·.isBusiness)

theorem isBusiness_of_mem_businessMethods {c : SourceClass} {m : SourceMethod}
    (h : m ∈ c.businessMethods) : m ∈ c.methods ∧ m.isBusiness = true := by
  simpa [businessMethods] using h

end SourceClass

namespace Json

/-- A number of double precision, or null. -/
def doubleOrNull (x : Option Float) : Json := orNull (x.map .double)

end Json

open Json

/-- A method as JSON. -/
def SourceMethod.toJson (m : SourceMethod) : Json :=
  .object
    [("name", .string m.name),
     ("signature", .string m.signature),
     ("description", stringOrNull m.description),
     ("return_type", stringOrNull m.returnType),
     ("complexity", doubleOrNull m.complexity),
     ("annotations", strings m.annotations),
     ("is_business_logic", .bool m.isBusiness),
     ("parameter_count", nat m.parameterCount)]

/-- Reads a method. -/
def SourceMethod.ofJson? : Json → Option SourceMethod :=
  readRecord do
    let name ← field "name" readString
    let signature ← field "signature" readString
    let description ← optionOr "description" readString none
    let returnType ← optionOr "return_type" readString none
    let complexity ← optionOr "complexity" readDouble none
    let annotations ← fieldOr "annotations" readStrings []
    let isBusiness ← field "is_business_logic" readBool
    let parameterCount ← fieldOr "parameter_count" readNat 0
    return ⟨name, signature, description, returnType, complexity, annotations, isBusiness,
      parameterCount⟩

/-- A class as JSON. -/
def SourceClass.toJson (c : SourceClass) : Json :=
  .object
    [("name", .string c.name),
     ("package", stringOrNull c.package),
     ("annotations", strings c.annotations),
     ("methods", .array (c.methods.map SourceMethod.toJson))]

/-- Reads a class. -/
def SourceClass.ofJson? : Json → Option SourceClass :=
  readRecord do
    let name ← field "name" readString
    let package ← optionOr "package" readString none
    let annotations ← fieldOr "annotations" readStrings []
    let methods ← fieldOr "methods" (readList SourceMethod.ofJson?) []
    return ⟨name, package, annotations, methods⟩

/-- A file as JSON. -/
def SourceFile.toJson (f : SourceFile) : Json :=
  .object
    [("path", .string f.path),
     ("file_type", .string f.fileType),
     ("package", stringOrNull f.package),
     ("imports", strings f.imports),
     ("classes", .array (f.classes.map SourceClass.toJson)),
     ("total_lines", nat f.totalLines),
     ("code_lines", nat f.codeLines),
     ("comment_lines", nat f.commentLines),
     ("complexity", doubleOrNull f.complexity)]

/-- Reads a file. -/
def SourceFile.ofJson? : Json → Option SourceFile :=
  readRecord do
    let path ← field "path" readString
    let fileType ← field "file_type" readString
    let package ← optionOr "package" readString none
    let imports ← fieldOr "imports" readStrings []
    let classes ← fieldOr "classes" (readList SourceClass.ofJson?) []
    let totalLines ← field "total_lines" readNat
    let codeLines ← field "code_lines" readNat
    let commentLines ← field "comment_lines" readNat
    let complexity ← optionOr "complexity" readDouble none
    return ⟨path, fileType, package, imports, classes, totalLines, codeLines, commentLines,
      complexity⟩

end CodeDigest
