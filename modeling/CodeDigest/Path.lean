import CodeDigest.Text.Pieces

/-!
# Paths

A path is a text; its parts are separated by slashes, and a path with a slash in front starts at the
root.  Separators in a row count once, and a dot that stands for the current directory counts only
in front.
-/

namespace CodeDigest.Path

/-- Whether a path starts at the root. -/
def isAbsolute (path : String) : Bool := path.toList.head? == some '/'

/-- The parts of a path that name something. -/
def parts (path : String) : List String :=
  (pieces '/' path).filter fun part => !part.isEmpty && part != "."

/-- The name that a path ends in, if it ends in one. -/
def fileName? (path : String) : Option String :=
  match (parts path).getLast? with
  | some ".." => none
  | name => name

/-- What follows the last dot of a name; a dot in front does not count. -/
def extensionOf? (name : String) : Option String :=
  match name.toList.reverse.span (· != '.') with
  | (_, []) => none
  | (_, [_]) => none
  | (reversed, _) => some (String.ofList reversed.reverse)

/-- The extension of a path. -/
def extension? (path : String) : Option String := (fileName? path).bind extensionOf?

/-- A path below another; an absolute one stands for itself. -/
def join (base path : String) : String :=
  if isAbsolute path || base.isEmpty then path
  else if base.toList.getLast? == some '/' then base ++ path
  else base ++ "/" ++ path

/-- Drops pieces that name nothing, the last piece of the path standing first; the first piece of
the path is kept. -/
def dropUnnamed : List String → List String
  | [] => []
  | [first] => [first]
  | piece :: outer => if piece.isEmpty || piece == "." then dropUnnamed outer else piece :: outer

/-- The text of a path from its pieces, the last one first. -/
def ofPieces : List String → String
  | [""] => "/"
  | reversed => joined "/" reversed.reverse

/-- The path without its last part. -/
def parent? (path : String) : Option String :=
  match dropUnnamed (pieces '/' path).reverse with
  | [] => none
  | [first] => if first.isEmpty then none else some ""
  | _ :: outer => some (ofPieces (dropUnnamed outer))

/-- The path and the paths above it, `count` of them at most. -/
def upward : (count : Nat) → String → List String
  | 0, _ => []
  | count + 1, path =>
    path :: match parent? path with
      | some outer => upward count outer
      | none => []

/-- The path and all paths above it, the innermost first. -/
def withParents (path : String) : List String := upward ((pieces '/' path).length + 1) path

end CodeDigest.Path
