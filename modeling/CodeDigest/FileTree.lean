import CodeDigest.FileTree.Node
import CodeDigest.Path

/-!
# A file system

All files below a root, and the directory that relative paths start from.  `locate` follows a path
part by part and through symbolic links, at most forty of them.  Reading never changes anything;
`makeDirectory` and `write` give the changed tree, or the fault that kept them from changing it.
What is done in several steps is an `Attempt`: where a later step fails, the tree has what the
earlier ones have done.
-/

namespace CodeDigest

/-- Why a path could not be used. -/
inductive FileFault where
  | notFound
  | alreadyExists
  | notDirectory
  | isDirectory
  | nameTooLong
  | tooManyLinks
  | nulByte
deriving Repr, DecidableEq

/-- The wording of a fault. -/
def FileFault.message : FileFault → String
  | notFound => "No such file or directory (os error 2)"
  | alreadyExists => "File exists (os error 17)"
  | notDirectory => "Not a directory (os error 20)"
  | isDirectory => "Is a directory (os error 21)"
  | nameTooLong => "File name too long (os error 36)"
  | tooManyLinks => "Too many levels of symbolic links (os error 40)"
  | nulByte => "file name contained an unexpected NUL byte"

/-- A file system and the current directory in it. -/
structure FileTree where
  root : Node
  /-- The names that lead from the root to the current directory. -/
  here : List String

/-- Where a path leads. -/
inductive Place where
  /-- To a node, under these names from the root. -/
  | at (names : List String) (node : Node)
  /-- To a name that a directory does not have. -/
  | missing (directory : List String) (name : String)

namespace FileTree

/-- The most symbolic links that are followed on the way. -/
def linkLimit : Nat := 40

/-- The longest name, in bytes. -/
def nameLimit : Nat := 255

/-- Paths are shorter than this, in bytes. -/
def pathLimit : Nat := 4096

/-- Follows the pieces of a path from the directory `reached`.  A link at the end is followed only
if `follow` says so. -/
def walk (root : Node) (follow : Bool) (links : Nat) (reached : List String) :
    List String → Except FileFault Place
  | [] =>
    match root.get? reached with
    | some node => .ok (.at reached node)
    | none => .error .notFound
  | name :: rest =>
    if name.isEmpty || name == "." then walk root follow links reached rest
    else if name == ".." then walk root follow links reached.dropLast rest
    else if nameLimit < name.utf8ByteSize then .error .nameTooLong
    else
      match root.get? (reached ++ [name]) with
      | none => if rest.isEmpty then .ok (.missing reached name) else .error .notFound
      | some (.directory _) => walk root follow links (reached ++ [name]) rest
      | some (.file content) =>
        if rest.isEmpty then .ok (.at (reached ++ [name]) (.file content)) else .error .notDirectory
      | some (.link target) =>
        if rest.isEmpty && !follow then .ok (.at (reached ++ [name]) (.link target))
        else
          match links with
          | 0 => .error .tooManyLinks
          | links + 1 =>
            walk root follow links (if Path.isAbsolute target then [] else reached)
              (pieces '/' target ++ rest)
termination_by names => (links, names.length)

/-- Where a path leads. -/
def locate (t : FileTree) (follow : Bool) (path : String) : Except FileFault Place :=
  if path.isEmpty then .error .notFound
  else if path.toList.contains (Char.ofNat 0) then .error .nulByte
  else if pathLimit ≤ path.utf8ByteSize then .error .nameTooLong
  else
    walk t.root follow linkLimit (if Path.isAbsolute path then [] else t.here) (pieces '/' path)

/-- What a path leads to, links followed. -/
def node? (t : FileTree) (path : String) : Option Node :=
  match t.locate true path with
  | .ok (.at _ node) => some node
  | _ => none

/-- Whether a path leads to anything. -/
def pathExists (t : FileTree) (path : String) : Bool := (t.node? path).isSome

/-- Whether a path leads to a file. -/
def isFile (t : FileTree) (path : String) : Bool :=
  match t.node? path with
  | some (.file _) => true
  | _ => false

/-- Whether a path leads to a directory. -/
def isDirectory (t : FileTree) (path : String) : Bool :=
  match t.node? path with
  | some (.directory _) => true
  | _ => false

/-- The content of a file, if it is text. -/
def readText? (t : FileTree) (path : String) : Option String :=
  match t.node? path with
  | some (.file content) => String.fromUTF8? content
  | _ => none

/-- The names from the root to where a path leads, links followed. -/
def canonical? (t : FileTree) (path : String) : Option (List String) :=
  match t.locate true path with
  | .ok (.at names _) => some names
  | _ => none

/-- A path without the slashes at its end. -/
def withoutTrailing (path : String) : String :=
  match path.toList.reverse.dropWhile (· == '/') with
  | [] => path
  | reversed => String.ofList reversed.reverse

/-- The tree with a node under names from the root. -/
def put (t : FileTree) (names : List String) (node : Node) : FileTree :=
  { t with root := t.root.put names node }

/-- Makes one directory. -/
def makeDirectory (t : FileTree) (path : String) : Except FileFault FileTree :=
  match t.locate false (withoutTrailing path) with
  | .ok (.missing directory name) => .ok (t.put (directory ++ [name]) .empty)
  | .ok (.at ..) => .error .alreadyExists
  | .error fault => .error fault

/-- What is left after several steps, of which the last may have failed. -/
structure Attempt where
  tree : FileTree
  fault? : Option FileFault

/-- The changed tree, or the fault that there was. -/
def Attempt.result (attempt : Attempt) : Except FileFault FileTree :=
  match attempt.fault? with
  | none => .ok attempt.tree
  | some fault => .error fault

/-- Makes the first directory of a list of paths, each the parent of the one before it, and the
others as far as they are needed. -/
def makeOutward (t : FileTree) : List String → Attempt
  | [] => ⟨t, none⟩
  | path :: outer =>
    if path.isEmpty then ⟨t, none⟩
    else
      match t.makeDirectory path with
      | .ok t => ⟨t, none⟩
      | .error .notFound =>
        match makeOutward t outer with
        | ⟨t, some fault⟩ => ⟨t, some fault⟩
        | ⟨t, none⟩ =>
          match t.makeDirectory path with
          | .ok t => ⟨t, none⟩
          | .error fault => ⟨t, if t.isDirectory path then none else some fault⟩
      | .error fault => ⟨t, if t.isDirectory path then none else some fault⟩

/-- Makes a directory and those above it that are missing. -/
def makeDirectories (t : FileTree) (path : String) : Except FileFault FileTree :=
  (t.makeOutward (Path.withParents path)).result

/-- Writes a file, in the place of the one that is there. -/
def write (t : FileTree) (path : String) (content : ByteArray) : Except FileFault FileTree :=
  match t.locate true (withoutTrailing path) with
  | .error fault => .error fault
  | .ok place =>
    if path.toList.getLast? == some '/' then .error .isDirectory
    else
      match place with
      | .missing directory name => .ok (t.put (directory ++ [name]) (.file content))
      | .at names (.file _) => .ok (t.put names (.file content))
      | .at .. => .error .isDirectory

/-- Tries to make the directory that a path belongs in. -/
def tryParent (t : FileTree) (path : String) : Attempt :=
  match Path.parent? path with
  | some outer => t.makeOutward (Path.withParents outer)
  | none => ⟨t, none⟩

/-- Makes the directory that a path belongs in. -/
def makeParent (t : FileTree) (path : String) : Except FileFault FileTree :=
  (t.tryParent path).result

/-- Tries to write a text, after making the directory it belongs in. -/
def tryText (t : FileTree) (path text : String) : Attempt :=
  match t.tryParent path with
  | ⟨t, some fault⟩ => ⟨t, some fault⟩
  | ⟨t, none⟩ =>
    match t.write path text.toUTF8 with
    | .ok t => ⟨t, none⟩
    | .error fault => ⟨t, some fault⟩

/-- Writes a text, after making the directory it belongs in. -/
def writeText (t : FileTree) (path text : String) : Except FileFault FileTree :=
  (t.tryText path text).result

end FileTree

end CodeDigest
