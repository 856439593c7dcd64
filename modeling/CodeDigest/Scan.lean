import CodeDigest.FileTree.Walk
import CodeDigest.Ignore.Rules
import CodeDigest.PathFilter

/-!
# The files of a code base

A code base consists of the files below its root that no ignore file leaves out, in the order of
their paths.  Filters choose some of them: by their paths, by their extensions and by their sizes.
-/

namespace CodeDigest

/-- A file of a code base. -/
structure ScannedFile where
  /-- The path below the root. -/
  path : String
  /-- The number of bytes. -/
  size : Nat
deriving Repr, DecidableEq

/-- The extension of a file. -/
def ScannedFile.extension? (f : ScannedFile) : Option String := Path.extension? f.path

/-- The choice of files, with patterns as they are written. -/
structure ScanOptions where
  /-- Patterns of which a path has to match one, if there are some. -/
  include_ : List String
  /-- Patterns of which a path may match none. -/
  exclude : List String
  /-- The extensions that are wanted; none at all stands for every extension. -/
  extensions : List String
  /-- The largest size, in bytes. -/
  sizeLimit : Nat
deriving Repr, DecidableEq

/-- The largest size of a file when nothing is set. -/
def standardSizeLimit : Nat := 1048576

/-- The patterns to leave out when nothing is set. -/
def standardExclude : List String :=
  ["**/target/**", "**/build/**", "**/dist/**", "**/.git/**", "**/.idea/**", "**/.vscode/**",
   "**/node_modules/**", "**/venv/**", "**/env/**", "**/__pycache__/**", "**/*.pyc", "**/*.class",
   "**/*.jar", "**/*.war", "**/*.min.js", "**/*.min.css", "**/vendor/**", "**/coverage/**"]

/-- The choice of files, ready for use. -/
structure FileChoice where
  include_ : List PathFilter
  exclude : List PathFilter
  extensions : List String
  sizeLimit : Nat

namespace FileChoice

/-- Reads the patterns of a choice. -/
def ofOptions (o : ScanOptions) : Except Failure FileChoice := do
  let include_ ← PathFilter.ofTexts o.include_
  let exclude ← PathFilter.ofTexts o.exclude
  return ⟨include_, exclude, o.extensions, o.sizeLimit⟩

/-- Whether a file is chosen. -/
def accepts (c : FileChoice) (f : ScannedFile) : Bool :=
  !c.exclude.any (·.matchesPath f.path)
    && (c.include_.isEmpty || c.include_.any (·.matchesPath f.path))
    && (c.extensions.isEmpty || f.extension?.any c.extensions.contains)
    && f.size ≤ c.sizeLimit

end FileChoice

/-- The directory in which a version control system keeps its own files. -/
def repositoryDirectory : String := ".git"

/-- Whether an entry belongs to a code base. -/
def admitsEntry (t : FileTree) (names : List String) (isDirectory : Bool) : Bool :=
  names.getLast? != some repositoryDirectory && !Ignore.isIgnored t names isDirectory

/-- Puts files in the order of their paths. -/
def sortedByPath (files : List ScannedFile) : List ScannedFile :=
  files.mergeSort fun a b => !decide (b.path < a.path)

/-- All files of a code base. -/
def codebase (t : FileTree) (root : String) : List ScannedFile :=
  let depth := ((t.canonical? root).getD []).length
  sortedByPath
    ((t.filesUnder (admitsEntry t) root).map fun f =>
      ⟨joined "/" (f.names.drop depth), f.content.size⟩)

/-- The chosen files of a code base. -/
def scan (t : FileTree) (root : String) (choice : FileChoice) :
    Except Failure (List ScannedFile) :=
  if t.isDirectory root then .ok ((codebase t root).filter choice.accepts)
  else .error (.input (.notDirectory root))

end CodeDigest
