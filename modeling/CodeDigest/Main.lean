import CodeDigest.CommandLine
import CodeDigest.FileTree.Changes
import CodeDigest.Timestamp
import Std.Time.DateTime.Timestamp

/-!
# The program

Reads the files that a run may look at, runs the command line on them, prints its output and writes
the files that have changed.  No connection to a model's service is made here: an analysis that asks
for one goes on as it does when nobody listens.
-/

namespace CodeDigest.Program

/-- What is at the place of an entry. -/
partial def readNode (entry : IO.FS.DirEntry) : IO (Option Node) := do
  match (← entry.path.symlinkMetadata).type with
  | .file => return some (.file (← IO.FS.readBinFile entry.path))
  | .symlink =>
    try return some (.link (← IO.FS.realPath entry.path).toString)
    catch _ => return none
  | .dir =>
    let mut found : List (String × Node) := []
    for inner in ← entry.path.readDir do
      if let some node ← readNode inner then found := (inner.fileName, node) :: found
    return some (.directory found)
  | .other => return none

/-- Adds what is at an absolute path, if there is something. -/
def load (t : FileTree) (path : String) : IO FileTree := do
  try
    match ← readNode ⟨"/", String.ofList (path.toList.dropWhile (· == '/'))⟩ with
    | some node => return t.put (Path.parts path) node
    | none => return t
  catch _ => return t

/-- The files that matter in a directory and in those above it. -/
def outerFiles : List String := [".gitignore", ".ignore", ".git/info/exclude", Settings.projectFile]

/-- Adds the files that matter in a directory and in those above it. -/
def loadOuter (t : FileTree) (path : String) : IO FileTree := do
  let mut t := t
  for directory in Path.withParents path do
    for name in outerFiles do
      t ← load t (Path.join directory name)
  return t

/-- The environment variables. -/
def environment : IO Environment := do
  let text := (String.fromUTF8? (← IO.FS.readBinFile "/proc/self/environ")).getD ""
  return (pieces (Char.ofNat 0) text).filterMap fun setting =>
    let (name, value) := setting.toList.span (· != '=')
    if value.isEmpty then none else some (String.ofList name, String.ofList (value.drop 1))

/-- The files that the settings of a run are looked for in. -/
def loadSettings (t : FileTree) (here : String) (env : Environment) (given : Option String) :
    IO FileTree := do
  let mut t ← loadOuter (t.put (Path.parts here) .empty) here
  for path in given.toList ++ (Settings.globalFile? env).toList do
    for directory in Path.withParents here do
      t ← load t (Path.join directory path)
  return t

/-- The code base that an analysis is about. -/
def loadCodebase (s : Surroundings) (here : String) (i : Invocation) : IO FileTree := do
  match i.command with
  | .analyze choices =>
    match CommandLine.prepare s i.settingsFile choices with
    | .ok (settings, _) =>
      let root := Path.join here settings.codebase.path
      load (← loadOuter s.tree root) root
    | .error _ => return s.tree
  | _ => return s.tree

/-- Writes the files that have changed. -/
def save (before after : Node) : IO Unit := do
  for (names, content) in after.changes [] (some before) do
    IO.FS.createDirAll ("/" ++ joined "/" names.dropLast)
    IO.FS.writeBinFile ("/" ++ joined "/" names) content

end CodeDigest.Program

open CodeDigest in
/-- Runs the program. -/
def main (words : List String) : IO UInt32 := do
  let here := (← IO.currentDir).toString
  let env ← Program.environment
  let now ← Std.Time.Timestamp.now
  let stamp := timestamp now.toSecondsSinceUnixEpoch.val.toNat
  let mut tree : FileTree := ⟨.empty, Path.parts here⟩
  if let some invocation := Invocation.ofArguments? words then
    tree ← Program.loadSettings tree here env invocation.settingsFile
    tree ← Program.loadCodebase ⟨tree, env, stamp⟩ here invocation
  let (outcome, ()) := (CommandLine.run Transport.none ⟨tree, env, stamp⟩ words).run ()
  IO.print outcome.output
  IO.eprint outcome.errors
  Program.save tree.root outcome.tree.root
  return outcome.status.toUInt32
