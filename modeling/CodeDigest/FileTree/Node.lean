/-!
# Files, directories and links

The content of a file system as a value.  A directory lists its entries by name; a name occurs once.
-/

namespace CodeDigest

/-- A file, a directory or a symbolic link. -/
inductive Node where
  | file (content : ByteArray)
  | directory (entries : List (String × Node))
  | link (target : String)

namespace Node

/-- An empty directory. -/
def empty : Node := .directory []

/-- What lies below a node under a sequence of names. -/
def get? : List String → Node → Option Node
  | [], node => some node
  | name :: rest, .directory entries => (entries.lookup name).bind (get? rest)
  | _ :: _, _ => none

/-- The entries with the value of one name changed. -/
def setEntry (name : String) (node : Node) : List (String × Node) → List (String × Node)
  | [] => [(name, node)]
  | (n, old) :: rest => if n == name then (n, node) :: rest else (n, old) :: setEntry name node rest

/-- The node with another one below it under a sequence of names; nothing changes where a name on
the way is no directory. -/
def put : Node → List String → Node → Node
  | _, [], new => new
  | .directory entries, name :: rest, new =>
    .directory (setEntry name (put ((entries.lookup name).getD empty) rest new) entries)
  | node, _ :: _, _ => node

/-- The node without what lies below it under a sequence of names. -/
def erase : List String → Node → Node
  | [], node => node
  | [name], .directory entries => .directory (entries.filter (·.1 != name))
  | name :: rest, .directory entries =>
    match entries.lookup name with
    | some inner => .directory (setEntry name (erase rest inner) entries)
    | none => .directory entries
  | _ :: _, node => node

/-- The value of a name after setting it. -/
theorem lookup_setEntry (name other : String) (node : Node) (entries : List (String × Node)) :
    (setEntry name node entries).lookup other
      = if other = name then some node else entries.lookup other := by
  induction entries with
  | nil =>
    by_cases h : other = name
    · simp [setEntry, h]
    · have : (other == name) = false := by simpa using h
      simp [setEntry, List.lookup_cons, h, this]
  | cons entry rest ih =>
    obtain ⟨n, old⟩ := entry
    by_cases hn : n = name
    · subst hn
      by_cases h : other = n
      · simp [setEntry, h]
      · have : (other == n) = false := by simpa using h
        simp [setEntry, List.lookup_cons, h, this]
    · have hn' : (n == name) = false := by simpa using hn
      by_cases h : other = n
      · subst h; simp [setEntry, hn]
      · have : (other == n) = false := by simpa using h
        simp [setEntry, List.lookup_cons, hn', this, ih]

end Node

end CodeDigest
