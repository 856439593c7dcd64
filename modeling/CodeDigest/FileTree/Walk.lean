import CodeDigest.FileTree

/-!
# The files below a directory

A walk lists the files below a node with the names that lead to them.  It passes over every entry
that is not admitted, with all that is below it, and follows no links.
-/

namespace CodeDigest

/-- A file that a walk comes by. -/
structure Found where
  /-- The names that lead to the file. -/
  names : List String
  content : ByteArray

namespace Node

/-- Whether a node is a directory. -/
def isDirectory : Node → Bool
  | .directory _ => true
  | _ => false

mutual

/-- The files below a node that `names` lead to. -/
def filesFrom (admits : List String → Bool → Bool) (names : List String) : Node → List Found
  | .file content => [⟨names, content⟩]
  | .directory entries => filesOfEntries admits names entries
  | .link _ => []

/-- The files below some entries of a directory that `names` lead to. -/
def filesOfEntries (admits : List String → Bool → Bool) (names : List String) :
    List (String × Node) → List Found
  | [] => []
  | (name, node) :: rest =>
    (if admits (names ++ [name]) node.isDirectory then filesFrom admits (names ++ [name]) node
      else [])
      ++ filesOfEntries admits names rest

end

mutual

/-- The names of every file found start with those of the node. -/
theorem names_of_mem_filesFrom {admits : List String → Bool → Bool} {names : List String}
    {node : Node} {f : Found} (h : f ∈ node.filesFrom admits names) :
    ∃ below, f.names = names ++ below := by
  cases node with
  | file content =>
    simp only [filesFrom, List.mem_singleton] at h
    exact ⟨[], by simp [h]⟩
  | directory entries =>
    simp only [filesFrom] at h
    exact names_of_mem_filesOfEntries h
  | link target => simp [filesFrom] at h

theorem names_of_mem_filesOfEntries {admits : List String → Bool → Bool} {names : List String}
    {entries : List (String × Node)} {f : Found} (h : f ∈ filesOfEntries admits names entries) :
    ∃ below, f.names = names ++ below := by
  match entries with
  | [] => simp [filesOfEntries] at h
  | (name, node) :: rest =>
    simp only [filesOfEntries, List.mem_append] at h
    rcases h with h | h
    · split at h
      · obtain ⟨below, hb⟩ := names_of_mem_filesFrom h
        exact ⟨name :: below, by simp [hb]⟩
      · cases h
    · exact names_of_mem_filesOfEntries h

end

end Node

namespace FileTree

/-- The files below a path; `admits` is asked for every entry, by its names from the root. -/
def filesUnder (t : FileTree) (admits : List String → Bool → Bool) (path : String) : List Found :=
  match t.locate true path with
  | .ok (.at names node) => node.filesFrom admits names
  | _ => []

end FileTree

end CodeDigest
