import CodeDigest.FileTree.Node

/-!
# What has changed

The files that one tree has and another one has not, or has with other contents.
-/

namespace CodeDigest.Node

/-- The entries of a directory; other nodes have none. -/
def entries : Node → List (String × Node)
  | .directory es => es
  | _ => []

mutual

/-- The files at or below a node that differ from those of an older one, with the names that lead to
them. -/
def changes (names : List String) (old : Option Node) : Node → List (List String × ByteArray)
  | .file content =>
    match old with
    | some (.file before) => if before == content then [] else [(names, content)]
    | _ => [(names, content)]
  | .directory es => changesIn names ((old.map entries).getD []) es
  | .link _ => []

/-- `changes` for the entries of a directory. -/
def changesIn (names : List String) (old : List (String × Node)) :
    List (String × Node) → List (List String × ByteArray)
  | [] => []
  | (name, node) :: rest =>
    changes (names ++ [name]) (old.lookup name) node ++ changesIn names old rest

end

end CodeDigest.Node
