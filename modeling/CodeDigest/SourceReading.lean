import CodeDigest.FileTree
import CodeDigest.Java.Outline

/-!
# Records from source texts

A file in a language with structure is read into its outline.  Every other file, and every file
that cannot be read as what it should be, gets a record with its lines only, so each text has a
record.
-/

namespace CodeDigest.SourceFile

/-- A record with the lines of a text only. -/
def counted (path content : String) (language : Language) : SourceFile :=
  let lines := LineCount.ofText content language.commentPrefix
  { path
    fileType := language.tag
    package := none
    imports := []
    classes := []
    totalLines := lines.total
    codeLines := lines.code
    commentLines := lines.comment
    complexity := none }

/-- The language of a file: its own one, or else that of its project. -/
def languageOf (project : Language) (path : String) : Language :=
  match Language.ofPath path with
  | .unknown => project
  | own => own

/-- The record of a source text in a project, with the syntax tree that is read from Java. -/
def ofContentBy (tree? : String → Option Java.Tree) (rules : BusinessRules) (project : Language)
    (path content : String) : SourceFile :=
  let language := languageOf project path
  if language = .java then
    match Java.outlineBy tree? rules path content with
    | .ok file => file
    | .error _ => counted path content language
  else counted path content language

/-- The record of a source text in a project. -/
def ofContent (rules : BusinessRules) (project : Language) (path content : String) : SourceFile :=
  ofContentBy Java.tree? rules project path content

/-- The records of the files with some paths below a directory; a file that cannot be read as text
is left out. -/
def ofTree (rules : BusinessRules) (project : Language) (tree : FileTree) (root : String)
    (paths : List String) : List SourceFile :=
  paths.filterMap fun path =>
    (tree.readText? (Path.join root path)).map (ofContent rules project path)

theorem path_counted (path content : String) (language : Language) :
    (counted path content language).path = path := rfl

end CodeDigest.SourceFile
