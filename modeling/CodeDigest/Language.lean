import CodeDigest.Path
import CodeDigest.Text.Case

/-!
# Programming languages

The table of the languages that can be told apart: the tag each one is reported under, the names it
may be called by, the extensions of its source files, and how a line comment starts.  Everything
that depends on the language of a file or of a project goes through this table.
-/

namespace CodeDigest

/-- A programming language, or none that is known. -/
inductive Language where
  | java
  | python
  | javascript
  | go
  | ruby
  | csharp
  | php
  | cpp
  | c
  | rust
  | swift
  | kotlin
  | scala
  | unknown
deriving Repr, DecidableEq

namespace Language

/-- The known languages.  Of two with equally many files the earlier one wins. -/
def known : List Language :=
  [java, python, javascript, go, ruby, csharp, php, cpp, c, rust, swift, kotlin, scala]

/-- The name a language is reported under. -/
def tag : Language → String
  | java => "java"
  | python => "python"
  | javascript => "javascript"
  | go => "go"
  | ruby => "ruby"
  | csharp => "csharp"
  | php => "php"
  | cpp => "cpp"
  | c => "c"
  | rust => "rust"
  | swift => "swift"
  | kotlin => "kotlin"
  | scala => "scala"
  | unknown => "unknown"

/-- The extensions of a language's source files. -/
def extensions : Language → List String
  | java => ["java"]
  | python => ["py"]
  | javascript => ["js", "jsx", "ts", "tsx"]
  | go => ["go"]
  | ruby => ["rb"]
  | csharp => ["cs"]
  | php => ["php"]
  | cpp => ["cpp", "hpp"]
  | c => ["c", "h"]
  | rust => ["rs"]
  | swift => ["swift"]
  | kotlin => ["kt"]
  | scala => ["scala"]
  | unknown => []

/-- Other names of a language. -/
def aliases : Language → List String
  | python => ["py"]
  | javascript => ["js", "typescript", "ts"]
  | go => ["golang"]
  | ruby => ["rb"]
  | csharp => ["c#", "cs"]
  | cpp => ["c++"]
  | rust => ["rs"]
  | kotlin => ["kt"]
  | unknown => [""]
  | _ => []

/-- How a line comment starts. -/
def commentPrefix : Language → String
  | python | ruby => "#"
  | _ => "//"

/-- Whether the structure of source files is read, and not only their lines. -/
def hasStructure : Language → Bool
  | java => true
  | _ => false

/-- Whether a language is one of the known ones. -/
def isKnown : Language → Bool
  | unknown => false
  | _ => true

theorem mem_known_iff (l : Language) : l ∈ known ↔ l.isKnown = true := by
  cases l <;> decide

/-- The language called by a name. -/
def ofName? (name : String) : Option Language :=
  let lower := lowercased (trimmed name)
  if lower == "unknown" || lower.isEmpty then some unknown
  else known.find? fun l => l.tag == lower || l.aliases.contains lower

/-- The language with source files of an extension. -/
def ofExtension (extension : String) : Language :=
  let lower := lowercased extension
  (known.find? fun l => l.extensions.contains lower).getD unknown

/-- The language of a source file, by its path. -/
def ofPath (path : String) : Language :=
  match Path.extension? path with
  | some extension => ofExtension extension
  | none => unknown

end Language

end CodeDigest
