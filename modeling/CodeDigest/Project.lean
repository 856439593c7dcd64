import CodeDigest.Json.Record
import CodeDigest.Language

/-!
# Facts about a project

What detection finds out about a project, and the overview at the head of a report.
-/

namespace CodeDigest

/-- The technologies of a project. -/
structure ProjectContext where
  /-- The tag of the project's language. -/
  language : String
  frameworks : List String
  buildTools : List String
  packageManager : Option String
deriving Repr, DecidableEq

/-- What detection finds out. -/
structure Detection where
  language : Language
  context : ProjectContext
  projectName : String
  /-- The dependencies of a Maven project, if its build file names some. -/
  pomDependencies : Option (List String)
  /-- The path of the build file, if there is one. -/
  buildFile : Option String
deriving Repr, DecidableEq

/-- The head of a report. -/
structure ProjectOverview where
  projectName : String
  description : String
  purpose : String
  keyTechnologies : List String
  architecturePattern : Option String
  mainFeatures : List String
  dependencies : List String
deriving Repr, DecidableEq

open Json

namespace ProjectContext

/-- The first framework, or a word for none. -/
def primaryFramework (c : ProjectContext) : String := c.frameworks.headD "Unknown"

/-- The language with an uppercase initial. -/
def languageTitle (c : ProjectContext) : String := titleCased c.language

/-- The context as JSON. -/
def toJson (c : ProjectContext) : Json :=
  .object
    [("language", .string c.language),
     ("frameworks", strings c.frameworks),
     ("build_tools", strings c.buildTools),
     ("package_manager", stringOrNull c.packageManager)]

/-- Reads a context. -/
def ofJson? : Json → Option ProjectContext :=
  readRecord do
    let language ← field "language" readString
    let frameworks ← field "frameworks" readStrings
    let buildTools ← field "build_tools" readStrings
    let packageManager ← option "package_manager" readString
    return ⟨language, frameworks, buildTools, packageManager⟩

end ProjectContext

namespace ProjectOverview

/-- The overview as JSON. -/
def toJson (o : ProjectOverview) : Json :=
  .object
    [("project_name", .string o.projectName),
     ("description", .string o.description),
     ("purpose", .string o.purpose),
     ("key_technologies", strings o.keyTechnologies),
     ("architecture_pattern", stringOrNull o.architecturePattern),
     ("main_features", strings o.mainFeatures),
     ("dependencies", strings o.dependencies)]

/-- Reads an overview. -/
def ofJson? : Json → Option ProjectOverview :=
  readRecord do
    let projectName ← field "project_name" readString
    let description ← field "description" readString
    let purpose ← field "purpose" readString
    let keyTechnologies ← field "key_technologies" readStrings
    let architecturePattern ← option "architecture_pattern" readString
    let mainFeatures ← field "main_features" readStrings
    let dependencies ← field "dependencies" readStrings
    return ⟨projectName, description, purpose, keyTechnologies, architecturePattern, mainFeatures,
      dependencies⟩

end ProjectOverview

end CodeDigest
