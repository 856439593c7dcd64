import CodeDigest.FileTree
import CodeDigest.Narration.Question

/-!
# The overview of a project

The head of a report: a narrator's draft, with what detection found out in the place of every part
that is missing.  Dependencies are never taken from the draft.
-/

namespace CodeDigest.ProjectOverview

/-- The names a README may have; the first that is there counts. -/
def readmeNames : List String := ["README.md", "readme.md", "README.rst", "README.txt", "README"]

/-- The text of a file, unless it is blank. -/
def readNonBlank? (t : FileTree) (path : String) : Option String :=
  (t.readText? path).filter fun text => !Text.allBlank text.toList

/-- The README of a project. -/
def readme? (t : FileTree) (root : String) : Option String :=
  ((readmeNames.map (Path.join root)).find? t.isFile).bind (readNonBlank? t)

/-- The request for an overview. -/
def request (t : FileTree) (root : String) (detection : Detection) (paths : List String) :
    OverviewRequest where
  readme := readme? t root
  buildFile := detection.buildFile.bind (readNonBlank? t)
  fileStructure := paths
  language := detection.context.language
  frameworks := detection.context.frameworks

/-- A draft completed by what was detected. -/
def ofDraft (draft : OverviewDraft) (detection : Detection) : ProjectOverview :=
  let context := detection.context
  { projectName := draft.projectName.getD detection.projectName
    description := draft.description.getD (context.languageTitle ++ " project")
    purpose := draft.purpose.getD ("Software project written in " ++ context.language)
    keyTechnologies := draft.keyTechnologies.getD (context.languageTitle :: context.frameworks)
    architecturePattern := some (draft.architecturePattern.getD "Unknown")
    mainFeatures := draft.mainFeatures.getD []
    dependencies := detection.pomDependencies.getD context.frameworks }

/-- The dependencies are those that were detected, whatever the draft says. -/
theorem dependencies_ofDraft (draft other : OverviewDraft) (detection : Detection) :
    (ofDraft draft detection).dependencies = (ofDraft other detection).dependencies := rfl

/-- The overview of a run. -/
def build {σ : Type} (narrator : Narrator σ) (t : FileTree) (root : String)
    (detection : Detection) (paths : List String) : StateM σ ProjectOverview := do
  let draft : Option OverviewDraft ← narrator (.overview (request t root detection paths))
  return ofDraft (draft.getD .empty) detection

end CodeDigest.ProjectOverview
