import CodeDigest.Complexity
import CodeDigest.Component
import CodeDigest.Project
import CodeDigest.Statistics

/-!
# Questions to a narrator

A run asks for texts that no rule can write: `Question` lists what is asked, and `Question.Answer`
what an answer is.  A `Narrator` answers each question; what it remembers between two questions is a
state of its own, so that a narrator with a script, one that asks a language model and one that has
nothing to say are all values of one type.  Every answer may be empty.
-/

namespace CodeDigest

/-- What is known when an overview of the project is asked for. -/
structure OverviewRequest where
  readme : Option String
  /-- The content of the build file. -/
  buildFile : Option String
  /-- Paths of source files. -/
  fileStructure : List String
  language : String
  frameworks : List String
deriving Repr, DecidableEq

/-- An overview as a narrator gives it; any part of it may be missing. -/
structure OverviewDraft where
  projectName : Option String
  description : Option String
  purpose : Option String
  keyTechnologies : Option (List String)
  architecturePattern : Option String
  mainFeatures : Option (List String)
  dependencies : Option (List String)
deriving Repr, DecidableEq

/-- A draft without any part. -/
def OverviewDraft.empty : OverviewDraft := ⟨none, none, none, none, none, none, none⟩

/-- What a run asks. -/
inductive Question where
  /-- What do these figures say? -/
  | complexity (metrics : ComplexityMetrics) (context : ProjectContext)
  /-- What does this method do? -/
  | method (signature className : String) (annotations : List String)
  /-- What is noteworthy about the code base? -/
  | aspects (statistics : Statistics) (complexity : ComplexitySummary) (components : ComponentMap)
      (context : ProjectContext)
  /-- What should be done about it? -/
  | recommendations (summary : String)
  /-- What is this project? -/
  | overview (request : OverviewRequest)

/-- The answers to a question. -/
def Question.Answer : Question → Type
  | complexity .. => Option String
  | method .. => Option String
  | aspects .. => Option (List String)
  | recommendations _ => List String
  | overview _ => Option OverviewDraft

/-- Answers questions, remembering something of type `σ`. -/
abbrev Narrator (σ : Type) := (q : Question) → StateM σ q.Answer

/-- The answer that says nothing. -/
def Question.noAnswer : (q : Question) → q.Answer
  | complexity .. => (none : Option String)
  | method .. => (none : Option String)
  | aspects .. => (none : Option (List String))
  | recommendations _ => ([] : List String)
  | overview _ => (none : Option OverviewDraft)

/-- The narrator that has nothing to say. -/
def Narrator.offline {σ : Type} : Narrator σ := fun q => pure q.noAnswer

end CodeDigest
