import CodeDigest.Decimal.Layout
import CodeDigest.Narration.Question

/-!
# Prompts

A prompt is a sequence of sections, each followed by an empty line; blanks at its end are removed.
`Question.prompt` words each question for a language model.
-/

namespace CodeDigest

/-- A section of a prompt. -/
inductive PromptSection where
  /-- Whom the model is to play. -/
  | role (text : String)
  /-- A list of facts under a heading. -/
  | facts (header : String) (lines : List String)
  /-- A text under a heading. -/
  | block (header content : String)
  | text (content : String)
deriving Repr, DecidableEq

namespace PromptSection

/-- The text of a section. -/
def write : PromptSection → String
  | role t => t
  | facts header lines => header ++ ":" ++ String.join (lines.map ("\n- " ++ ·))
  | block header content => header ++ ":\n" ++ content
  | text content => content

/-- The text of a prompt. -/
def writeAll (sections : List PromptSection) : String :=
  String.ofList (Text.trimEnd (String.join (sections.map fun s => s.write ++ "\n\n")).toList)

end PromptSection

namespace Prompt

open PromptSection

/-- The facts about the project that several prompts share. -/
def projectFacts (c : ProjectContext) : PromptSection :=
  facts "Project" ["Type: " ++ c.primaryFramework, "Language: " ++ c.language]

/-- Asks what complexity figures say. -/
def complexity (m : ComplexityMetrics) (c : ProjectContext) : List PromptSection :=
  [role "You are a code quality expert analyzing complexity metrics.",
   projectFacts c,
   facts "Complexity Metrics"
    ["Average Complexity: " ++ roundedNumber 2 m.average,
     "Maximum Complexity: " ++ plainNumber m.max,
     "Minimum Complexity: " ++ plainNumber m.min,
     "High Complexity Files: " ++ toString m.highComplexityFiles.length],
   text ("Analyze these complexity metrics and give an overall assessment for this type of "
    ++ "project, what the numbers say about maintainability, and specific improvements if "
    ++ "any are needed. Keep it to 2-3 sentences. Put the text in the \"interpretation\" field.")]

/-- Asks what a method does. -/
def method (signature className : String) (annotations : List String) : List PromptSection :=
  [role ("You are an expert software developer. Describe in one clear sentence what this "
    ++ "method does, based on its signature and annotations. Focus on the business "
    ++ "purpose, not implementation details."),
   facts "Method"
    ["Class: " ++ className,
     "Signature: " ++ signature,
     "Annotations: " ++ if annotations.isEmpty then "none" else joined ", " annotations],
   text "Put the sentence in the \"description\" field."]

/-- The roles whose classes a prompt names. -/
def sampledRoles : List Role := [.controllers, .services, .configurations]

/-- How many classes of a role a prompt names. -/
def sampleSize : Nat := 5

/-- The classes that a prompt names. -/
def keyClasses (m : ComponentMap) : String :=
  match sampledRoles.filter fun r => !(m.get r).isEmpty with
  | [] => "No key components identified"
  | roles =>
    joined "\n" (roles.map fun r =>
      "- " ++ titleCased r.name ++ ": " ++ joined ", " ((m.get r).take sampleSize))

/-- Asks what is noteworthy. -/
def aspects (s : Statistics) (complexity : ComplexitySummary) (m : ComponentMap)
    (c : ProjectContext) : List PromptSection :=
  let metrics := complexity.metrics?.getD ⟨0, 0, 0, []⟩
  [role "You are a software architect analyzing codebase quality and architecture.",
   projectFacts c,
   facts "Statistics"
    ["Total Files: " ++ toString s.totalFiles,
     "Total Lines: " ++ toString s.totalLines,
     "Classes: " ++ toString s.totalClasses,
     "Business Logic Methods: " ++ toString s.totalMethods],
   facts "Architecture"
    (Role.all.map fun r => titleCased r.name ++ ": " ++ toString (m.count r)),
   facts "Complexity"
    ["Average: " ++ roundedNumber 2 metrics.average,
     "Max: " ++ plainNumber metrics.max,
     "High Complexity Files: " ++ toString metrics.highComplexityFiles.length],
   block "Key Classes" (keyClasses m),
   text ("Identify 5-7 noteworthy aspects of this codebase: architecture quality and "
    ++ "patterns, code organization, complexity and maintainability, potential issues, "
    ++ "best practices followed and areas for improvement. Write each aspect as one "
    ++ "specific, actionable sentence in the \"aspects\" array.")]

/-- Asks what should be done. -/
def recommendations (summary : String) : List PromptSection :=
  [role "You are a senior software architect conducting a code review.",
   block "Codebase Analysis Summary" summary,
   text ("Provide 5-7 actionable recommendations for improvement covering code quality, "
    ++ "maintainability, security, performance and best practices. Return them as "
    ++ "strings in the \"recommendations\" array.")]

/-- How much of a README a prompt quotes. -/
def readmeLength : Nat := 3000

/-- How much of a build file a prompt quotes. -/
def buildFileLength : Nat := 2000

/-- How many paths a prompt lists. -/
def pathCount : Nat := 50

/-- Asks what the project is. -/
def overview (r : OverviewRequest) : List PromptSection :=
  [role ("You are an expert software architect analyzing a codebase. Produce a project "
    ++ "overview: name and description, main purpose, key technologies, architecture "
    ++ "pattern (e.g. MVC, microservices), main features and key dependencies."),
   text ("Analyze this " ++ r.language ++ " project."),
   block "README Content" ((r.readme.map (firstChars readmeLength)).getD "No README found"),
   block "Configuration File Content"
    ((r.buildFile.map (firstChars buildFileLength)).getD "No config file found"),
   facts "Detected"
    ["Language: " ++ r.language,
     "Frameworks: " ++ if r.frameworks.isEmpty then "Unknown" else joined ", " r.frameworks],
   block ("File Structure Sample (first " ++ toString pathCount ++ " files)")
    (joined "\n" (r.fileStructure.take pathCount))]

end Prompt

/-- The prompt for a question. -/
def Question.prompt : Question → String
  | complexity metrics context => PromptSection.writeAll (Prompt.complexity metrics context)
  | method signature className annotations =>
    PromptSection.writeAll (Prompt.method signature className annotations)
  | aspects statistics summary components context =>
    PromptSection.writeAll (Prompt.aspects statistics summary components context)
  | recommendations summary => PromptSection.writeAll (Prompt.recommendations summary)
  | overview request => PromptSection.writeAll (Prompt.overview request)

end CodeDigest
