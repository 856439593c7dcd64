import CodeDigest.Aspect
import CodeDigest.Recommendation
import CodeDigest.Report

/-!
# From source files to a report

The stages of a run, in order: components, statistics, complexity, key methods, aspects and
recommendations.  A narrator is asked on the way; whatever it answers, the run goes on.
-/

namespace CodeDigest

/-- The settings of a run. -/
structure AnalysisOptions where
  /-- Files above this complexity are listed. -/
  highComplexityThreshold : Float
  /-- Whether to ask what the complexity figures say. -/
  interpretComplexity : Bool
  /-- Whether to ask what each key method does. -/
  describeMethods : Bool

namespace AnalysisOptions

/-- The settings when nothing is set. -/
def standard : AnalysisOptions := ⟨10.0, true, true⟩

open Json

/-- The settings as JSON. -/
def toJson (o : AnalysisOptions) : Json :=
  .object
    [("high_complexity_threshold", double o.highComplexityThreshold),
     ("interpret_complexity", .bool o.interpretComplexity),
     ("describe_methods", .bool o.describeMethods)]

/-- Reads settings; one that is missing keeps its standard value. -/
def ofJson? : Json → Option AnalysisOptions :=
  readRecord do
    let threshold ←
      fieldOr "high_complexity_threshold" readDouble standard.highComplexityThreshold
    let interpret ← fieldOr "interpret_complexity" readBool standard.interpretComplexity
    let describe ← fieldOr "describe_methods" readBool standard.describeMethods
    return ⟨threshold, interpret, describe⟩

end AnalysisOptions

variable {σ : Type}

/-- The complexity section, with what the narrator says about the figures if it is to be asked. -/
def ComplexitySummary.ofFiles (narrator : Narrator σ) (interpret : Bool) (context : ProjectContext)
    (threshold : Float) (files : List SourceFile) : StateM σ ComplexitySummary := do
  match ComplexityMetrics.ofFiles? files threshold with
  | none => return noData noDataMessage
  | some metrics =>
    if interpret then
      let answer : Option String ← narrator (.complexity metrics context)
      return measured metrics (answer.bind trimmed?)
    else
      return measured metrics none

/-- The report on a list of files. -/
def Report.ofFiles (narrator : Narrator σ) (options : AnalysisOptions) (files : List SourceFile)
    (overview : ProjectOverview) (context : ProjectContext) : StateM σ Report := do
  let threshold := options.highComplexityThreshold
  let components := ComponentMap.ofFiles files
  let statistics := Statistics.ofFiles files
  let complexity ←
    ComplexitySummary.ofFiles narrator options.interpretComplexity context threshold files
  let keyMethods ←
    KeyMethod.describeAll narrator options.describeMethods (KeyMethod.ofFiles components files)
  let aspects ← Aspect.identify narrator statistics complexity components context threshold
  let recommendations ← Recommendation.request narrator statistics overview.keyTechnologies
  return ⟨overview, statistics, keyMethods, components, complexity, recommendations, aspects⟩

end CodeDigest
