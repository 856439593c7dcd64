import CodeDigest.Complexity
import CodeDigest.Json.Printer
import CodeDigest.KeyMethod

/-!
# Reports

The result of a run, and the document it is written to: the sections of the report and a section
about the run itself, as indented JSON.
-/

namespace CodeDigest

/-- What a run finds out about a code base. -/
structure Report where
  overview : ProjectOverview
  statistics : Statistics
  keyMethods : List KeyMethod
  keyComponents : ComponentMap
  complexitySummary : ComplexitySummary
  recommendations : List String
  noteworthyAspects : List String

/-- About the run. -/
structure ReportMetadata where
  timestamp : String
  version : String
  provider : String
  model : String
deriving Repr, DecidableEq

open Json

namespace Report

/-- The sections of a report. -/
def members (r : Report) : List (String × Json) :=
  [("overview", r.overview.toJson),
   ("statistics", r.statistics.toJson),
   ("key_methods", .array (r.keyMethods.map KeyMethod.toJson)),
   ("key_components", r.keyComponents.toJson),
   ("complexity_summary", r.complexitySummary.toJson),
   ("recommendations", strings r.recommendations),
   ("noteworthy_aspects", strings r.noteworthyAspects)]

/-- The report as JSON. -/
def toJson (r : Report) : Json := .object r.members

/-- Reads a report. -/
def ofJson? : Json → Option Report :=
  readRecord do
    let overview ← field "overview" ProjectOverview.ofJson?
    let statistics ← field "statistics" Statistics.ofJson?
    let keyMethods ← field "key_methods" (readList KeyMethod.ofJson?)
    let keyComponents ← field "key_components" ComponentMap.ofJson?
    let complexitySummary ← field "complexity_summary" ComplexitySummary.ofJson?
    let recommendations ← field "recommendations" readStrings
    let noteworthyAspects ← field "noteworthy_aspects" readStrings
    return ⟨overview, statistics, keyMethods, keyComponents, complexitySummary, recommendations,
      noteworthyAspects⟩

end Report

namespace ReportMetadata

/-- The section about the run. -/
def toJson (m : ReportMetadata) : Json :=
  .object
    [("analysis_timestamp", .string m.timestamp),
     ("analyzer_version", .string m.version),
     ("llm_provider", .string m.provider),
     ("llm_model", .string m.model)]

/-- Reads the section about the run. -/
def ofJson? : Json → Option ReportMetadata :=
  readRecord do
    let timestamp ← field "analysis_timestamp" readString
    let version ← field "analyzer_version" readString
    let provider ← field "llm_provider" readString
    let model ← field "llm_model" readString
    return ⟨timestamp, version, provider, model⟩

end ReportMetadata

/-- The document of a report. -/
def Report.document (r : Report) (m : ReportMetadata) : Json :=
  .object (r.members ++ [("metadata", m.toJson)])

/-- The text of the document. -/
def Report.render (r : Report) (m : ReportMetadata) : String := (r.document m).toPretty

end CodeDigest
