import CodeDigest.Source

/-!
# Complexity of a code base

The mean, the largest and the smallest complexity over the files that have one, and the files above
a threshold.  Numbers are in double precision: the sum runs through the files in order, starting at
negative zero, the neutral element of addition, and of two equal numbers the later one is taken as
the largest and the smallest, which shows where the two zeros meet.
-/

namespace CodeDigest

/-- The complexity figures. -/
structure ComplexityMetrics where
  average : Float
  max : Float
  min : Float
  /-- The paths of the files above the threshold. -/
  highComplexityFiles : List String

/-- The complexity section of a report. -/
inductive ComplexitySummary where
  | measured (metrics : ComplexityMetrics) (interpretation : Option String)
  /-- No file has a complexity. -/
  | noData (message : String)

namespace ComplexityMetrics

/-- The sum of numbers. -/
def sumOf (xs : List Float) : Float := xs.foldl (· + ·) (-0.0)

/-- The smaller of two numbers, the second one if they are equal. -/
def smaller (x y : Float) : Float := if x < y then x else y

/-- The larger of two numbers, the second one if they are equal. -/
def larger (x y : Float) : Float := if x > y then x else y

/-- Positive infinity. -/
def infinity : Float := 1.0 / 0.0

/-- Whether a file is above a threshold. -/
def isHigh (threshold : Float) (f : SourceFile) : Bool :=
  match f.complexity with
  | some c => decide (c > threshold)
  | none => false

/-- The figures of a list of files, if one of them has a complexity. -/
def ofFiles? (files : List SourceFile) (threshold : Float) : Option ComplexityMetrics :=
  match files.filterMap (·.complexity) with
  | [] => none
  | scores => some
    { average := sumOf scores / scores.length.toFloat
      max := scores.foldl larger (-infinity)
      min := scores.foldl smaller infinity
      highComplexityFiles := (files.filter (isHigh threshold)).map (·.path) }

open Json

/-- The members of the figures as JSON. -/
def members (m : ComplexityMetrics) : List (String × Json) :=
  [("average_complexity", double m.average),
   ("max_complexity", double m.max),
   ("min_complexity", double m.min),
   ("high_complexity_files", strings m.highComplexityFiles)]

/-- The figures as JSON. -/
def toJson (m : ComplexityMetrics) : Json := .object m.members

/-- Reads the fields of the figures. -/
def reader : RecordReader ComplexityMetrics := do
  let average ← field "average_complexity" readDouble
  let max ← field "max_complexity" readDouble
  let min ← field "min_complexity" readDouble
  let files ← field "high_complexity_files" readStrings
  return ⟨average, max, min, files⟩

/-- Reads figures. -/
def ofJson? : Json → Option ComplexityMetrics := readRecord reader

end ComplexityMetrics

namespace ComplexitySummary

/-- What stands in the place of figures when there are none. -/
def noDataMessage : String := "No complexity data available"

/-- The figures, if there are any. -/
def metrics? : ComplexitySummary → Option ComplexityMetrics
  | measured metrics _ => some metrics
  | noData _ => none

/-- What was said about the figures. -/
def interpretation? : ComplexitySummary → Option String
  | measured _ interpretation => interpretation
  | noData _ => none

open Json

/-- The section as JSON: the figures, with what was said about them if something was, or a message
alone. -/
def toJson : ComplexitySummary → Json
  | measured metrics interpretation =>
    .object (metrics.members
      ++ match interpretation with
        | some text => [("interpretation", .string text)]
        | none => [])
  | noData message => .object [("message", .string message)]

/-- Reads a section: figures if they are all there, and a message otherwise. -/
def ofJson? (v : Json) : Option ComplexitySummary :=
  (readNamed (do
    let metrics ← ComplexityMetrics.reader
    let interpretation ← optionOr "interpretation" readString none
    return measured metrics interpretation) v).or
  (readRecord (do return noData (← field "message" readString)) v)

end ComplexitySummary

end CodeDigest
