import CodeDigest.Decimal.Layout
import CodeDigest.Narration.Question

/-!
# Noteworthy aspects

Observations about a code base.  A narrator's lines are cleaned: trimmed, without headings, without
list markers, and without lines that are too short to say something.  If nothing is left, or nothing
was said, fixed rules observe the figures instead.  The two sources are never mixed.
-/

namespace CodeDigest.Aspect

/-- A line with fewer characters says nothing. -/
def leastLength : Nat := 20

/-- The line without the list marker in front: a bullet, or digits with a point or parenthesis. -/
def dropMarker (line : List Char) : List Char :=
  match line with
  | '-' :: rest | '*' :: rest | '•' :: rest => Text.trim rest
  | _ =>
    match line.span Char.isDigit with
    | (_ :: _, '.' :: rest) | (_ :: _, ')' :: rest) => Text.trim rest
    | _ => line

/-- What a line says, if it says something. -/
def ofLine? (line : String) : Option String :=
  let cs := Text.trim line.toList
  if cs.head? == some '#' then none
  else
    let said := dropMarker cs
    if leastLength ≤ said.length then some (String.ofList said) else none

/-- What the lines of some texts say. -/
def ofLines (texts : List String) : List String := (texts.flatMap textLines).filterMap ofLine?

/-- Everything that is left of a narrator's lines is long enough. -/
theorem length_of_ofLine? {line said : String} (h : ofLine? line = some said) :
    leastLength ≤ said.length := by
  unfold ofLine? at h
  simp only at h
  split at h
  · cases h
  · split at h
    · next hl => cases h; simpa using hl
    · cases h

/-- Below this average, code is maintainable. -/
def lowAverage : Float := 2.0

/-- Above this average, code needs work. -/
def highAverage : Float := 5.0

/-- A code base with fewer lines is compact. -/
def compactLines : Nat := 3000

/-- A code base with more lines is large. -/
def largeLines : Nat := 10000

/-- Classes with fewer business methods on average have a single purpose. -/
def fewMethods : Float := 3.0

/-- The name of the class that sets up security. -/
def securityClass : String := "WebSecurityConfig"

/-- The observation on layers. -/
def onLayers (m : ComponentMap) : List String :=
  if 0 < m.count .controllers && 0 < m.count .services then
    ["Well-structured MVC architecture with " ++ toString (m.count .controllers)
      ++ " controllers and " ++ toString (m.count .services) ++ " services"]
  else []

/-- The observation on the data model. -/
def onEntities (m : ComponentMap) : List String :=
  if 0 < m.count .entities then
    ["Data model contains " ++ toString (m.count .entities) ++ " entity classes"]
  else []

/-- The observations on complexity. -/
def onComplexity (threshold : Float) (metrics : ComplexityMetrics) : List String :=
  (if metrics.average < lowAverage then
    ["Low code complexity (avg: " ++ roundedNumber 1 metrics.average
      ++ ") indicates maintainable code"]
  else if metrics.average > highAverage then
    ["High code complexity (avg: " ++ roundedNumber 1 metrics.average
      ++ ") may require refactoring"]
  else [])
  ++ if metrics.highComplexityFiles.isEmpty then []
    else
      [toString metrics.highComplexityFiles.length ++ " files with high complexity (>"
        ++ plainNumber threshold ++ ") need attention"]

/-- The observation on size. -/
def onSize (s : Statistics) : List String :=
  if s.totalLines < compactLines then
    ["Compact codebase (" ++ toString s.totalLines
      ++ " lines) - easy to navigate and understand"]
  else if largeLines < s.totalLines then
    ["Large codebase (" ++ toString s.totalLines ++ " lines) - consider modularization"]
  else []

/-- The mean number of business methods in a class. -/
def methodsPerClass (s : Statistics) : Float :=
  if 0 < s.totalClasses then s.totalMethods.toUInt64.toFloat / s.totalClasses.toUInt64.toFloat
  else 0.0

/-- The observation on the size of classes. -/
def onClasses (s : Statistics) : List String :=
  if methodsPerClass s < fewMethods then
    ["Classes have few business methods (avg: " ++ roundedNumber 1 (methodsPerClass s)
      ++ ") - likely following single responsibility principle"]
  else []

/-- The observation on security. -/
def onSecurity (m : ComponentMap) : List String :=
  if m.configurations.contains securityClass then
    ["Spring Security configured for authentication and authorization"]
  else []

/-- What the rules observe. -/
def byRule (s : Statistics) (complexity : ComplexitySummary) (m : ComponentMap)
    (threshold : Float) : List String :=
  onLayers m ++ onEntities m
    ++ ((complexity.metrics?.map (onComplexity threshold)).getD [])
    ++ onSize s ++ onClasses s ++ onSecurity m

/-- The observations that a narrator's answer leads to. -/
def select (answer : Option (List String)) (byRule : List String) : List String :=
  match answer.map ofLines with
  | none | some [] => byRule
  | some lines => lines

/-- The observations of a run. -/
def identify {σ : Type} (narrator : Narrator σ) (s : Statistics) (complexity : ComplexitySummary)
    (m : ComponentMap) (context : ProjectContext) (threshold : Float) :
    StateM σ (List String) := do
  let answer ← narrator (.aspects s complexity m context)
  return select answer (byRule s complexity m threshold)

end CodeDigest.Aspect
