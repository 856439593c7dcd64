import CodeDigest.Report

/-!
# A report in short

What is printed at the end of a run: the figures of the report, what is noteworthy, and where the
report has been written.
-/

namespace CodeDigest

namespace Console

/-- A line. -/
def line (text : String) : String := text ++ "\n"

/-- A line about something that has been done. -/
def success (text : String) : String := line ("✓ " ++ text)

/-- A line that tells something. -/
def info (text : String) : String := line ("ℹ " ++ text)

/-- The heading of a section. -/
def section_ (title : String) : String :=
  "\n" ++ line title ++ line (String.ofList (List.replicate 40 '─'))

/-- A text filled up with blanks. -/
def padded (width : Nat) (s : String) : String :=
  s ++ String.ofList (List.replicate (width - s.length) ' ')

/-- A section with a list, unless there is nothing to list. -/
def listing (title : String) (items : List String) : String :=
  if items.isEmpty then ""
  else section_ title ++ String.join (items.map fun item => line ("  • " ++ item))

end Console

namespace Report

open Console

/-- The section with the counts. -/
def statisticsSection (r : Report) : String :=
  let s := r.statistics
  section_ "Statistics"
    ++ line ("  Files:          " ++ toString s.totalFiles)
    ++ line ("  Lines:          " ++ toString s.totalLines
      ++ " (" ++ toString s.totalCodeLines ++ " code)")
    ++ line ("  Classes:        " ++ toString s.totalClasses)
    ++ line ("  Key methods:    " ++ toString r.keyMethods.length)

/-- The section with the number of classes in each role. -/
def componentsSection (r : Report) : String :=
  section_ "Components"
    ++ String.join (r.keyComponents.rows.map fun (role, names) =>
      line ("  " ++ padded 16 (role.name ++ ":") ++ toString names.length))

/-- The lines on the complexity of the code. -/
def complexityLines : ComplexitySummary → String
  | .measured m interpretation =>
    line ("  avg " ++ roundedNumber 2 m.average ++ "  max " ++ roundedNumber 2 m.max
        ++ "  min " ++ roundedNumber 2 m.min)
      ++ (if m.highComplexityFiles.isEmpty then ""
        else line ("  ⚠ " ++ toString m.highComplexityFiles.length ++ " high-complexity files"))
      ++ interpretation.elim "" fun text => line ("  " ++ text)
  | .noData message => line ("  " ++ message)

/-- What is printed about a report that has been written to a path. -/
def summary (r : Report) (path : String) : String :=
  line ("\nAnalysis of " ++ r.overview.projectName)
    ++ (if r.overview.description.isEmpty then "" else line r.overview.description)
    ++ r.statisticsSection
    ++ r.componentsSection
    ++ section_ "Complexity" ++ complexityLines r.complexitySummary
    ++ listing "Noteworthy" r.noteworthyAspects
    ++ listing "Recommendations" r.recommendations
    ++ line "" ++ success ("Report written to " ++ path)

end Report

end CodeDigest
