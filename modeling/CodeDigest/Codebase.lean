import CodeDigest.Analysis
import CodeDigest.Detection
import CodeDigest.Overview
import CodeDigest.Scan
import CodeDigest.Settings
import CodeDigest.SourceReading

/-!
# Reading a code base

The part of a run before any question is asked: the language is detected, the source files of that
language are chosen and read.  What can go wrong goes wrong here; the report on a code base that has
been read always comes out.
-/

namespace CodeDigest

/-- A code base that has been read. -/
structure Codebase where
  detection : Detection
  /-- The paths of the chosen files below the root. -/
  paths : List String
  files : List SourceFile

namespace Codebase

/-- The choice of files that settings make for a language. -/
def scanOptions (s : CodebaseSettings) (language : Language) : ScanOptions where
  include_ := s.include_
  exclude := s.exclude
  extensions := language.extensions
  sizeLimit := s.maxFileSize

/-- Reads the code base that settings name. -/
def ofTree (t : FileTree) (s : Settings) : Except Failure Codebase := do
  let root := s.codebase.path
  let language ← s.codebase.language.mapError .settings
  let detection ← Detection.detect t root language
  let choice ← FileChoice.ofOptions (scanOptions s.codebase detection.language)
  let paths := (← scan t root choice).map (·.path)
  return ⟨detection, paths, SourceFile.ofTree s.rules detection.language t root paths⟩

/-- The report on a code base. -/
def report {σ : Type} (narrator : Narrator σ) (t : FileTree) (s : Settings) (c : Codebase) :
    StateM σ Report := do
  let overview ← ProjectOverview.build narrator t s.codebase.path c.detection c.paths
  Report.ofFiles narrator s.analysis c.files overview c.detection.context

end Codebase

end CodeDigest
