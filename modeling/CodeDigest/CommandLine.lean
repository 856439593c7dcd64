import CodeDigest.Codebase
import CodeDigest.CommandLine.Arguments
import CodeDigest.CommandLine.Summary
import CodeDigest.Narration.Choice

/-!
# The command line

What the program does, as a function from what it finds to what it leaves behind: the text on its
two output streams, the status it ends with, and the files.  An analysis either writes its report
and nothing else, or fails and leaves every file as it was; only when the report itself cannot be
written may the directories above it have been made.
-/

namespace CodeDigest

/-- What a run finds. -/
structure Surroundings where
  tree : FileTree
  environment : Environment
  /-- The time, as reports give it. -/
  timestamp : String

/-- What a run leaves behind. -/
structure Outcome where
  status : Nat
  output : String
  errors : String
  tree : FileTree

namespace Outcome

/-- A run that ends well. -/
def success (output : String) (tree : FileTree) : Outcome := ⟨0, output, "", tree⟩

/-- A run that fails after some output. -/
def failure (output : String) (failure : Failure) (tree : FileTree) : Outcome :=
  ⟨1, output, Console.line ("\x1b[31mError:\x1b[0m " ++ failure.message), tree⟩

end Outcome

/-- The version of the program. -/
def programVersion : String := "0.1.0"

/-- How the program is called. -/
def usage : String :=
  joined "\n"
    ["Architecture, complexity and key-method report for a codebase",
     "",
     "Usage: codebrief [OPTIONS] <COMMAND>",
     "",
     "Commands:",
     "  analyze      Analyze a codebase and write the JSON report",
     "  config show  Show current configuration (merged from all sources)",
     "  config path  Show configuration file paths",
     "  config init  Create .codebrief/config.toml in the current directory",
     "",
     "Options:",
     "  -c, --config <CONFIG>  Use this config file instead of the global/project ones",
     "      --verbose",
     "  -q, --quiet",
     "  -h, --help             Print help",
     "  -V, --version          Print version",
     ""]

namespace CommandLine

/-- Text that a quiet run leaves out. -/
def unlessQuiet (quiet : Bool) (text : String) : String := if quiet then "" else text

/-! ## Analysis -/

/-- The settings of an analysis and the narrator that they choose. -/
def prepare (s : Surroundings) (settingsFile : Option String) (choices : Overrides) :
    Except Failure (Settings × NarratorChoice) := do
  let loaded ← Settings.load s.tree s.environment settingsFile
  let settings ← (choices.apply loaded).check
  let choice ← NarratorChoice.ofSettings s.environment settings.model
  return (settings, choice)

/-- The line that says who answers the questions of a run. -/
def announcement : NarratorChoice → String
  | .offline => Console.info "Running offline: narrative sections stay empty"
  | .provider p => Console.info ("Using " ++ p.service.name ++ " (" ++ p.model ++ ")")

/-- What the report says about the run. -/
def metadata (s : Surroundings) (choice : NarratorChoice) : ReportMetadata :=
  ⟨s.timestamp, programVersion, choice.providerName, choice.modelName⟩

/-- Writes a report and ends the run. -/
def deliver (s : Surroundings) (quiet : Bool) (settings : Settings) (choice : NarratorChoice)
    (report : Report) : Outcome :=
  let path := settings.codebase.output
  let before := unlessQuiet quiet (announcement choice)
  match s.tree.tryText path (report.render (metadata s choice)) with
  | ⟨tree, none⟩ => .success (before ++ unlessQuiet quiet (report.summary path)) tree
  | ⟨tree, some fault⟩ => .failure before (.file fault.message) tree

variable {σ : Type}

/-- Analyses a code base and writes the report. -/
def analyze (transport : Transport σ) (s : Surroundings) (settingsFile : Option String)
    (quiet : Bool) (choices : Overrides) : StateM σ Outcome :=
  match prepare s settingsFile choices with
  | .error failure => return .failure "" failure s.tree
  | .ok (settings, choice) =>
    match Codebase.ofTree s.tree settings with
    | .error failure => return .failure (unlessQuiet quiet (announcement choice)) failure s.tree
    | .ok codebase => do
      let report ← codebase.report (choice.narrator transport) s.tree settings
      return deliver s quiet settings choice report

/-! ## Settings -/

/-- Shows the settings that are in force. -/
def showSettings (s : Surroundings) (settingsFile : Option String) (format : String) : Outcome :=
  let text : Except Failure String := do
    let asJson ←
      match format with
      | "json" => .ok true
      | "toml" => .ok false
      | other => .error (.input (.format other))
    (← Settings.load s.tree s.environment settingsFile).render asJson
  match text with
  | .ok text => .success (Console.line text) s.tree
  | .error failure => .failure "" failure s.tree

/-- A path with a mark that says whether there is something. -/
def markedPath (t : FileTree) (path : String) : String :=
  (if t.pathExists path then "✓ " else "✗ ") ++ path

/-- Shows where settings are kept. -/
def showPaths (s : Surroundings) : Outcome :=
  .success
    (Console.line "Configuration paths:" ++ Console.line ""
      ++ Console.line ("  Global:  "
        ++ ((Settings.globalFile? s.environment).elim "(not available)" (markedPath s.tree)))
      ++ Console.line ("  Project: " ++ markedPath s.tree Settings.projectFile))
    s.tree

/-- Writes a new settings file for the project in the current directory. -/
def initialize_ (s : Surroundings) (quiet force : Bool) : Outcome :=
  match Settings.tryInitialize s.tree ("/" ++ joined "/" s.tree.here) force with
  | (tree, .ok path) =>
    .success
      (unlessQuiet quiet
        (Console.success "Initialized project configuration" ++ Console.info ("Config: " ++ path)))
      tree
  | (tree, .error failure) => .failure "" failure tree

/-! ## Running -/

/-- Does what a command line says. -/
def perform (transport : Transport σ) (s : Surroundings) (i : Invocation) : StateM σ Outcome :=
  match i.command with
  | .analyze choices => analyze transport s i.settingsFile i.quiet choices
  | .showSettings format => return showSettings s i.settingsFile format
  | .showPaths => return showPaths s
  | .initialize_ force => return initialize_ s i.quiet force
  | .showVersion => return .success (Console.line ("codebrief " ++ programVersion)) s.tree
  | .showUsage => return .success usage s.tree

/-- Runs the program with the words of its command line. -/
def run (transport : Transport σ) (s : Surroundings) (words : List String) : StateM σ Outcome :=
  match Invocation.ofArguments? words with
  | some invocation => perform transport s invocation
  | none => return ⟨2, "", usage, s.tree⟩

end CommandLine

end CodeDigest
