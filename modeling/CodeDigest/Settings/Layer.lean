import CodeDigest.FileTree
import CodeDigest.Settings
import CodeDigest.Settings.Variable
import CodeDigest.Toml.Document
import CodeDigest.Toml.Printer

/-!
# Where settings come from

Settings are put together from layers: the standard values, settings files, and environment
variables.  A later layer takes the place of an earlier one, table by table and key by key; lists
are replaced as a whole.
-/

namespace CodeDigest

/-- Environment variables with their values. -/
abbrev Environment := List (String × String)

namespace Json

mutual

/-- A value with another one laid over it: the members of objects are joined, anything else is
replaced. -/
def overlay : Json → Json → Json
  | .object below, .object above => .object (overlayMembers below above)
  | _, above => above

/-- Members with others laid over them. -/
def overlayMembers : List (String × Json) → List (String × Json) → List (String × Json)
  | [], above => above
  | (k, v) :: below, above =>
    (k, match above.lookup k with
      | some w => overlay v w
      | none => v)
      :: overlayMembers below (above.filter (·.1 != k))

end

/-- Nothing laid over an object leaves it as it is. -/
theorem overlay_empty (members : List (String × Json)) :
    overlay (.object members) (.object []) = .object members := by
  have h : ∀ ms : List (String × Json), overlayMembers ms [] = ms := by
    intro ms
    induction ms with
    | nil => simp [overlayMembers]
    | cons m ms ih => obtain ⟨k, v⟩ := m; simp [overlayMembers, ih]
  simp [overlay, h]

end Json

namespace Settings

/-! ## Environment variables -/

/-- What the names of the variables start with, letter case aside. -/
def variableMark : String := "codebrief_"

/-- The path of keys that a variable sets, if it sets one: the part of its name behind the mark,
divided at the first underscore and at dots. -/
def keysOf? (name : String) : Option (List String) :=
  let name := CodebaseSettings.asciiLower (trimmed name)
  match Text.dropPrefix? variableMark.toList name.toList with
  | none => none
  | some rest =>
    let (front, behind) := rest.span (· != '_')
    let dotted := if behind.isEmpty then front else front ++ '.' :: behind.drop 1
    let keys := (Text.split '.' (Text.trim dotted)).map String.ofList
    if keys.any String.isEmpty then none else some keys

/-- An object that holds a value under a path of keys. -/
def nested : List String → Json → Json
  | [], v => v
  | key :: keys, v => .object [(key, nested keys v)]

/-- The layer of environment variables, in the order of the environment. -/
def ofVariables (env : Environment) : Json :=
  env.foldl
    (fun layer (name, text) =>
      match keysOf? name with
      | some keys => layer.overlay (nested keys (Variable.ofText text))
      | none => layer)
    (.object [])

/-! ## Files -/

/-- The directory of the program in the user's settings. -/
def globalDirectory? (env : Environment) : Option String :=
  ((env.lookup "XDG_CONFIG_HOME").or
    ((env.lookup "HOME").map fun home => Path.join home ".config")).map
    fun base => Path.join base "codebrief"

/-- The settings file of the user. -/
def globalFile? (env : Environment) : Option String :=
  (globalDirectory? env).map fun directory => Path.join directory "config.toml"

/-- The settings file of a project. -/
def projectFile : String := ".codebrief/config.toml"

/-- The file that a path stands for: a relative path is looked for in the current directory and in
those above it. -/
def locate? (t : FileTree) (path : String) : Option ByteArray :=
  let starts :=
    if Path.isAbsolute path then [t.here]
    else (List.range (t.here.length + 1)).reverse.map t.here.take
  starts.findSome? fun here =>
    match ({ t with here := here } : FileTree).node? path with
    | some (.file content) => some content
    | _ => none

/-- A fault in a settings file or in the values of settings. -/
def unreadable (reason : String) : Failure := .settings (.unreadable reason)

/-- The layer of a settings file; a file that is not there sets nothing. -/
def ofFile (t : FileTree) (path : String) : Except Failure Json :=
  match locate? t path with
  | none => .ok (.object [])
  | some content =>
    match (String.fromUTF8? content).bind Toml.ofString? with
    | some v => .ok v
    | none => .error (unreadable path)

/-- The settings that layers make up, once they have been checked. -/
def ofLayers (layers : List Json) : Except Failure Settings :=
  match ofJson? (layers.foldl Json.overlay standard.toJson) with
  | some s => s.check
  | none => .error (unreadable "values of the wrong kind")

/-- The settings in some files that are there, and in environment variables. -/
def loadFiles (t : FileTree) (env : Environment) (paths : List String) :
    Except Failure Settings := do
  let files ← (paths.filter t.pathExists).mapM (ofFile t)
  ofLayers (files ++ [ofVariables env])

/-- The settings in one file alone. -/
def loadFile (t : FileTree) (path : String) : Except Failure Settings := do
  ofLayers [← ofFile t path]

/-- The settings of a run: from a file that is given, or else from those of the user and the
project; environment variables come on top. -/
def load (t : FileTree) (env : Environment) : (given : Option String) → Except Failure Settings
  | some path =>
    if t.isFile path then loadFiles t env [path]
    else .error (.settings (.noSuchFile path))
  | none => loadFiles t env ((globalFile? env).toList ++ [projectFile])

/-! ## Writing settings -/

/-- The largest whole number in a settings file. -/
def wholeLimit : Nat := 0x8000000000000000

/-- The settings as the text of a settings file, or as JSON. -/
def render (s : Settings) (asJson : Bool) : Except Failure String :=
  if asJson then .ok s.toJson.toPretty
  else if [s.codebase.maxFileSize, s.model.timeout, s.model.maxTokens].any (wholeLimit ≤ ·) then
    .error (.settings (.other "out-of-range value for u64 type"))
  else .ok (Toml.document s.toJson)

/-- The text of a new settings file for a project. -/
def template : String :=
  joined "\n"
    ["# codebrief project configuration",
     "# Overrides ~/.config/codebrief/config.toml; CODEBRIEF_* env vars override both.",
     "",
     "[analysis]",
     "path = \".\"",
     "output = \"./output/analysis_results.json\"",
     "# \"auto\" or one of: " ++ joined ", " (Language.known.map Language.tag),
     "target_language = \"auto\"",
     "include = []",
     "# exclude = [\"**/target/**\", \"**/node_modules/**\"]",
     "",
     "[llm]",
     "enabled = true",
     "# openai | anthropic | ollama",
     "provider = \"openai\"",
     "# model = \"gpt-4o-mini\"",
     "timeout_secs = 120",
     "temperature = 0.1",
     "max_tokens = 4000",
     "",
     "[pipeline]",
     "high_complexity_threshold = 10.0",
     "interpret_complexity = true",
     "describe_methods = true",
     ""]

/-- Tries to write a new settings file for a project; one that is there is kept unless `force` is
set.  The tree that is left comes with the path of the file or the failure. -/
def tryInitialize (t : FileTree) (root : String) (force : Bool) :
    FileTree × Except Failure String :=
  let path := Path.join root projectFile
  if t.pathExists path && !force then (t, .error (.settings (.alreadyThere path)))
  else
    match t.tryText path template with
    | ⟨t, none⟩ => (t, .ok path)
    | ⟨t, some fault⟩ => (t, .error (.file fault.message))

/-- Writes a new settings file for a project and gives its path. -/
def initialize_ (t : FileTree) (root : String) (force : Bool) :
    Except Failure (String × FileTree) :=
  match tryInitialize t root force with
  | (t, .ok path) => .ok (path, t)
  | (_, .error failure) => .error failure

end Settings

end CodeDigest
