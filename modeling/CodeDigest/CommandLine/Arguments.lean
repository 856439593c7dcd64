import CodeDigest.Settings

/-!
# Arguments of the command line

The words behind the program's name say what to do.  Options stand in front of or behind the names
of commands, as `--name value`, `--name=value`, or with one letter as `-n value`, `-nvalue` and
`-n=value`; letters of switches can be put together.  An option can be given once for each command
that it stands behind.  The options in `globalOptions` can stand behind every command, and the last
command that has one of them counts.
-/

namespace CodeDigest

/-- What the program is asked to do. -/
inductive Command where
  | analyze (choices : Overrides)
  | showSettings (format : String)
  | showPaths
  | initialize_ (force : Bool)
  | showVersion
  | showUsage

/-- What the words of a command line say. -/
structure Invocation where
  settingsFile : Option String
  quiet : Bool
  command : Command

/-- What may stand behind the name of an option. -/
inductive OptionKind where
  /-- Nothing. -/
  | switch
  /-- Any text. -/
  | text
  /-- A text that is not empty. -/
  | path
  /-- Nothing, and the command ends the reading of the line. -/
  | ends (command : Command)

/-- An option. -/
structure OptionSpec where
  name : String
  letter : Option Char
  kind : OptionKind

/-- The options that can stand behind every command. -/
def globalOptions : List OptionSpec :=
  [⟨"config", some 'c', .path⟩, ⟨"verbose", none, .switch⟩, ⟨"quiet", some 'q', .switch⟩,
   ⟨"help", some 'h', .ends .showUsage⟩]

/-- The options in front of every command. -/
def programOptions : List OptionSpec :=
  ⟨"version", some 'V', .ends .showVersion⟩ :: globalOptions

/-- The options of an analysis. -/
def analysisOptions : List OptionSpec :=
  [⟨"path", some 'p', .path⟩, ⟨"language", some 'l', .text⟩, ⟨"provider", none, .text⟩,
   ⟨"model", none, .text⟩, ⟨"output", some 'o', .path⟩, ⟨"offline", none, .switch⟩]
    ++ globalOptions

/-- The options for showing settings. -/
def displayOptions : List OptionSpec := ⟨"format", some 'f', .text⟩ :: globalOptions

/-- The options for a new settings file. -/
def creationOptions : List OptionSpec := ⟨"force", none, .switch⟩ :: globalOptions

namespace Arguments

/-- Why reading a line ends early. -/
inductive Stop where
  /-- The line says nothing that can be done. -/
  | misuse
  | command (c : Command)

/-- The options that have been given, with their values; switches have the empty one. -/
abbrev Given := List (String × String)

/-- Adds an option, which must not have been given before. -/
def add (given : Given) (name value : String) : Except Stop Given :=
  if given.any (·.1 == name) then .error .misuse else .ok (given ++ [(name, value)])

/-- Adds an option with a value. -/
def addValue (given : Given) (spec : OptionSpec) (value : String) : Except Stop Given :=
  match spec.kind with
  | .text => add given spec.name value
  | .path => if value.isEmpty then .error .misuse else add given spec.name value
  | .switch | .ends _ => .error .misuse

/-- An option without a value next to it: it is complete or waits for the next word. -/
def addBare (given : Given) (spec : OptionSpec) : Except Stop (Given × Option OptionSpec) :=
  match spec.kind with
  | .switch => do .ok (← add given spec.name "", none)
  | .ends c => .error (.command c)
  | .text | .path => .ok (given, some spec)

/-- Reads a word of letters. -/
def readLetters (specs : List OptionSpec) (given : Given) :
    List Char → Except Stop (Given × Option OptionSpec)
  | [] => .ok (given, none)
  | c :: cs =>
    match specs.find? (·.letter == some c) with
    | none => .error .misuse
    | some spec =>
      match spec.kind, cs with
      | .text, _ :: _ | .path, _ :: _ => do
        let value := (Text.dropPrefix? ['='] cs).getD cs
        .ok (← addValue given spec (String.ofList value), none)
      | _, [] => addBare given spec
      | _, _ :: _ => do
        let (given, _) ← addBare given spec
        readLetters specs given cs

/-- Reads a word behind two dashes. -/
def readName (specs : List OptionSpec) (given : Given) (cs : List Char) :
    Except Stop (Given × Option OptionSpec) :=
  let (name, value) := cs.span (· != '=')
  match specs.find? (·.name == String.ofList name) with
  | none => .error .misuse
  | some spec =>
    match value with
    | [] => addBare given spec
    | _ :: value => do .ok (← addValue given spec (String.ofList value), none)

/-- Reads the options in front of the name of a command; `waiting` is the option whose value comes
next.  The words from that name on are left. -/
def readOptions (specs : List OptionSpec) (given : Given) (waiting : Option OptionSpec) :
    List String → Except Stop (Given × List String)
  | [] => if waiting.isSome then .error .misuse else .ok (given, [])
  | word :: words =>
    match waiting, word.toList with
    | none, ['-', '-'] => if words.isEmpty then .ok (given, []) else .error .misuse
    | none, '-' :: '-' :: cs => do
      let (given, waiting) ← readName specs given cs
      readOptions specs given waiting words
    | none, '-' :: c :: cs => do
      let (given, waiting) ← readLetters specs given (c :: cs)
      readOptions specs given waiting words
    | none, _ => .ok (given, word :: words)
    | some _, '-' :: _ :: _ => .error .misuse
    | some spec, _ => do
      readOptions specs (← addValue given spec word) none words

/-- Reads the options behind the last command; nothing may be left. -/
def readLast (specs : List OptionSpec) (words : List String) : Except Stop Given := do
  match ← readOptions specs [] none words with
  | (given, []) => .ok given
  | _ => .error .misuse

/-- Whether words lead to a command that help can be given on. -/
def isTopic (words : List String) : Bool :=
  [[], ["help"], ["analyze"], ["config"], ["config", "help"], ["config", "show"],
   ["config", "path"], ["config", "init"]].contains words

/-- Ends a line that asks for help. -/
def help (topic : List String) : Stop :=
  if isTopic topic then .command .showUsage else .misuse

/-- The choices of an analysis. -/
def overrides (given : Given) : Overrides where
  path := given.lookup "path"
  language := given.lookup "language"
  provider := given.lookup "provider"
  model := given.lookup "model"
  output := given.lookup "output"
  offline := given.any (·.1 == "offline")

/-- Reads the words behind `config`: the options of each command on the way, the last one first, and
the command. -/
def readSettingsCommand (words : List String) : Except Stop (List Given × Command) := do
  match ← readOptions globalOptions [] none words with
  | (outer, "show" :: words) =>
    let inner ← readLast displayOptions words
    .ok ([inner, outer], .showSettings ((inner.lookup "format").getD "toml"))
  | (outer, "path" :: words) => .ok ([← readLast globalOptions words, outer], .showPaths)
  | (outer, "init" :: words) =>
    let inner ← readLast creationOptions words
    .ok ([inner, outer], .initialize_ (inner.any (·.1 == "force")))
  | (_, "help" :: topic) => .error (help ("config" :: topic))
  | _ => .error .misuse

/-- Reads the words of a line: the options of each command on the way, the last one first, and the
command. -/
def readProgram (words : List String) : Except Stop (List Given × Command) := do
  match ← readOptions programOptions [] none words with
  | (outer, "analyze" :: words) =>
    let inner ← readLast analysisOptions words
    .ok ([inner, outer], .analyze (overrides inner))
  | (outer, "config" :: words) =>
    let (inner, command) ← readSettingsCommand words
    .ok (inner ++ [outer], command)
  | (_, "help" :: topic) => .error (help topic)
  | _ => .error .misuse

end Arguments

/-- What the words of a command line say; none if they cannot be understood. -/
def Invocation.ofArguments? (words : List String) : Option Invocation :=
  match Arguments.readProgram words with
  | .ok (given, command) =>
    some ⟨given.findSome? (·.lookup "config"), given.any (·.any (·.1 == "quiet")), command⟩
  | .error (.command c) => some ⟨none, false, c⟩
  | .error .misuse => none

end CodeDigest
