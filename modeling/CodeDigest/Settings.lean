import CodeDigest.Analysis
import CodeDigest.Business
import CodeDigest.Failure
import CodeDigest.Scan

/-!
# Settings

What is analysed, which language model is asked and how, and the rules of the analysis.  Settings
are read from JSON values, one that is missing keeping its standard value, and `Settings.check` says
whether they can be used.
-/

namespace CodeDigest

/-- The settings on files and the report. -/
structure CodebaseSettings where
  path : String
  /-- The path of the report. -/
  output : String
  /-- The name of a language, or `auto`. -/
  targetLanguage : String
  include_ : List String
  exclude : List String
  maxFileSize : Nat

/-- The settings on the language model. -/
structure ModelSettings where
  /-- Whether a language model is asked at all. -/
  enabled : Bool
  provider : String
  model : Option String
  /-- The address of the service, in the place of the provider's own. -/
  endpoint : Option String
  /-- The secret key; it is read and never written. -/
  key : Option String
  timeout : Nat
  temperature : Float32
  maxTokens : Nat

/-- All settings. -/
structure Settings where
  codebase : CodebaseSettings
  model : ModelSettings
  analysis : AnalysisOptions
  rules : BusinessRules

open Json

namespace CodebaseSettings

/-- The settings when nothing is set. -/
def standard : CodebaseSettings where
  path := "."
  output := "./output/analysis_results.json"
  targetLanguage := "auto"
  include_ := []
  exclude := standardExclude
  maxFileSize := standardSizeLimit

/-- The settings as JSON. -/
def toJson (s : CodebaseSettings) : Json :=
  .object
    [("path", .string s.path),
     ("output", .string s.output),
     ("target_language", .string s.targetLanguage),
     ("include", strings s.include_),
     ("exclude", strings s.exclude),
     ("max_file_size", nat s.maxFileSize)]

/-- Reads settings. -/
def ofJson? : Json → Option CodebaseSettings :=
  readRecord do
    let path ← fieldOr "path" readString standard.path
    let output ← fieldOr "output" readString standard.output
    let targetLanguage ← fieldOr "target_language" readString standard.targetLanguage
    let include_ ← fieldOr "include" readStrings standard.include_
    let exclude ← fieldOr "exclude" readStrings standard.exclude
    let maxFileSize ← fieldOr "max_file_size" readNat standard.maxFileSize
    return ⟨path, output, targetLanguage, include_, exclude, maxFileSize⟩

/-- A text in lowercase, as far as it is ASCII. -/
def asciiLower (s : String) : String := String.ofList (s.toList.map Char.toLower)

/-- The language to take, or none if it is to be detected. -/
def language (s : CodebaseSettings) : Except SettingsFault (Option Language) :=
  if asciiLower (trimmed s.targetLanguage) == "auto" then .ok none
  else
    match Language.ofName? s.targetLanguage with
    | some l => .ok (some l)
    | none => .error (.language s.targetLanguage)

end CodebaseSettings

namespace ModelSettings

/-- The settings when nothing is set. -/
def standard : ModelSettings where
  enabled := true
  provider := "openai"
  model := none
  endpoint := none
  key := none
  timeout := 120
  temperature := 0.1
  maxTokens := 4000

/-- The settings as JSON, without the key. -/
def toJson (s : ModelSettings) : Json :=
  .object
    [("enabled", .bool s.enabled),
     ("provider", .string s.provider),
     ("model", stringOrNull s.model),
     ("api_base", stringOrNull s.endpoint),
     ("timeout_secs", nat s.timeout),
     ("temperature", .number (.single s.temperature)),
     ("max_tokens", nat s.maxTokens)]

/-- Reads settings. -/
def ofJson? : Json → Option ModelSettings :=
  readRecord do
    let enabled ← fieldOr "enabled" readBool standard.enabled
    let provider ← fieldOr "provider" readString standard.provider
    let model ← optionOr "model" readString standard.model
    let endpoint ← optionOr "api_base" readString standard.endpoint
    let key ← optionOr "api_key" readString standard.key
    let timeout ← fieldOr "timeout_secs" readNat standard.timeout
    let temperature ← fieldOr "temperature" readSingle standard.temperature
    let maxTokens ← fieldOr "max_tokens" readNat standard.maxTokens
    return ⟨enabled, provider, model, endpoint, key, timeout, temperature, maxTokens⟩

end ModelSettings

namespace Settings

/-- The settings when nothing is set. -/
def standard : Settings := ⟨.standard, .standard, .standard, .standard⟩

/-- The settings as JSON. -/
def toJson (s : Settings) : Json :=
  .object
    [("analysis", s.codebase.toJson),
     ("llm", s.model.toJson),
     ("pipeline", s.analysis.toJson),
     ("rules", s.rules.toJson)]

/-- Reads settings. -/
def ofJson? : Json → Option Settings :=
  readRecord do
    let codebase ← fieldOr "analysis" CodebaseSettings.ofJson? .standard
    let model ← fieldOr "llm" ModelSettings.ofJson? .standard
    let analysis ← fieldOr "pipeline" AnalysisOptions.ofJson? .standard
    let rules ← fieldOr "rules" BusinessRules.ofJson? .standard
    return ⟨codebase, model, analysis, rules⟩

/-- Whether a temperature is one that a model takes. -/
def fitsTemperature (x : Float32) : Bool := 0.0 ≤ x && x ≤ 2.0

/-- Whether a threshold is a number from zero up. -/
def fitsThreshold (x : Float) : Bool := x.isFinite && !(x < 0)

/-- The first reason, in a fixed order, why settings cannot be used. -/
def fault? (s : Settings) : Option SettingsFault :=
  if !fitsTemperature s.model.temperature then
    some (.temperature (Decimal.Layout.plain.write (.ofSingle s.model.temperature)))
  else if s.model.timeout = 0 then some .noTimeout
  else if s.model.maxTokens = 0 then some .noTokens
  else if !supportedProviders.contains s.model.provider then some (.provider s.model.provider)
  else if !fitsThreshold s.analysis.highComplexityThreshold then
    some (.threshold (plainNumber s.analysis.highComplexityThreshold))
  else if s.codebase.maxFileSize = 0 then some .noFileSize
  else
    match s.codebase.language with
    | .ok _ => none
    | .error fault => some fault

/-- The settings, if they can be used. -/
def check (s : Settings) : Except Failure Settings :=
  match s.fault? with
  | some fault => .error (.settings fault)
  | none => .ok s

/-- Settings that pass have a language that is known or to be detected. -/
theorem language_of_check {s t : Settings} (h : s.check = .ok t) :
    t = s ∧ ∃ l, s.codebase.language = .ok l := by
  unfold check at h
  split at h
  · cases h
  · next hf =>
    cases h
    refine ⟨rfl, ?_⟩
    unfold fault? at hf
    repeat' split at hf
    all_goals try cases hf
    next l hl => exact ⟨l, hl⟩

end Settings

/-- Choices on a command line that take the place of settings. -/
structure Overrides where
  path : Option String
  language : Option String
  provider : Option String
  model : Option String
  output : Option String
  /-- Whether no language model is to be asked. -/
  offline : Bool

/-- The settings with the choices in their place. -/
def Overrides.apply (o : Overrides) (s : Settings) : Settings :=
  { s with
    codebase :=
      { s.codebase with
        path := o.path.getD s.codebase.path
        targetLanguage := o.language.getD s.codebase.targetLanguage
        output := o.output.getD s.codebase.output }
    model :=
      { s.model with
        provider := o.provider.getD s.model.provider
        model := o.model.or s.model.model
        enabled := s.model.enabled && !o.offline } }

end CodeDigest
