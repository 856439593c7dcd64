import CodeDigest.Settings.Layer
import CodeDigest.Url

/-!
# Providers of language models

A `Service` is one of the programming interfaces that are known; a `Provider` is a service that is
set up: where it is reached, with which key and model.  Two of the services need a key, which comes
from the settings or else from an environment variable.  The third one usually runs on the same
machine and needs none, but its address has to be one of the web.
-/

namespace CodeDigest

/-- The programming interface of a provider. -/
inductive Service where
  | openai
  | anthropic
  | ollama
deriving Repr, DecidableEq

namespace Service

/-- Every service. -/
def all : List Service := [openai, anthropic, ollama]

/-- The name in settings and reports. -/
def name : Service → String
  | openai => "openai"
  | anthropic => "anthropic"
  | ollama => "ollama"

/-- The name in running text. -/
def title : Service → String
  | openai => "OpenAI"
  | anthropic => "Anthropic"
  | ollama => "Ollama"

/-- The service with a given name. -/
def ofName? (name : String) : Option Service := all.find? (·.name == name)

/-- The names of the services are those that settings may have. -/
theorem map_name_all : all.map name = supportedProviders := rfl

theorem ofName?_name (s : Service) : ofName? s.name = some s := by cases s <;> decide

/-- Where the service is reached when nothing else is set. -/
def standardEndpoint : Service → String
  | openai => "https://api.openai.com/v1"
  | anthropic => "https://api.anthropic.com/v1"
  | ollama => "http://localhost:11434"

/-- The model when nothing else is set. -/
def standardModel : Service → String
  | openai => "gpt-4o-mini"
  | anthropic => "claude-3-sonnet-20240229"
  | ollama => "codellama"

/-- The environment variable that can hold the key, for services that need one. -/
def keyVariable? : Service → Option String
  | openai => some "OPENAI_API_KEY"
  | anthropic => some "ANTHROPIC_API_KEY"
  | ollama => none

end Service

/-- What can be set about a provider. -/
structure ProviderSettings where
  provider : String
  model : Option String
  /-- The time in seconds after which an answer is given up. -/
  timeout : Nat
  temperature : Float32
  /-- The secret key; it is read and never written. -/
  key : Option String
  endpoint : Option String
  maxTokens : Nat

namespace ProviderSettings

open Json

/-- The settings as JSON, without the key. -/
def toJson (s : ProviderSettings) : Json :=
  .object
    [("provider", .string s.provider),
     ("model", stringOrNull s.model),
     ("timeout_secs", nat s.timeout),
     ("temperature", .number (.single s.temperature)),
     ("api_base", stringOrNull s.endpoint),
     ("max_tokens", nat s.maxTokens)]

/-- The key is not in the JSON form. -/
theorem toJson_key (s : ProviderSettings) (key : Option String) :
    { s with key := key }.toJson = s.toJson := rfl

/-- Reads settings. -/
def ofJson? : Json → Option ProviderSettings :=
  readRecord do
    let provider ← field "provider" readString
    let model ← option "model" readString
    let timeout ← field "timeout_secs" readNat
    let temperature ← field "temperature" readSingle
    let key ← optionOr "api_key" readString none
    let endpoint ← optionOr "api_base" readString none
    let maxTokens ← field "max_tokens" readNat
    return ⟨provider, model, timeout, temperature, key, endpoint, maxTokens⟩

end ProviderSettings

/-- What the settings on the language model say about its provider. -/
def ModelSettings.forProvider (s : ModelSettings) : ProviderSettings :=
  ⟨s.provider, s.model, s.timeout, s.temperature, s.key, s.endpoint, s.maxTokens⟩

/-- A service that is set up. -/
structure Provider where
  service : Service
  /-- The key, for services that need one. -/
  key : Option String
  /-- The address without slashes at its end. -/
  endpoint : String
  model : String
  temperature : Float32
  maxTokens : Nat

namespace Provider

/-- The text without slashes at its end. -/
def withoutSlashes (s : String) : String :=
  String.ofList ((s.toList.reverse.dropWhile (· == '/')).reverse)

/-- The key that a service needs: the one that is given, or else the one of the environment.  A
blank key counts as missing. -/
def findKey (env : Environment) (service : Service) (given : Option String) :
    Except SettingsFault (Option String) :=
  match service.keyVariable? with
  | none => .ok none
  | some name =>
    match (given.or (env.lookup name)).filter fun key => !(trimmed key).isEmpty with
    | some key => .ok (some key)
    | none => .error (.missingKey service.title name)

/-- The address of the service that runs on the same machine, in its normal form. -/
def localEndpoint (text : String) : Except SettingsFault String :=
  match Address.ofString text with
  | .error fault => .error (.endpoint text fault.message)
  | .ok (.other url) => .error (.endpointScheme url.scheme)
  | .ok (.web url) => .ok url.toText

/-- Where a service is reached: at the address that is given, or else at its own. -/
def findEndpoint (service : Service) (given : Option String) : Except SettingsFault String :=
  let text := given.getD service.standardEndpoint
  match service with
  | .openai | .anthropic => .ok (withoutSlashes text)
  | .ollama => (localEndpoint text).map withoutSlashes

/-- The provider that settings describe. -/
def ofSettings (env : Environment) (s : ProviderSettings) : Except SettingsFault Provider :=
  match Service.ofName? s.provider with
  | none => .error (.provider s.provider)
  | some service => do
    let key ← findKey env service s.key
    let endpoint ← findEndpoint service s.endpoint
    .ok
      { service := service
        key := key
        endpoint := endpoint
        model := s.model.getD service.standardModel
        temperature := s.temperature
        maxTokens := s.maxTokens }

end Provider

end CodeDigest
