import CodeDigest.Text.Pieces

/-!
# What can go wrong

A failure is a cause, and `Failure.message` is the one place where causes are put into words.  The
causes fall into the groups of `Failure`: the file system, JSON, a language model, the exchange with
a model's service, a source file, the settings, and what the user asked for.
-/

namespace CodeDigest

/-- What kind of trouble a language model's service had. -/
inductive Category where
  | rateLimit
  | tokenLimit
  | auth
  | network
  | unavailable
  | badRequest
  | parseError
  | transient
  | unknown
deriving Repr, DecidableEq

namespace Category

/-- Every category. -/
def all : List Category :=
  [.rateLimit, .tokenLimit, .auth, .network, .unavailable, .badRequest, .parseError, .transient,
   .unknown]

/-- The name under which a category is reported. -/
def label : Category → String
  | rateLimit => "RATE_LIMIT"
  | tokenLimit => "TOKEN_LIMIT"
  | auth => "AUTH"
  | network => "NETWORK"
  | unavailable => "UNAVAILABLE"
  | badRequest => "BAD_REQUEST"
  | parseError => "PARSE_ERROR"
  | transient => "TRANSIENT"
  | unknown => "UNKNOWN"

/-- The category with a given name. -/
def ofLabel? (name : String) : Option Category := all.find? (·.label == name)

theorem ofLabel?_label (c : Category) : ofLabel? c.label = some c := by cases c <;> decide

end Category

/-- A failure of a language model that has been put into a category. -/
structure ModelFault where
  category : Category
  text : String
  provider : Option String
deriving Repr, DecidableEq

/-- The fault with its provider, if known, and its category in front. -/
def ModelFault.message (f : ModelFault) : String :=
  match f.provider with
  | some provider => "[" ++ provider ++ ":" ++ f.category.label ++ "] " ++ f.text
  | none => "[" ++ f.category.label ++ "] " ++ f.text

/-- A failure in the exchange with a model's service. -/
inductive ExchangeFault where
  /-- The model's text holds no JSON; the start of the text is kept. -/
  | notJson (preview : String)
  | requestFailed (service detail : String)
  | unreadableAnswer (service detail : String)
  | noContent (service : String)
  | noTextContent (service : String)
  | other (text : String)
deriving Repr, DecidableEq

/-- The wording of an exchange fault. -/
def ExchangeFault.message : ExchangeFault → String
  | notJson preview => "Model reply is not valid JSON: " ++ preview
  | requestFailed service detail => service ++ " request failed: " ++ detail
  | unreadableAnswer service detail => "Failed to parse " ++ service ++ " response: " ++ detail
  | noContent service => "No content in " ++ service ++ " response"
  | noTextContent service => "No text content in " ++ service ++ " response"
  | other text => text

/-- Something about the settings that cannot be used. -/
inductive SettingsFault where
  | temperature (got : String)
  | noTimeout
  | noTokens
  | provider (name : String)
  | threshold (got : String)
  | noFileSize
  | language (name : String)
  | missingKey (service keyName : String)
  | endpoint (text reason : String)
  | endpointScheme (scheme : String)
  | pattern (text reason : String)
  | noSuchFile (path : String)
  | alreadyThere (path : String)
  /-- A settings file or variable that cannot be read, or has values of the wrong kind. -/
  | unreadable (reason : String)
  | other (text : String)
deriving Repr, DecidableEq

/-- The providers that can be chosen. -/
def supportedProviders : List String := ["openai", "anthropic", "ollama"]

/-- The wording of a settings fault. -/
def SettingsFault.message : SettingsFault → String
  | temperature got => "LLM temperature must be between 0.0 and 2.0, got " ++ got
  | noTimeout => "LLM timeout_secs must be greater than 0"
  | noTokens => "LLM max_tokens must be greater than 0"
  | provider name =>
    "Unknown provider: " ++ name ++ ". Supported: " ++ joined ", " supportedProviders
  | threshold got =>
    "pipeline.high_complexity_threshold must be a non-negative number, got " ++ got
  | noFileSize => "analysis.max_file_size must be greater than 0"
  | language name => "Unknown target_language: " ++ name
  | missingKey service keyName =>
    service ++ " API key not found. Set " ++ keyName ++ " or llm.api_key"
  | endpoint text reason => "Invalid Ollama endpoint '" ++ text ++ "': " ++ reason
  | endpointScheme scheme => "Ollama endpoint must use http or https, got: " ++ scheme
  | pattern text reason => "Invalid glob pattern '" ++ text ++ "': " ++ reason
  | noSuchFile path => "Config file not found: " ++ path
  | alreadyThere path => "Config already exists: " ++ path ++ " (use --force to overwrite)"
  | unreadable reason => "Configuration error: " ++ reason
  | other text => text

/-- A request that cannot be carried out. -/
inductive InputFault where
  | noCodebase (path : String)
  | notDirectory (path : String)
  | format (name : String)
  | other (text : String)
deriving Repr, DecidableEq

/-- The wording of an input fault. -/
def InputFault.message : InputFault → String
  | noCodebase path => "Codebase path does not exist: " ++ path
  | notDirectory path => "Codebase path is not a directory: " ++ path
  | format name => "Unknown format '" ++ name ++ "'. Valid values: toml, json"
  | other text => text

/-- A failure. -/
inductive Failure where
  /-- The file system refused; the text is its own. -/
  | file (text : String)
  | json (text : String)
  | model (fault : ModelFault)
  | exchange (fault : ExchangeFault)
  | source (path text : String)
  | settings (fault : SettingsFault)
  | input (fault : InputFault)
deriving Repr, DecidableEq

/-- The wording of a failure. -/
def Failure.message : Failure → String
  | file text => "IO error: " ++ text
  | json text => "JSON error: " ++ text
  | model fault => "LLM error: " ++ fault.message
  | exchange fault => "LLM API error: " ++ fault.message
  | source path text => "Parse error in " ++ path ++ ": " ++ text
  | settings fault => "Config error: " ++ fault.message
  | input fault => "Invalid input: " ++ fault.message

end CodeDigest
