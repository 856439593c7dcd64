import CodeDigest.Provider
import CodeDigest.Text.Printable

/-!
# Settings that are shown to a person

The settings of the language model as one line for whoever looks for an error.  The secret key is
never shown, only whether there is one.
-/

namespace CodeDigest

/-- Numbers that are shown: positional from `1e-4` up to below `1e16`. -/
def shownNumber (x : Float32) : String :=
  (⟨some (-4), some 16, true⟩ : Decimal.Layout).write (.ofSingle x)

/-- A value that may be missing. -/
def shownOption : Option String → String
  | some s => "Some(" ++ shownText s ++ ")"
  | none => "None"

/-- A record with its fields. -/
def shownRecord (name : String) (fields : List (String × String)) : String :=
  name ++ " \x7b "
    ++ joined ", " (fields.map fun (field, value) => field ++ ": " ++ value) ++ " \x7d"

/-- What stands in the place of a key. -/
def shownKey (key : Option String) : String := shownOption (key.map fun _ => "[REDACTED]")

/-- The settings of the language model in one line. -/
def ModelSettings.shown (s : ModelSettings) : String :=
  shownRecord "LlmConfig"
    [("enabled", if s.enabled then "true" else "false"),
     ("provider", shownText s.provider),
     ("model", shownOption s.model),
     ("api_base", shownOption s.endpoint),
     ("api_key", shownKey s.key),
     ("timeout_secs", toString s.timeout),
     ("temperature", shownNumber s.temperature),
     ("max_tokens", toString s.maxTokens)]

/-- The settings of a provider in one line. -/
def ProviderSettings.shown (s : ProviderSettings) : String :=
  shownRecord "ProviderConfig"
    [("provider", shownText s.provider),
     ("model", shownOption s.model),
     ("timeout_secs", toString s.timeout),
     ("temperature", shownNumber s.temperature),
     ("api_key", shownKey s.key),
     ("api_base", shownOption s.endpoint),
     ("max_tokens", toString s.maxTokens)]

/-- Two keys look the same. -/
theorem shown_key (s : ProviderSettings) (key other : String) :
    { s with key := some key }.shown = { s with key := some other }.shown := rfl

end CodeDigest
