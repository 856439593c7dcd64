import CodeDigest.Provider.Exchange

/-!
# The narrator of a run

Settings choose who answers the questions of a run: a provider's model, or nobody.  The choice is
named in the report.
-/

namespace CodeDigest

/-- Who answers the questions of a run. -/
inductive NarratorChoice where
  | offline
  | provider (p : Provider)

namespace NarratorChoice

/-- The name of the provider in the report. -/
def providerName : NarratorChoice → String
  | offline => "offline"
  | provider p => p.service.name

/-- The name of the model in the report. -/
def modelName : NarratorChoice → String
  | offline => "none"
  | provider p => p.model

/-- The choice that settings make. -/
def ofSettings (env : Environment) (s : ModelSettings) : Except Failure NarratorChoice :=
  if s.enabled then ((Provider.ofSettings env s.forProvider).map provider).mapError .settings
  else .ok offline

/-- The narrator that is chosen. -/
def narrator {σ : Type} (transport : Transport σ) : NarratorChoice → Narrator σ
  | offline => Narrator.offline
  | provider p => Narrator.ofModel (p.asModel transport)

end NarratorChoice

end CodeDigest
