import CodeDigest.Failure
import CodeDigest.Text.Case

/-!
# Putting failures into categories

A failure that already carries a category keeps it.  One whose wording is all that is known is
classified by phrases, `phraseCategory`: the rows of `phraseRules` are tried in order on the
lowercase text, and the first row that applies decides.  An answer with an HTTP status is classified
by the status alone.
-/

namespace CodeDigest

/-- A condition on a text: it holds one of the phrases, or the paired phrase and a companion. -/
structure PhraseRule where
  category : Category
  phrases : List String
  /-- A phrase that counts only next to one of `companions`. -/
  pairedPhrase : Option String
  companions : List String

/-- The rows in order of precedence. -/
def phraseRules : List PhraseRule :=
  [⟨.rateLimit, ["rate limit", "429", "too many requests", "quota exceeded"], none, []⟩,
   ⟨.tokenLimit, ["context length", "too large"], some "token", ["limit", "exceed", "maximum"]⟩,
   ⟨.auth, ["auth", "401", "403", "api key", "unauthorized"], none, []⟩,
   ⟨.network, ["network", "connect", "dns", "timeout", "timed out"], none, []⟩,
   ⟨.unavailable, ["503", "502", "service unavailable", "not found"], none, []⟩,
   ⟨.parseError, ["parse", "json"], none, []⟩,
   ⟨.badRequest, ["400", "bad request"], none, []⟩,
   ⟨.transient, ["overloaded", "temporary"], none, []⟩]

/-- Whether a row applies to a text in lowercase. -/
def PhraseRule.applies (r : PhraseRule) (text : String) : Bool :=
  r.phrases.any (occursIn · text)
    || r.pairedPhrase.any (occursIn · text) && r.companions.any (occursIn · text)

/-- The category that the phrases of a text suggest. -/
def phraseCategory (text : String) : Category :=
  match phraseRules.find? (·.applies (lowercased text)) with
  | some rule => rule.category
  | none => .unknown

/-- A text as a fault of a provider. -/
def ModelFault.ofText (text provider : String) : ModelFault :=
  ⟨phraseCategory text, text, some provider⟩

/-- The category of an HTTP status that is not a success. -/
def statusCategory (status : Nat) : Category :=
  match status with
  | 429 => .rateLimit
  | 401 | 403 => .auth
  | 400 => .badRequest
  | 404 => .unavailable
  | 500 | 502 | 503 | 504 | 529 => .transient
  | _ => .unknown

/-- An answer with an HTTP status as a fault of a provider. -/
def ModelFault.ofStatus (status : Nat) (text provider : String) : ModelFault :=
  ⟨statusCategory status, text, some provider⟩

/-- Any failure as a fault of the provider that was being asked. -/
def Failure.classified (failure : Failure) (provider : String) : ModelFault :=
  match failure with
  | .model fault => fault
  | .exchange fault => .ofText fault.message provider
  | .json _ => ⟨.parseError, failure.message, some provider⟩
  | .file _ => ⟨.network, failure.message, some provider⟩
  | .settings _ => ⟨.badRequest, failure.message, some provider⟩
  | .source .. | .input _ => ⟨.unknown, failure.message, some provider⟩

end CodeDigest
