import CodeDigest.Failure.Category
import CodeDigest.Http
import CodeDigest.Json.Shape
import CodeDigest.Narration.Model
import CodeDigest.Provider
import CodeDigest.Reply.Extraction
import CodeDigest.TokenUsage

/-!
# Asking a provider

A prompt and the schema of the wanted value become one request; the answer holds the model's text,
from which the value is extracted, and the number of tokens used.  What differs between the services
is the shape of the request and where an answer keeps its text.
-/

namespace CodeDigest

open Json

/-! ## What is asked -/

/-- The role that a model is given. -/
def analystRole : String :=
  "You are an expert software analyst. Always respond with valid JSON."

/-- The instruction that goes with a schema; null is no schema. -/
def schemaInstruction? (schema : Json) : Option String :=
  if schema.isNull then none
  else
    some ("Respond with valid JSON matching this schema:\n\x60\x60\x60json\n"
      ++ schema.sorted.toPretty
      ++ "\n\x60\x60\x60\n\nRespond ONLY with valid JSON, no explanation.")

/-- The instructions that stand before a prompt. -/
def systemPrompt (schema : Json) : String :=
  match schemaInstruction? schema with
  | some instruction => analystRole ++ "\n\n" ++ instruction
  | none => analystRole

/-- A prompt with its instructions behind it. -/
def promptWithSchema (prompt : String) (schema : Json) : String :=
  match schemaInstruction? schema with
  | some instruction => prompt ++ "\n\n---\n\n" ++ instruction
  | none => prompt

namespace Provider

/-- A message with the role of its speaker. -/
def message (role content : String) : Json :=
  .object [("role", .string role), ("content", .string content)]

/-- The value that is posted. -/
def requestBody (p : Provider) (prompt : String) (schema : Json) : Json :=
  let temperature : Json := .number (.single p.temperature)
  match p.service with
  | .openai =>
    .object
      [("model", .string p.model),
       ("messages", .array [message "system" (systemPrompt schema), message "user" prompt]),
       ("temperature", temperature),
       ("max_tokens", nat p.maxTokens),
       ("response_format", .object [("type", .string "json_object")])]
  | .anthropic =>
    .object
      [("model", .string p.model),
       ("max_tokens", nat p.maxTokens),
       ("temperature", temperature),
       ("system", .string (systemPrompt schema)),
       ("messages", .array [message "user" prompt])]
  | .ollama =>
    .object
      [("model", .string p.model),
       ("prompt", .string (promptWithSchema prompt schema)),
       ("stream", .bool false),
       ("format", .string "json"),
       ("options", .object [("temperature", temperature)])]

/-- What stands behind the endpoint in the address of a request. -/
def requestPath : Service → String
  | .openai => "/chat/completions"
  | .anthropic => "/messages"
  | .ollama => "/api/generate"

/-- The headers that carry the key. -/
def keyHeaders (service : Service) (key : String) : List (String × String) :=
  match service with
  | .openai => [("authorization", "Bearer " ++ key)]
  | .anthropic => [("x-api-key", key), ("anthropic-version", "2023-06-01")]
  | .ollama => []

/-- The headers of a request. -/
def headers (p : Provider) : List (String × String) :=
  (p.key.elim [] (keyHeaders p.service)) ++ [("content-type", "application/json")]

/-- Whether the key can stand in a header. -/
def hasHeaders (p : Provider) : Bool := p.headers.all fun header => isHeaderText header.2

/-- The request for a prompt; none if the endpoint is no address of the web or the key cannot stand
in a header. -/
def request? (p : Provider) (prompt : String) (schema : Json) : Option HttpRequest :=
  match Address.ofString (p.endpoint ++ requestPath p.service) with
  | .ok (.web url) =>
    if p.hasHeaders then some ⟨url, p.headers, p.requestBody prompt schema⟩ else none
  | _ => none

/-- Why there is no request.  An address that is not of the web is named, but if it has a host the
headers come first. -/
def requestFault (p : Provider) : String :=
  match Address.ofString (p.endpoint ++ requestPath p.service) with
  | .ok (.other url) =>
    if url.hasHost && !p.hasHeaders then "builder error"
    else "builder error for url (" ++ url.text ++ ")"
  | _ => "builder error"

end Provider

/-! ## What is answered -/

/-- What a model has said: its text, if there is one, and the tokens used. -/
structure ModelText where
  text : Option String
  usage : TokenUsage

namespace ModelText

/-- Reads token counts under the names that a service has for them. -/
def readUsage (input output : String) : Json → Option TokenUsage :=
  readRecord do
    let input ← field input (readNatBelow 32)
    let output ← field output (readNatBelow 32)
    return ⟨input, output⟩

/-- No tokens. -/
def noUsage : TokenUsage := ⟨0, 0⟩

/-- The text of a choice. -/
def readChoice : Json → Option (Option String) :=
  readRecord (field "message" (readRecord (option "content" readString)))

/-- Reads an answer with choices; the first one counts. -/
def ofChoices? : Json → Option ModelText :=
  readRecord do
    let choices ← field "choices" (readList readChoice)
    let usage ← option "usage" (readUsage "prompt_tokens" "completion_tokens")
    return ⟨choices.head?.join, usage.getD noUsage⟩

/-- The text of a block: blocks of other kinds have none. -/
def readBlock : Json → Option String :=
  readRecord do
    let kind ← field "type" readString
    let text ← optionOr "text" readString none
    return if kind == "text" then text.getD "" else ""

/-- Reads an answer with blocks; their texts are joined, and a blank text counts as none. -/
def ofBlocks? : Json → Option ModelText :=
  readRecord do
    let blocks ← fieldOr "content" (readList readBlock) []
    let usage ← option "usage" (readUsage "input_tokens" "output_tokens")
    let text := String.join blocks
    return ⟨if (trimmed text).isEmpty then none else some text, usage.getD noUsage⟩

/-- Reads an answer with one text. -/
def ofResponse? : Json → Option ModelText :=
  readRecord do
    let text ← field "response" readString
    let input ← optionOr "prompt_eval_count" (readNatBelow 32) none
    let output ← optionOr "eval_count" (readNatBelow 32) none
    return ⟨some text, ⟨input.getD 0, output.getD 0⟩⟩

/-- Reads the answer of a service. -/
def ofBody? : Service → Json → Option ModelText
  | .openai => ofChoices?
  | .anthropic => ofBlocks?
  | .ollama => ofResponse?

/-- What is wanted of token counts. -/
def usageShape (input output : String) : Shape := .scalars [input, output]

/-- What is wanted of a choice. -/
def choiceShape : Shape := .record [("message", .scalars ["content"])]

/-- What is wanted of a block. -/
def blockShape : Shape := .scalars ["type", "text"]

/-- What is wanted of the answer of a service: the fields that are read. -/
def bodyShape : Service → Shape
  | .openai =>
    .record
      [("choices", .list choiceShape), ("usage", usageShape "prompt_tokens" "completion_tokens")]
  | .anthropic =>
    .record [("content", .list blockShape), ("usage", usageShape "input_tokens" "output_tokens")]
  | .ollama => .scalars ["response", "prompt_eval_count", "eval_count"]

/-- Reads the text of an answer of a service. -/
def ofText? (service : Service) (text : String) : Option ModelText :=
  (readShape? (bodyShape service) text).bind (ofBody? service)

end ModelText

/-- The value that a model has given. -/
structure ModelReply where
  content : Json
  usage : TokenUsage

namespace Provider

/-- An answer that holds no text, as a fault of its service. -/
def noText (service : Service) : ExchangeFault :=
  match service with
  | .anthropic => .noTextContent service.title
  | _ => .noContent service.title

/-- The value in a model's text. -/
def readText (service : Service) (t : ModelText) : Except Failure ModelReply :=
  match t.text with
  | none => .error (.exchange (noText service))
  | some text => (Reply.extract text).map fun content => ⟨content, t.usage⟩

/-- Reads the answer of a server. -/
def readAnswer (service : Service) (a : HttpAnswer) : Except Failure ModelReply :=
  if a.isSuccess then
    match ModelText.ofText? service a.text with
    | some t => readText service t
    | none => .error (.exchange (.unreadableAnswer service.title "error decoding response body"))
  else
    .error (.model (.ofStatus a.status
      (service.title ++ " API error (" ++ a.statusText ++ "): " ++ a.text) service.name))

/-- The failure when nobody listens. -/
def unreachable (p : Provider) (url : Url) : Failure :=
  match p.service with
  | .ollama =>
    .model ⟨.network,
      "Failed to connect to Ollama at " ++ p.endpoint ++ ". Is \x60ollama serve\x60 running?",
      some p.service.name⟩
  | service =>
    .exchange (.requestFailed service.title
      ("error sending request for url (" ++ url.withoutUser.toText ++ ")"))

variable {σ : Type}

/-- Asks for the value that a prompt wants. -/
def ask (transport : Transport σ) (p : Provider) (prompt : String) (schema : Json) :
    StateM σ (Except Failure ModelReply) :=
  match p.request? prompt schema with
  | none => pure (.error (.exchange (.requestFailed p.service.title p.requestFault)))
  | some request => do
    match ← transport request with
    | some answer => pure (readAnswer p.service answer)
    | none => pure (.error (p.unreachable request.url))

/-- The provider as a model. -/
def asModel (transport : Transport σ) (p : Provider) : Model σ := fun prompt schema => do
  return (← p.ask transport prompt schema).map ModelReply.content

end Provider

end CodeDigest
