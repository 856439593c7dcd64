import CodeDigest.Reply.Cleaning
import CodeDigest.Reply.Repair
import CodeDigest.Json.Reader
import CodeDigest.Failure

/-!
# The JSON in a model's reply

Three readings of the cleaned reply are tried in turn: as it stands, repaired, and the first object
or array inside it, repaired as well.  The first that is JSON is the value of the reply.
-/

namespace CodeDigest.Reply

/-- The text up to the bracket that closes its first bracket, or all of it when none does.  Brackets
of both kinds count alike, those inside string literals not at all; `depth` are open. -/
def upToCloser (depth : Nat) (region : Region) : List Char → List Char
  | [] => []
  | c :: cs =>
    if region == .outside then
      if (closerOf? c).isSome then c :: upToCloser (depth + 1) region cs
      else if isCloser c then
        if depth ≤ 1 then [c] else c :: upToCloser (depth - 1) region cs
      else c :: upToCloser depth (region.next c) cs
    else c :: upToCloser depth (region.next c) cs

/-- The first object or array inside a text, or what there is of it. -/
def embedded? (cs : List Char) : Option (List Char) :=
  match cs.dropWhile fun c => !(closerOf? c).isSome with
  | [] => none
  | body => some (upToCloser 0 .outside body)

/-- How much of a reply without JSON is quoted. -/
def previewLength : Nat := 200

/-- The value of a cleaned reply. -/
def extractCleaned (cs : List Char) : Except Failure Json :=
  match Json.read? cs with
  | some value => .ok value
  | none =>
    match Json.read? (repair cs) with
    | some value => .ok value
    | none =>
      match (embedded? cs).bind fun body => Json.read? (repair body) with
      | some value => .ok value
      | none => .error (.exchange (.notJson (String.ofList (cs.take previewLength))))

/-- The value of a reply. -/
def extract (reply : String) : Except Failure Json := extractCleaned (clean reply.toList)

end CodeDigest.Reply
