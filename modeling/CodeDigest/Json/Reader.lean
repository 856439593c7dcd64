import CodeDigest.Json.Number

/-!
# Reading JSON

The reader takes a text one character at a time.  Its state is a stack of the containers that are
open, each with what it holds so far, and a mode that says what is being read: a place where a value
must start, the inside of a string, a number, a literal, or the place after a complete value.  A
character either leads to one next state or is refused, so what a prefix of a text has built is a
state, and reading two texts in a row is reading their concatenation (`run_append`).

Containers nest at most 127 deep.  A key that occurs again takes the new value.  Strings hold no raw
control characters, and an escape for half of a surrogate pair must be followed by the other half.
-/

namespace CodeDigest.Json

/-- A container that is still open. -/
inductive Frame where
  | array (elements : List Json)
  | object (members : List (String × Json)) (key : String)

/-- Where an escape sequence stands. -/
inductive Escape where
  | none
  | backslash
  /-- `left` hex digits are still to come; `high` is the first half of a surrogate pair. -/
  | code (high : Option Nat) (left value : Nat)
  | lowBackslash (high : Nat)
  | lowMarker (high : Nat)

/-- The string that is being read: a key of these members, or a value. -/
inductive StringRole where
  | key (members : List (String × Json))
  | value

/-- What is being read. -/
inductive Mode where
  | value (mayClose : Bool)
  | key (members : List (String × Json)) (mayClose : Bool)
  | colon (members : List (String × Json)) (key : String)
  | literal (rest : List Char) (meaning : Json)
  | number (reversed : List Char)
  | string (role : StringRole) (reversed : List Char) (escape : Escape)
  | after
  | done (result : Json)

/-- The containers that are open, innermost first, and what is being read. -/
structure State where
  stack : List Frame
  mode : Mode

/-- Where reading starts. -/
def State.initial : State := ⟨[], .value false⟩

/-- The most containers that may be open at once. -/
def maxDepth : Nat := 127

/-- The blanks that may stand between tokens. -/
def isSpace (c : Char) : Bool := c == ' ' || c == '\n' || c == '\t' || c == '\r'

/-- Hands a complete value to the innermost open container. -/
def deliver (v : Json) : List Frame → State
  | [] => ⟨[], .done v⟩
  | .array vs :: stack => ⟨.array (vs ++ [v]) :: stack, .after⟩
  | .object ms key :: stack => ⟨.object (putMember key v ms) key :: stack, .after⟩

/-- The value of a hexadecimal digit. -/
def hexValue? (c : Char) : Option Nat :=
  if '0' ≤ c && c ≤ '9' then some (c.toNat - 48)
  else if 'a' ≤ c && c ≤ 'f' then some (c.toNat - 87)
  else if 'A' ≤ c && c ≤ 'F' then some (c.toNat - 55)
  else none

/-- The character that a one-letter escape stands for. -/
def simpleEscape? : Char → Option Char
  | '"' => some '"'
  | '\\' => some '\\'
  | '/' => some '/'
  | 'b' => some (Char.ofNat 8)
  | 'f' => some (Char.ofNat 12)
  | 'n' => some '\n'
  | 'r' => some '\r'
  | 't' => some '\t'
  | _ => none

/-- Whether a code is the first half of a surrogate pair. -/
def isHighSurrogate (n : Nat) : Bool := 0xD800 ≤ n && n < 0xDC00

/-- Whether a code is the second half of a surrogate pair. -/
def isLowSurrogate (n : Nat) : Bool := 0xDC00 ≤ n && n < 0xE000

/-- The character of a surrogate pair. -/
def joinSurrogates (high low : Nat) : Char :=
  Char.ofNat (0x10000 + (high - 0xD800) * 0x400 + (low - 0xDC00))

/-- Ends a `\u` escape whose code is complete. -/
def endCode (text : List Char) (high : Option Nat) (code : Nat) :
    Option (List Char × Escape) :=
  match high with
  | some h => if isLowSurrogate code then some (joinSurrogates h code :: text, .none) else none
  | none =>
    if isHighSurrogate code then some (text, .lowBackslash code)
    else if isLowSurrogate code then none
    else some (Char.ofNat code :: text, .none)

/-- One character inside a string that does not end it. -/
def stringStep (text : List Char) (escape : Escape) (c : Char) : Option (List Char × Escape) :=
  match escape with
  | .none =>
    if c == '\\' then some (text, .backslash)
    else if c.toNat < 0x20 then none
    else some (c :: text, .none)
  | .backslash =>
    if c == 'u' then some (text, .code none 4 0)
    else (simpleEscape? c).map fun d => (d :: text, .none)
  | .code high left value => do
    let d ← hexValue? c
    if left ≤ 1 then endCode text high (16 * value + d)
    else some (text, .code high (left - 1) (16 * value + d))
  | .lowBackslash high => if c == '\\' then some (text, .lowMarker high) else none
  | .lowMarker high => if c == 'u' then some (text, .code (some high) 4 0) else none

/-- Closes the innermost container with `c`, when it is one that `c` closes. -/
def close (c : Char) : List Frame → Option State
  | .array vs :: stack => if c == ']' then some (deliver (.array vs) stack) else none
  | .object ms _ :: stack => if c == '}' then some (deliver (.object ms) stack) else none
  | [] => none

/-- The first character of a value. -/
def startValue (stack : List Frame) (c : Char) : Option State :=
  if c == '[' then
    if stack.length < maxDepth then some ⟨.array [] :: stack, .value true⟩ else none
  else if c == '{' then
    if stack.length < maxDepth then some ⟨.object [] "" :: stack, .key [] true⟩ else none
  else if c == '"' then some ⟨stack, .string .value [] .none⟩
  else if c == 'n' then some ⟨stack, .literal "ull".toList .null⟩
  else if c == 't' then some ⟨stack, .literal "rue".toList (.bool true)⟩
  else if c == 'f' then some ⟨stack, .literal "alse".toList (.bool false)⟩
  else if c == '-' || c.isDigit then some ⟨stack, .number [c]⟩
  else none

/-- A character after a complete element or member. -/
def afterValue (stack : List Frame) (c : Char) : Option State :=
  if isSpace c then some ⟨stack, .after⟩
  else if c == ',' then
    match stack with
    | .array _ :: _ => some ⟨stack, .value false⟩
    | .object ms _ :: _ => some ⟨stack, .key ms false⟩
    | [] => none
  else close c stack

/-- A character after a complete value, whatever is open. -/
def afterDelivery (s : State) (c : Char) : Option State :=
  match s.mode with
  | .done _ => if isSpace c then some s else none
  | _ => afterValue s.stack c

/-- Whether a character can stand in a number. -/
def isNumberChar (c : Char) : Bool :=
  c.isDigit || c == '-' || c == '+' || c == '.' || c == 'e' || c == 'E'

/-- One character. -/
def step (s : State) (c : Char) : Option State :=
  match s.mode with
  | .done _ | .after => afterDelivery s c
  | .value mayClose =>
    if isSpace c then some s
    else if mayClose && c == ']' then close c s.stack
    else startValue s.stack c
  | .key members mayClose =>
    if isSpace c then some s
    else if mayClose && c == '}' then close c s.stack
    else if c == '"' then some { s with mode := .string (.key members) [] .none }
    else none
  | .colon members key =>
    if isSpace c then some s
    else if c == ':' then
      some ⟨.object members key :: s.stack.drop 1, .value false⟩
    else none
  | .literal rest meaning =>
    match rest with
    | [] => none
    | [r] => if r == c then some (deliver meaning s.stack) else none
    | r :: rest => if r == c then some { s with mode := .literal rest meaning } else none
  | .number reversed =>
    if isNumberChar c then some { s with mode := .number (c :: reversed) }
    else do
      let n ← Number.ofText? reversed.reverse
      afterDelivery (deliver (.number n) s.stack) c
  | .string role text escape =>
    match escape, c with
    | .none, '"' =>
      let value := String.ofList text.reverse
      match role with
      | .key members => some { s with mode := .colon members value }
      | .value => some (deliver (.string value) s.stack)
    | _, _ => do
      let (text, escape) ← stringStep text escape c
      some { s with mode := .string role text escape }

/-- Reads a whole text from a state. -/
def run (s : State) : List Char → Option State
  | [] => some s
  | c :: cs => (step s c).bind fun s => run s cs

/-- Reading two texts in a row is reading their concatenation. -/
theorem run_append (s : State) (xs ys : List Char) :
    run s (xs ++ ys) = (run s xs).bind fun s => run s ys := by
  induction xs generalizing s with
  | nil => rfl
  | cons c cs ih =>
    simp only [List.cons_append, run]
    cases step s c with
    | none => rfl
    | some s' => simpa using ih s'

/-- The value that has been read, when the text may end here. -/
def State.result? (s : State) : Option Json :=
  match s.mode with
  | .done v => some v
  | .number reversed =>
    if s.stack.isEmpty then (Number.ofText? reversed.reverse).map .number else none
  | _ => none

/-- Reads a text. -/
def read? (cs : List Char) : Option Json := (run .initial cs).bind State.result?

/-- Reads a text. -/
def ofString? (s : String) : Option Json := read? s.toList

end CodeDigest.Json
