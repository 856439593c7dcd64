import CodeDigest.Java.Scan
import CodeDigest.Java.Token
import CodeDigest.Text.Identifier
import CodeDigest.Text.Pieces

/-!
# Reading tokens

`tokenize?` cuts a source text into tokens.  Blanks are the ASCII ones only, and a character that
can start no token makes the whole text unreadable, as does a comment or literal that is not closed.
-/

namespace CodeDigest.Java

/-- The blanks between tokens. -/
def isBlank (c : Char) : Bool := c == ' ' || (9 ≤ c.toNat && c.toNat ≤ 13)

/-- Whether a word can start with a character. -/
def startsWord (c : Char) : Bool := Text.isXidStart c || c == '_' || c == '$'

/-- Whether a word can go on with a character. -/
def continuesWord (c : Char) : Bool :=
  Text.isXidContinue c || c == '_' || c == '$' || c == '¢'

/-- The length of a block comment of which `taken` characters have been read. -/
def blockCommentLength? (taken : Nat) : List Char → Option Nat
  | '*' :: '/' :: _ => some (taken + 2)
  | [] => none
  | _ :: rest => blockCommentLength? (taken + 1) rest

/-- The length of the blanks and comments in front of a text, `taken` characters of them read
already; `count` bounds their number. -/
def triviaLength? (taken : Nat) : (count : Nat) → List Char → Option Nat
  | 0, _ => some taken
  | count + 1, cs =>
    match cs with
    | '/' :: '/' :: rest =>
      let n := 2 + (rest.takeWhile (· != '\n')).length
      triviaLength? (taken + n) count (cs.drop n)
    | '/' :: '*' :: rest =>
      match blockCommentLength? 2 rest with
      | some n => triviaLength? (taken + n) count (cs.drop n)
      | none => none
    | c :: _ =>
      if isBlank c then
        let n := (cs.takeWhile isBlank).length
        triviaLength? (taken + n) count (cs.drop n)
      else some taken
    | [] => some taken

/-- Whether what follows a backslash and a character makes them an escape. -/
def escapeFits (c : Char) (rest : List Char) : Bool :=
  if c == 'x' then (rest.take 2).all isHexDigit && 2 ≤ rest.length
  else if c == 'u' then
    match rest with
    | '{' :: inner =>
      match inner.span isHexDigit with
      | (_ :: _, '}' :: _) => true
      | _ => false
    | _ => (rest.take 4).all isHexDigit && 4 ≤ rest.length
  else true

/-- How a part of a string literal ends. -/
inductive PartEnd where
  | closed
  | interpolated
deriving Repr, DecidableEq

/-- The end of a part of a string literal of which `taken` characters have been read, and its
length. -/
def stringPart? (taken : Nat) : List Char → Option (PartEnd × Nat)
  | [] => none
  | '"' :: _ => some (.closed, taken + 1)
  | '\\' :: '{' :: _ => some (.interpolated, taken + 2)
  | '\\' :: c :: rest => if escapeFits c rest then stringPart? (taken + 2) rest else none
  | _ :: rest => stringPart? (taken + 1) rest

/-- The end of a part of a text block of which `taken` characters have been read, and its length. -/
def blockPart? (taken : Nat) : List Char → Option (PartEnd × Nat)
  | [] => none
  | '"' :: '"' :: '"' :: _ => some (.closed, taken + 3)
  | '\\' :: '{' :: _ => some (.interpolated, taken + 2)
  | '\\' :: _ :: rest => blockPart? (taken + 2) rest
  | _ :: rest => blockPart? (taken + 1) rest

/-- The length of a character literal of which `taken` characters have been read; there is something
between the quotes. -/
def characterLength? (taken : Nat) : List Char → Option Nat
  | [] => none
  | '\'' :: _ => if 1 < taken then some (taken + 1) else none
  | '\\' :: _ :: rest => characterLength? (taken + 2) rest
  | c :: rest => if c == '\n' || c == '\\' then none else characterLength? (taken + 1) rest

/-- The symbols, longer ones before their beginnings. -/
def symbols : List (List Char) :=
  ["@interface", "...", "<<=", "->", "::", "++", "--", "&&", "||", "==", "!=", "<=", "<<", "+=",
   "-=", "*=", "/=", "&=", "|=", "^=", "%=", "(", ")", "[", "]", ";", ",", ".", "@", "=", "<", ">",
   "!", "~", "?", ":", "+", "-", "*", "/", "&", "|", "^", "%", "\x7b", "\x7d"].map String.toList

/-- The symbol that a text starts with. -/
def symbol? (cs : List Char) : Option (List Char) :=
  symbols.find? fun s => (Text.dropPrefix? s cs).isSome

/-- A modifier that is spelled with a hyphen. -/
def nonSealed : List Char := "non-sealed".toList

/-- A string literal that is interrupted by an expression. -/
structure Interrupted where
  /-- The braces that the expression has open. -/
  braces : Nat
  isBlock : Bool

/-- A step of the lexer: the class and the length of the token, and the literals that are
interrupted behind it, innermost first. -/
abbrev Step := TokenClass × Nat × List Interrupted

/-- A part of a string literal of which `taken` characters have been read. -/
def literalStep (isBlock : Bool) (closed open_ : TokenClass) (held : List Interrupted)
    (taken : Nat) (cs : List Char) : Option Step :=
  match if isBlock then blockPart? taken cs else stringPart? taken cs with
  | some (.closed, n) => some (closed, n, held)
  | some (.interpolated, n) => some (open_, n, ⟨0, isBlock⟩ :: held)
  | none => none

/-- Reads a symbol, keeping count of braces inside interpolations. -/
def symbolStep (held : List Interrupted) (cs : List Char) : Option Step :=
  match symbol? cs, held with
  | some ['{'], inner :: outer =>
    some (.symbol, 1, ⟨inner.braces + 1, inner.isBlock⟩ :: outer)
  | some ['}'], inner :: outer =>
    if inner.braces == 0 then
      literalStep inner.isBlock .stringTail .stringMiddle outer 1 (cs.drop 1)
    else some (.symbol, 1, ⟨inner.braces - 1, inner.isBlock⟩ :: outer)
  | some s, _ => some (.symbol, s.length, held)
  | none, _ => none

/-- Reads the token at the front of a text. -/
def step (held : List Interrupted) (cs : List Char) : Option Step :=
  match cs with
  | [] => none
  | '"' :: '"' :: '"' :: rest => literalStep true .string .stringHead held 3 rest
  | '"' :: rest => literalStep false .string .stringHead held 1 rest
  | '\'' :: rest => (characterLength? 1 rest).map fun n => (.character, n, held)
  | c :: _ =>
    if (Text.dropPrefix? nonSealed cs).isSome then some (.symbol, nonSealed.length, held)
    else if startsWord c then some (.word, (cs.takeWhile continuesWord).length, held)
    else
      match Number.literal.longest? cs with
      | some n => some (.number, n, held)
      | none => symbolStep held cs

/-- Reads tokens to the end; `done` are those before the text, in reverse, and `count` is more than
the number of its characters. -/
def tokensFrom? (done : List Token) : (count : Nat) → List Interrupted → List Char →
    Option (List Token)
  | 0, _, _ => none
  | count + 1, held, cs =>
    match triviaLength? 0 (count + 1) cs with
    | none => none
    | some gap =>
      match cs.drop gap with
      | [] => if held.isEmpty then some done.reverse else none
      | rest =>
        match step held rest with
        | none => none
        | some (class_, n, held) =>
          let token : Token := ⟨cs.take gap, class_, String.ofList (rest.take n)⟩
          tokensFrom? (token :: done) count held (rest.drop n)

/-- The byte order mark. -/
def byteOrderMark : Char := Char.ofNat 0xFEFF

/-- The text without a byte order mark in front. -/
def withoutMark : List Char → List Char
  | [] => []
  | c :: cs => if c == byteOrderMark then cs else c :: cs

/-- The tokens of a source text. -/
def tokenize? (content : String) : Option (List Token) :=
  let cs := withoutMark content.toList
  tokensFrom? [] (cs.length + 1) [] cs

end CodeDigest.Java
