/-!
# Tokens of Java source text

A source text is a sequence of tokens, each with the blanks and comments in front of it, and what
follows the last token.  Keywords are words: whether a word is a keyword depends on where it stands,
and the grammar decides it.  The symbol `>` is always a token of its own, because it closes type
arguments as well; the grammar puts longer operators together from several of them, and nothing may
stand between those.  A string literal with interpolated expressions is cut into parts around them.
-/

namespace CodeDigest.Java

/-- The classes of tokens. -/
inductive TokenClass where
  | word
  | number
  | character
  /-- A string literal or text block without interpolation. -/
  | string
  /-- The part of a string literal before its first interpolation. -/
  | stringHead
  /-- A part between two interpolations. -/
  | stringMiddle
  /-- The part behind the last interpolation. -/
  | stringTail
  | symbol
deriving Repr, DecidableEq

/-- A token. -/
structure Token where
  /-- The blanks and comments in front. -/
  lead : List Char
  class_ : TokenClass
  text : String
deriving Repr, DecidableEq

/-- A token without what stands in front of it: all that the grammar looks at. -/
def Token.bare (t : Token) : TokenClass × String := (t.class_, t.text)

/-- Whether nothing stands in front of a token. -/
def Token.touches (t : Token) : Bool := t.lead.isEmpty

/-- The text of some tokens with all that stands in front of them. -/
def spelled (ts : List Token) : String :=
  String.join (ts.map fun t => String.ofList t.lead ++ t.text)

/-- The text from the first token to the last one. -/
def sliceOf : List Token → String
  | [] => ""
  | t :: ts => t.text ++ spelled ts

end CodeDigest.Java
