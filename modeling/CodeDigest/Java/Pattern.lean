import CodeDigest.Java.Tree

/-!
# Patterns of tokens

A `Pattern` says what tokens may follow.  Choices are ordered: the second alternative counts only
where the first one fails.  A grammar gives each kind of node its pattern, and `read` follows a
pattern through a list of tokens, building the tree on the way.  A pattern never looks at what
stands in front of a token.

The number `fuel` bounds how deep patterns may nest.  It is counted down in one place and handed out
by `read?`, large enough for the list of tokens at hand.
-/

namespace CodeDigest.Java

/-- What tokens may follow. -/
inductive Pattern where
  | nothing
  | symbol (text : String)
  /-- One of these words. -/
  | keyword (texts : List String)
  /-- A word that is none of these. -/
  | word (except : List String)
  | literal (class_ : TokenClass)
  /-- The piece before is a node of one of these kinds. -/
  | behind (kinds : List Kind)
  | both (first second : Pattern)
  | either (first second : Pattern)
  | many (p : Pattern)
  /-- The pattern would follow. -/
  | ahead (p : Pattern)
  /-- The pattern would not follow. -/
  | absent (p : Pattern)
  /-- A node. -/
  | part (kind : Kind)

namespace Pattern

/-- Each in turn. -/
def all : List Pattern → Pattern
  | [] => nothing
  | [p] => p
  | p :: ps => both p (all ps)

/-- The first of several that follows. -/
def oneOf : List Pattern → Pattern
  | [] => absent nothing
  | [p] => p
  | p :: ps => either p (oneOf ps)

/-- The pattern, or nothing. -/
def maybe (p : Pattern) : Pattern := either p nothing

/-- Once or more. -/
def some_ (p : Pattern) : Pattern := both p (many p)

/-- Once or more, with a symbol between neighbours. -/
def separated (sep : String) (p : Pattern) : Pattern := both p (many (both (symbol sep) p))

/-- Once or more, with commas between neighbours. -/
def list (p : Pattern) : Pattern := separated "," p

/-- The pattern between two symbols. -/
def between (left right : String) (p : Pattern) : Pattern :=
  all [symbol left, p, symbol right]

end Pattern

/-- The nodes that have been read, the latest first, and the tokens that are left. -/
structure Reading where
  done : List Tree
  rest : List Token

namespace Reading

/-- Reads a token that passes a test. -/
def token (test : Token → Bool) (s : Reading) : Option Reading :=
  match s.rest with
  | [] => none
  | t :: ts => if test t then some ⟨.leaf t :: s.done, ts⟩ else none

/-- Whether the piece before is a node of one of some kinds. -/
def isBehind (kinds : List Kind) (s : Reading) : Bool :=
  match s.done with
  | .node k _ :: _ => kinds.contains k
  | _ => false

end Reading

/-- Follows a pattern. -/
def read (grammar : Kind → Pattern) : (fuel : Nat) → Pattern → Reading → Option Reading
  | 0, _, _ => none
  | fuel + 1, p, s =>
    match p with
    | .nothing => some s
    | .symbol text => s.token fun t => t.class_ == .symbol && t.text == text
    | .keyword texts => s.token fun t => t.class_ == .word && texts.contains t.text
    | .word except => s.token fun t => t.class_ == .word && !except.contains t.text
    | .literal class_ => s.token fun t => t.class_ == class_
    | .behind kinds => if s.isBehind kinds then some s else none
    | .both first second =>
      match read grammar fuel first s with
      | some s => read grammar fuel second s
      | none => none
    | .either first second =>
      match read grammar fuel first s with
      | some s => some s
      | none => read grammar fuel second s
    | .many p =>
      match read grammar fuel p s with
      | some s => read grammar fuel (.many p) s
      | none => some s
    | .ahead p => if (read grammar fuel p s).isSome then some s else none
    | .absent p => if (read grammar fuel p s).isSome then none else some s
    | .part kind =>
      match read grammar fuel (grammar kind) ⟨[], s.rest⟩ with
      | some inner => some ⟨.node kind inner.done.reverse :: s.done, inner.rest⟩
      | none => none

/-- How deep patterns may nest for each token. -/
def fuelPerToken : Nat := 400

/-- The tree of all of some tokens, when they make up a node of a kind. -/
def read? (grammar : Kind → Pattern) (kind : Kind) (tokens : List Token) : Option Tree :=
  match read grammar (fuelPerToken * (tokens.length + 1)) (.part kind) ⟨[], tokens⟩ with
  | some ⟨[tree], []⟩ => some tree
  | _ => none

end CodeDigest.Java
