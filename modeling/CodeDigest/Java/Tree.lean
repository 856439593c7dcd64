import CodeDigest.Java.Token

/-!
# Syntax trees

A tree has tokens at its leaves, in the order of the source text, and every inner node says what it
is.  `Kind` lists the kinds of nodes; expressions are kept flat, as a sequence of operands and
operators, because nothing here depends on which operator binds tighter.
-/

namespace CodeDigest.Java

/-- What a node of a tree is. -/
inductive Kind where
  | compilationUnit
  -- names and types
  | name
  | declaredName
  | typeName
  | typeArguments
  | wildcard
  | typeParameters
  | dimensions
  -- annotations and modifiers
  | modifiers
  | annotationUse
  | annotationArguments
  | elementPair
  | elementArray
  -- declarations
  | packageDeclaration
  | importDeclaration
  | moduleDeclaration
  | moduleDirective
  | classDeclaration
  | interfaceDeclaration
  | enumDeclaration
  | recordDeclaration
  | annotationDeclaration
  | classBody
  | interfaceBody
  | enumBody
  | enumConstant
  | annotationBody
  | fieldDeclaration
  | elementDeclaration
  | methodDeclaration
  | constructorDeclaration
  | compactConstructor
  | staticInitializer
  | constructorBody
  | constructorCall
  | parameters
  | parameter
  | variadicParameter
  | receiver
  | declarator
  | arrayInitializer
  -- statements
  | statement
  | block
  | ifStatement
  | whileStatement
  | doStatement
  | forStatement
  | enhancedForStatement
  | returnStatement
  | yieldStatement
  | breakStatement
  | throwStatement
  | assertStatement
  | tryStatement
  | resource
  | catchClause
  | finallyClause
  | synchronizedStatement
  | labeledStatement
  | localVariable
  | expressionStatement
  -- expressions
  | expression
  | operand
  /-- An expression in a label of a switch, where an arrow belongs to the label. -/
  | labelExpression
  | labelOperand
  | lambda
  | parenthesized
  | variable_
  | call
  | arguments
  | fieldAccess
  | arrayAccess
  | methodReference
  | typeLiteral
  | creation
  | interpolatedString
  /-- The question mark of a conditional expression. -/
  | conditionalMark
  /-- An operator that may leave its second operand out. -/
  | shortCircuit
  | switchExpression
  | switchBlock
  | switchGroup
  | switchRule
  | switchLabel
  | recordPattern
deriving Repr, DecidableEq

/-- A syntax tree. -/
inductive Tree where
  | leaf (token : Token)
  | node (kind : Kind) (children : List Tree)

namespace Tree

mutual

/-- The tokens of a tree. -/
def tokens : Tree → List Token
  | leaf token => [token]
  | node _ children => tokensOfAll children

/-- The tokens of some trees. -/
def tokensOfAll : List Tree → List Token
  | [] => []
  | t :: ts => t.tokens ++ tokensOfAll ts

end

/-- Whether a token goes on with the operator that the token before it in the same node has
begun. -/
def continues (before : Option Token) (token : Token) : Bool :=
  before.map Token.bare == some (.symbol, ">")
    && (token.bare == (.symbol, ">") || token.bare == (.symbol, "="))

mutual

/-- The tokens of a tree, each with whether it goes on with an operator. -/
def parts : Tree → List (Token × Bool)
  | leaf token => [(token, false)]
  | node _ children => partsOfAll none children

/-- `parts` over some trees of one node; `before` is the token directly in front of them. -/
def partsOfAll : (before : Option Token) → List Tree → List (Token × Bool)
  | _, [] => []
  | before, leaf token :: ts => (token, continues before token) :: partsOfAll (some token) ts
  | _, node kind children :: ts => (node kind children).parts ++ partsOfAll none ts

end

/-- Whether nothing stands between the tokens of an operator. -/
def isJoined (t : Tree) : Bool := t.parts.all fun (token, goesOn) => !goesOn || token.touches

/-- The source text of a tree, from its first token to its last one. -/
def slice (t : Tree) : String := sliceOf t.tokens

/-- The kind of a node. -/
def kind? : Tree → Option Kind
  | leaf _ => none
  | node kind _ => some kind

/-- Whether a tree is a node of a kind. -/
def is (kind : Kind) (t : Tree) : Bool := t.kind? == some kind

/-- The children of a node. -/
def children : Tree → List Tree
  | leaf _ => []
  | node _ children => children

/-- The first child of a kind. -/
def child? (kind : Kind) (t : Tree) : Option Tree := t.children.find? (is kind)

/-- The children of a kind. -/
def childrenOf (kind : Kind) (t : Tree) : List Tree := t.children.filter (is kind)

mutual

/-- The nodes of a kind, each before those inside it. -/
def nodesOf (kind : Kind) : Tree → List Tree
  | leaf _ => []
  | node k children =>
    (if k = kind then [node k children] else []) ++ nodesOfAll kind children

/-- `nodesOf` over some trees. -/
def nodesOfAll (kind : Kind) : List Tree → List Tree
  | [] => []
  | t :: ts => t.nodesOf kind ++ nodesOfAll kind ts

end

mutual

/-- Every node found is of the kind. -/
theorem is_of_mem_nodesOf {kind : Kind} {t n : Tree} (h : n ∈ t.nodesOf kind) :
    n.is kind = true := by
  cases t with
  | leaf token => simp [nodesOf] at h
  | node k children =>
    simp only [nodesOf, List.mem_append] at h
    rcases h with h | h
    · split at h
      · next hk => simp only [List.mem_singleton] at h; subst h; simp [is, kind?, hk]
      · cases h
    · exact is_of_mem_nodesOfAll h

theorem is_of_mem_nodesOfAll {kind : Kind} {ts : List Tree} {n : Tree}
    (h : n ∈ nodesOfAll kind ts) : n.is kind = true := by
  cases ts with
  | nil => simp [nodesOfAll] at h
  | cons t ts =>
    simp only [nodesOfAll, List.mem_append] at h
    rcases h with h | h
    · exact is_of_mem_nodesOf h
    · exact is_of_mem_nodesOfAll h

end

end Tree

end CodeDigest.Java
