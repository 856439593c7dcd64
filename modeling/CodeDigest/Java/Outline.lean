import CodeDigest.Business
import CodeDigest.Complexity
import CodeDigest.Failure
import CodeDigest.Java.Grammar
import CodeDigest.Java.Lexer
import CodeDigest.Language
import CodeDigest.LineCount

/-!
# The outline of a source file

The outline is read off a syntax tree: the package, the imports, every class in the order of the
text, nested ones included, and the methods that stand directly in its body.  The complexity of a
body is one more than its decision points; those of the bodies of local and anonymous classes do not
count.  Constructors count towards the complexity of the file and are no methods.
-/

namespace CodeDigest.Java

namespace Tree

/-! ## Complexity -/

/-- Whether a node is a decision point of its own. -/
def isDecision : Tree → Bool
  | leaf _ => false
  | node kind children =>
    match kind with
    | .ifStatement | .forStatement | .enhancedForStatement | .whileStatement | .doStatement
    | .catchClause | .conditionalMark | .shortCircuit => true
    | .switchLabel => ((tokensOfAll children).head?.map (·.text)) == some "case"
    | _ => false

mutual

/-- The number of decision points of a tree. -/
def decisions : Tree → Nat
  | leaf _ => 0
  | node kind children =>
    (if (node kind children).isDecision then 1 else 0) + decisionsOfAll children

/-- The decision points of some trees; the bodies of classes among them are left out. -/
def decisionsOfAll : List Tree → Nat
  | [] => 0
  | t :: ts => (if t.is .classBody then 0 else t.decisions) + decisionsOfAll ts

end

/-- The cyclomatic complexity of a body. -/
def complexity (body : Tree) : Nat := body.decisions + 1

/-! ## Declarations -/

/-- The text of the first child of a kind. -/
def textOf? (kind : Kind) (t : Tree) : Option String := (t.child? kind).map slice

/-- The part of a qualified name behind its last dot. -/
def lastSegment (name : String) : String := ((pieces '.' name).getLast?).getD name

/-- The annotations among the modifiers of a declaration, without their qualifiers. -/
def annotations (declaration : Tree) : List String :=
  match declaration.child? .modifiers with
  | some ms => (ms.childrenOf .annotationUse).filterMap fun a =>
      (a.textOf? .name).map lastSegment
  | none => []

end Tree

/-- The first comment among the blanks and comments of a lead; `count` bounds their number. -/
def firstComment? : (count : Nat) → List Char → Option (List Char)
  | 0, _ => none
  | count + 1, cs =>
    match cs with
    | '/' :: '/' :: rest => some ('/' :: '/' :: rest.takeWhile (· != '\n'))
    | '/' :: '*' :: rest => (blockCommentLength? 2 rest).map cs.take
    | _ :: rest => firstComment? count rest
    | [] => none

namespace Tree

/-- The type that a parameter with any number of arguments is listed with.  A comment between its
modifiers and its type is taken for the type. -/
def variadicType? (parameter : Tree) : Option String := do
  let type ← parameter.child? .typeName
  let lead := ((type.tokens.head?).map (·.lead)).getD []
  match (parameter.child? .modifiers).bind fun _ => firstComment? lead.length lead with
  | some comment => return String.ofList comment
  | none => return type.slice

/-- A parameter as it is listed in a signature. -/
def parameter? (t : Tree) : Option String :=
  match t.kind? with
  | some .parameter => do
    return (← t.textOf? .typeName) ++ " " ++ (← t.textOf? .declaredName)
  | some .variadicParameter => do
    let name ← (← t.child? .declarator).textOf? .declaredName
    return (← t.variadicType?) ++ "... " ++ name
  | _ => none

/-- The parameters of a method; a receiver is none. -/
def parameterList (declaration : Tree) : List String :=
  match declaration.child? .parameters with
  | some ps => ps.children.filterMap parameter?
  | none => []

/-- The method that is declared. -/
def toMethod (rules : BusinessRules) (declaration : Tree) : SourceMethod :=
  let name := (declaration.textOf? .declaredName).getD ""
  let returnType := (declaration.textOf? .typeName).filter (· != "void")
  let parameters := declaration.parameterList
  let annotations := declaration.annotations
  { name
    signature := returnType.getD "void" ++ " " ++ name ++ "(" ++ joined ", " parameters ++ ")"
    description := none
    returnType
    complexity := (declaration.child? .block).map (·.complexity.toFloat)
    annotations
    isBusiness := rules.isBusiness name annotations parameters.length
    parameterCount := parameters.length }

/-- The members of a kind in the body of a class. -/
def members (kind : Kind) (declaration : Tree) : List Tree :=
  match declaration.child? .classBody with
  | some body => body.childrenOf kind
  | none => []

/-- The class that is declared. -/
def toClass (rules : BusinessRules) (package : Option String) (declaration : Tree) :
    SourceClass where
  name := (declaration.textOf? .declaredName).getD ""
  package
  annotations := declaration.annotations
  methods := (declaration.members .methodDeclaration).map (toMethod rules)

/-- The complexities of the constructors of a class. -/
def constructorScores (declaration : Tree) : List Float :=
  (declaration.members .constructorDeclaration).filterMap fun c =>
    (c.child? .constructorBody).map (·.complexity.toFloat)

end Tree

/-- The mean of some complexities, if there are any. -/
def meanScore? (scores : List Float) : Option Float :=
  if scores.isEmpty then none
  else some (ComplexityMetrics.sumOf scores / scores.length.toFloat)

/-- The record of a source file with a given syntax tree. -/
def outline (rules : BusinessRules) (path content : String) (tree : Tree) : SourceFile :=
  let package := ((tree.nodesOf .packageDeclaration).filterMap (·.textOf? .name)).head?
  let declarations := tree.nodesOf .classDeclaration
  let classes := declarations.map (Tree.toClass rules package)
  let lines := LineCount.ofText content Language.java.commentPrefix
  { path
    fileType := Language.java.tag
    package
    imports := (tree.nodesOf .importDeclaration).filterMap (·.textOf? .name)
    classes
    totalLines := lines.total
    codeLines := lines.code
    commentLines := lines.comment
    complexity :=
      meanScore?
        ((classes.flatMap (·.methods)).filterMap (·.complexity)
          ++ declarations.flatMap Tree.constructorScores) }

/-- The record of a source file with the syntax tree that is read from its text, unless there is
none.  What reads it is left open here. -/
def outlineBy (tree? : String → Option Tree) (rules : BusinessRules) (path content : String) :
    Except Failure SourceFile :=
  match tree? content with
  | some tree => .ok (outline rules path content tree)
  | none => .error (.source path "Syntax error in Java source")

/-- The syntax tree of a source text. -/
def tree? (content : String) : Option Tree :=
  ((tokenize? content).bind (read? Grammar.rule .compilationUnit)).filter Tree.isJoined

/-- The record of a source file, unless its text is no Java. -/
def outlineOf (rules : BusinessRules) (path content : String) : Except Failure SourceFile :=
  outlineBy tree? rules path content

end CodeDigest.Java
