import CodeDigest.Java.Pattern

/-!
# The grammar

Java up to version 21, with some latitude: a compilation unit may hold declarations, methods and
statements in any order, and no meaning is checked.  A word is a keyword only where the grammar can
use it as one; everywhere else it is a name.  The sets of words below say where that is.
-/

namespace CodeDigest.Java.Grammar

open Pattern

/-- The words that are types. -/
def primitives : List String :=
  ["byte", "short", "int", "long", "char", "float", "double", "boolean", "void"]

/-- The words that start an expression of their own. -/
def expressionWords : List String := ["new", "this", "super", "true", "false", "null", "switch"]

/-- The words that cannot be a type or a variable where an expression can start. -/
def notNames : List String := primitives ++ expressionWords

/-- The words that may modify a declaration. -/
def modifierWords : List String :=
  ["public", "protected", "private", "abstract", "static", "final", "strictfp", "default",
   "synchronized", "native", "transient", "volatile"]

/-- The words that start the declaration of a type. -/
def typeWords : List String := ["class", "interface", "enum"]

/-- The words that start a statement of their own. -/
def statementWords : List String :=
  ["assert", "break", "continue", "do", "for", "if", "return", "throw", "try", "while", "yield",
   "import", "package"] ++ typeWords ++ modifierWords

/-- Words that are keywords at the start of a statement and names as well. -/
def softWords : List String := ["open", "module", "record", "sealed", "with"]

/-! ## Names and types -/

/-- Any word. -/
def anyWord : Pattern := word []

/-- No word follows that is a keyword as well as a name. -/
def noSoftWord : Pattern := absent (keyword softWords)

/-- Annotations, if there are some. -/
def annotations : Pattern := many (part .annotationUse)

/-- Modifiers, if there are some. -/
def modifiers? : Pattern := maybe (part .modifiers)

/-- A segment of a qualified type name behind its dot. -/
def typeSegment : Pattern := word ["class", "this", "super", "new"]

/-- A type without dimensions. -/
def simpleType : Pattern :=
  oneOf
    [keyword primitives,
     all
      [word notNames, maybe (part .typeArguments),
       many (all [symbol ".", annotations, typeSegment, maybe (part .typeArguments)])]]

/-- A type that may carry annotations. -/
def annotatedType : Pattern := both annotations (part .typeName)

/-- Types with commas between them. -/
def types : Pattern := list annotatedType

/-- A declared name with dimensions behind it. -/
def declaredId : Pattern := both (part .declaredName) (maybe (part .dimensions))

/-- Declarators with commas between them. -/
def declarators : Pattern := list (part .declarator)

/-- Formal parameters that are no receiver. -/
def formalParameters : Pattern := list (either (part .variadicParameter) (part .parameter))

/-- What may stand for the value of an annotation's element. -/
def elementValue : Pattern :=
  oneOf [part .annotationUse, part .elementArray, part .expression]

/-- The initial value of a variable. -/
def initializer : Pattern := either (part .arrayInitializer) (part .expression)

/-- Values between braces, with a comma behind the last one if wanted. -/
def braced (p : Pattern) : Pattern :=
  between "\x7b" "\x7d" (both (maybe (list p)) (maybe (symbol ",")))

/-! ## Expressions -/

/-- The symbols that make up one operator. -/
def joinedSymbols (symbols : List String) : Pattern := all (symbols.map symbol)

/-- The operators that assign. -/
def assignment : Pattern :=
  oneOf
    (["=", "+=", "-=", "*=", "/=", "&=", "|=", "^=", "%=", "<<="].map symbol
      ++ [joinedSymbols [">", ">", ">", "="], joinedSymbols [">", ">", "="]])

/-- The operators between two operands that always need both. -/
def binaryOperator : Pattern :=
  oneOf
    (["+", "-", "*", "/", "%", "&", "|", "^", "==", "!=", "<", "<=", "<<"].map symbol
      ++ [joinedSymbols [">", "="], joinedSymbols [">", ">", ">"], joinedSymbols [">", ">"],
          symbol ">"])

/-- The kind of an expression; without `arrows`, an arrow behind it is not part of it. -/
def expressionKind (arrows : Bool) : Kind := if arrows then .expression else .labelExpression

/-- The kind of an operand. -/
def operandKind (arrows : Bool) : Kind := if arrows then .operand else .labelOperand

/-- A string literal. -/
def stringLiteral : Pattern := either (literal .string) (part .interpolatedString)

/-- A type with type arguments or dimensions in it lies ahead. -/
def composedType : Pattern :=
  ahead
    (either (keyword primitives)
      (all
        [word notNames, many (both (symbol ".") typeSegment),
         either (symbol "<") (both (symbol "[") (symbol "]"))]))

/-- What a chain of accesses and calls starts with. -/
def chainStart : Pattern :=
  oneOf
    [literal .number, literal .character, stringLiteral,
     keyword ["true", "false", "null", "this"],
     both (keyword ["super"]) (ahead (either (symbol ".") (symbol "::"))),
     part .parenthesized,
     part .creation,
     both composedType (part .typeLiteral),
     all [ahead (both (word notNames) (symbol "(")), part .call],
     part .variable_]

/-- The detour over the superclass behind a dot. -/
def superDot : Pattern := maybe (both (keyword ["super"]) (symbol "."))

/-- A method called behind a dot. -/
def calledMethod : Pattern :=
  all [maybe (part .typeArguments), word ["new", "super"], part .arguments]

/-- One more access or call. -/
def chainLink : Pattern :=
  oneOf
    [all
      [ahead
        (all [symbol ".", superDot, maybe (part .typeArguments), word ["new", "super"],
          symbol "("]),
       part .call],
     part .fieldAccess,
     both (symbol ".") (part .creation),
     both (symbol ".") stringLiteral,
     part .arrayAccess,
     part .methodReference]

/-- A chain of accesses and calls, and what is assigned to it. -/
def chain (arrows : Bool) : Pattern :=
  all
    [chainStart, many chainLink,
     maybe
      (all
        [behind [.variable_, .fieldAccess, .arrayAccess], assignment,
         part (expressionKind arrows)])]

/-- The test whether an operand is of a type. -/
def typeTest : Pattern :=
  all
    [keyword ["instanceof"], maybe (keyword ["final"]),
     either (part .recordPattern) (both annotatedType (maybe (word ["instanceof", "when"])))]

/-- The condition behind the patterns of a switch's label. -/
def guard : Pattern := both (keyword ["when"]) (part .labelExpression)

/-- Nothing follows that makes what stands between the parentheses before it an operand.  A word
behind them starts the operand of a cast, unless it can be read as an operator. -/
def castOperandAhead (arrows : Bool) : Pattern :=
  absent (if arrows then typeTest else either typeTest guard)

/-- Some types between parentheses, as in front of what is cast. -/
def castTypes (p : Pattern) : Pattern :=
  both (symbol "(") (both noSoftWord (both p (symbol ")")))

/-- A cast with what is cast. -/
def cast (arrows : Bool) : Pattern :=
  oneOf
    [all [castTypes annotatedType, castOperandAhead arrows, part (operandKind arrows)],
     all
      [castTypes (separated "&" annotatedType), castOperandAhead arrows,
       if arrows then either (part .lambda) (chain arrows) else chain arrows]]

/-- One operand with its unary operators. -/
def operand (arrows : Bool) : Pattern :=
  all
    [many (oneOf (["++", "--", "+", "-", "!", "~"].map symbol)),
     oneOf
      ((if arrows then [part .lambda] else [])
        ++ [cast arrows, part .switchExpression, chain arrows]),
     many (either (symbol "++") (symbol "--"))]

/-- One more operator with its operand. -/
def operation (arrows : Bool) : Pattern :=
  oneOf
    [both (part .shortCircuit) (part (operandKind arrows)),
     both binaryOperator (part (operandKind arrows)),
     typeTest,
     all
      [part .conditionalMark, part (expressionKind arrows), symbol ":",
       part (expressionKind arrows)]]

/-- An expression. -/
def expression (arrows : Bool) : Pattern :=
  both (part (operandKind arrows)) (many (operation arrows))

/-! ## Statements -/

/-- No record is declared here. -/
def noRecord : Pattern := absent (both modifiers? (keyword ["record"]))

/-- No word follows that has a statement of its own. -/
def noStatementWord : Pattern := absent (keyword statementWords)

/-- A type and a name lie ahead, as at the start of a variable's declaration. -/
def declarationAhead : Pattern :=
  ahead
    (all
      [noSoftWord, part .typeName, word ["instanceof"],
       oneOf ([ "=", ",", ";", "[", "@"].map symbol)])

/-- The declarations that may stand among statements. -/
def declarations : List Pattern :=
  [part .importDeclaration, part .packageDeclaration, part .moduleDeclaration,
   part .classDeclaration, part .interfaceDeclaration, part .enumDeclaration,
   part .annotationDeclaration, part .recordDeclaration]

/-- A statement. -/
def statement : Pattern :=
  oneOf
    ([part .block, symbol ";", part .ifStatement, part .whileStatement, part .doStatement,
      part .enhancedForStatement, part .forStatement, part .returnStatement, part .yieldStatement,
      part .breakStatement, part .throwStatement, part .assertStatement, part .tryStatement,
      part .synchronizedStatement,
      both (part .switchExpression)
        (maybe (both (some_ (either (operation true) (either (symbol "++") (symbol "--"))))
          (symbol ";")))]
    ++ declarations
    ++ [all [ahead (part .modifiers), noRecord, part .localVariable],
        all
          [noStatementWord,
           oneOf
            [part .labeledStatement,
             both declarationAhead (part .localVariable),
             both (absent declarationAhead) (part .expressionStatement)]]])

/-- A condition between parentheses. -/
def condition : Pattern := part .parenthesized

/-- A statement of a group of a switch, which ends where the next label starts. -/
def groupStatement : Pattern :=
  both
    (absent (either (keyword ["case"]) (both (keyword ["default"]) (symbol ":"))))
    (part .statement)

/-! ## Members -/

/-- No word follows that declares a type. -/
def noTypeWord : Pattern := absent (either (keyword typeWords) (symbol "@interface"))

/-- The members of classes. -/
def classMember : Pattern :=
  oneOf
    [symbol ";", part .block, part .staticInitializer, part .classDeclaration,
     part .interfaceDeclaration, part .enumDeclaration, part .annotationDeclaration,
     part .recordDeclaration,
     both noRecord
      (oneOf
        [part .constructorDeclaration, part .compactConstructor, part .methodDeclaration,
         part .fieldDeclaration])]

/-- The members of interfaces. -/
def interfaceMember : Pattern :=
  oneOf
    [symbol ";", part .classDeclaration, part .interfaceDeclaration, part .enumDeclaration,
     part .annotationDeclaration, part .recordDeclaration,
     both noRecord (either (part .methodDeclaration) (part .fieldDeclaration))]

/-- The members of annotation types. -/
def annotationMember : Pattern :=
  oneOf
    [symbol ";", part .classDeclaration, part .interfaceDeclaration, part .enumDeclaration,
     part .annotationDeclaration, part .elementDeclaration, part .fieldDeclaration]

/-- The clause that lists what a type implements. -/
def implements_ : Pattern := maybe (both (keyword ["implements"]) types)

/-- The clause that lists what may extend a type. -/
def permits : Pattern := maybe (both (keyword ["permits"]) types)

/-- The clause that lists what a method may throw. -/
def throws : Pattern := maybe (both (keyword ["throws"]) types)

/-- The name of a constructor. -/
def constructorName : Pattern := both (absent (keyword primitives)) (part .declaredName)

/-- The parameters of a type or method. -/
def typeParameters? : Pattern := maybe (part .typeParameters)

/-- The head of a type's declaration up to its name. -/
def head (p : Pattern) : Pattern := all [modifiers?, p, part .declaredName]

/-- Members between braces. -/
def body (member : Pattern) : Pattern := between "\x7b" "\x7d" (many member)

/-- A method that stands in no class.  It comes before a statement, because the arguments of its
return type can look like two comparisons. -/
def looseMethod : Pattern :=
  all
    [ahead (both modifiers? noStatementWord), noRecord, part .methodDeclaration]

/-! ## The kinds -/

/-- The pattern of each kind of node. -/
def rule : Kind → Pattern
  | .compilationUnit => many (either looseMethod (part .statement))
  | .name => separated "." anyWord
  | .declaredName => word ["this"]
  | .typeName => both simpleType (maybe (part .dimensions))
  | .typeArguments => between "<" ">" (maybe (list (either (part .wildcard) annotatedType)))
  | .wildcard =>
    all [annotations, symbol "?", maybe (both (keyword ["extends", "super"]) annotatedType)]
  | .typeParameters =>
    between "<" ">"
      (list
        (all
          [annotations, anyWord,
           maybe (both (keyword ["extends"]) (separated "&" annotatedType))]))
  | .dimensions => some_ (all [annotations, symbol "[", symbol "]"])
  | .modifiers =>
    some_
      (oneOf [part .annotationUse, keyword ("sealed" :: modifierWords), symbol "non-sealed"])
  | .annotationUse => all [symbol "@", part .name, maybe (part .annotationArguments)]
  | .annotationArguments =>
    both (symbol "(")
      (oneOf
        [symbol ")", both (list (part .elementPair)) (symbol ")"),
         both elementValue (symbol ")")])
  | .elementPair => all [anyWord, symbol "=", elementValue]
  | .elementArray => braced elementValue
  | .packageDeclaration => all [annotations, keyword ["package"], part .name, symbol ";"]
  | .importDeclaration =>
    all
      [keyword ["import"], maybe (keyword ["static"]), part .name,
       maybe (both (symbol ".") (symbol "*")), symbol ";"]
  | .moduleDeclaration =>
    all
      [annotations, maybe (keyword ["open"]), keyword ["module"], part .name,
       body (part .moduleDirective)]
  | .moduleDirective =>
    oneOf
      [all [keyword ["requires"], many (both (keyword ["transitive", "static"]) (ahead anyWord)),
        part .name, symbol ";"],
       all [keyword ["exports", "opens"], part .name,
        maybe (both (keyword ["to"]) (list (part .name))), symbol ";"],
       all [keyword ["uses"], part .name, symbol ";"],
       all [keyword ["provides"], part .name, keyword ["with"], list (part .name), symbol ";"]]
  | .classDeclaration =>
    all
      [head (keyword ["class"]), typeParameters?, maybe (both (keyword ["extends"]) annotatedType),
       implements_, permits, part .classBody]
  | .interfaceDeclaration =>
    all
      [head (keyword ["interface"]), typeParameters?, maybe (both (keyword ["extends"]) types),
       permits, part .interfaceBody]
  | .enumDeclaration => all [head (keyword ["enum"]), implements_, part .enumBody]
  | .recordDeclaration =>
    all
      [head (keyword ["record"]), typeParameters?, part .parameters, implements_, part .classBody]
  | .annotationDeclaration => both (head (symbol "@interface")) (part .annotationBody)
  | .classBody => body classMember
  | .interfaceBody => body interfaceMember
  | .enumBody =>
    between "\x7b" "\x7d"
      (all
        [maybe (list (part .enumConstant)), maybe (symbol ","),
         maybe (both (symbol ";") (many classMember))])
  | .enumConstant =>
    all [modifiers?, part .declaredName, maybe (part .arguments), maybe (part .classBody)]
  | .annotationBody => body annotationMember
  | .fieldDeclaration => all [modifiers?, noTypeWord, part .typeName, declarators, symbol ";"]
  | .elementDeclaration =>
    all
      [modifiers?, noTypeWord, part .typeName, part .declaredName, symbol "(", symbol ")",
       maybe (part .dimensions), maybe (both (keyword ["default"]) elementValue), symbol ";"]
  | .methodDeclaration =>
    all
      [modifiers?, either (both (part .typeParameters) annotations) noTypeWord, part .typeName,
       part .declaredName, part .parameters, maybe (part .dimensions), throws,
       either (part .block) (symbol ";")]
  | .constructorDeclaration =>
    all
      [modifiers?, either (part .typeParameters) noTypeWord, constructorName, part .parameters,
       throws, part .constructorBody]
  | .compactConstructor => all [modifiers?, noTypeWord, constructorName, part .block]
  | .staticInitializer => both (keyword ["static"]) (part .block)
  | .constructorBody =>
    between "\x7b" "\x7d" (both (maybe (part .constructorCall)) (many (part .statement)))
  | .constructorCall =>
    all
      [oneOf
        [both (maybe (part .typeArguments)) (keyword ["this", "super"]),
         all
          [chainStart, many chainLink, symbol ".", maybe (part .typeArguments),
           keyword ["super"]]],
       part .arguments, symbol ";"]
  | .parameters =>
    between "(" ")"
      (oneOf
        [all [part .receiver, maybe (both (symbol ",") formalParameters)],
         maybe formalParameters])
  | .parameter => all [modifiers?, part .typeName, declaredId]
  | .variadicParameter =>
    all [modifiers?, part .typeName, symbol "...", annotations, part .declarator]
  | .receiver =>
    all
      [annotations, part .typeName, many (both (word ["this"]) (symbol ".")), keyword ["this"]]
  | .declarator => both declaredId (maybe (both (symbol "=") initializer))
  | .arrayInitializer => braced initializer
  | .statement => statement
  | .block => body (part .statement)
  | .ifStatement =>
    all
      [keyword ["if"], condition, part .statement,
       maybe (both (keyword ["else"]) (part .statement))]
  | .whileStatement => all [keyword ["while"], condition, part .statement]
  | .doStatement =>
    all [keyword ["do"], part .statement, keyword ["while"], condition, symbol ";"]
  | .forStatement =>
    all
      [keyword ["for"], symbol "(",
       either (both noSoftWord (part .localVariable))
        (both (maybe (list (part .expression))) (symbol ";")),
       maybe (part .expression), symbol ";", maybe (list (part .expression)), symbol ")",
       part .statement]
  | .enhancedForStatement =>
    all
      [keyword ["for"], symbol "(", noSoftWord, modifiers?, part .typeName, declaredId, symbol ":",
       part .expression, symbol ")", part .statement]
  | .returnStatement => all [keyword ["return"], maybe (part .expression), symbol ";"]
  | .yieldStatement => all [keyword ["yield"], part .expression, symbol ";"]
  | .breakStatement => all [keyword ["break", "continue"], maybe anyWord, symbol ";"]
  | .throwStatement => all [keyword ["throw"], part .expression, symbol ";"]
  | .assertStatement =>
    all
      [keyword ["assert"], part .expression, maybe (both (symbol ":") (part .expression)),
       symbol ";"]
  | .tryStatement =>
    both (keyword ["try"])
      (oneOf
        [all
          [part .block,
           either
            (both (some_ (part .catchClause)) (maybe (part .finallyClause)))
            (part .finallyClause)],
         all
          [between "(" ")" (both (separated ";" (part .resource)) (maybe (symbol ";"))),
           part .block, many (part .catchClause), maybe (part .finallyClause)]])
  | .resource =>
    oneOf
      [all [modifiers?, part .typeName, declaredId, symbol "=", part .expression],
       all [chainStart, many chainLink, behind [.variable_, .fieldAccess]]]
  | .catchClause =>
    all
      [keyword ["catch"], symbol "(", modifiers?, separated "|" (part .typeName), declaredId,
       symbol ")", part .block]
  | .finallyClause => both (keyword ["finally"]) (part .block)
  | .synchronizedStatement => all [keyword ["synchronized"], condition, part .block]
  | .labeledStatement => all [word (notNames ++ softWords), symbol ":", part .statement]
  | .localVariable =>
    all [modifiers?, noStatementWord, part .typeName, declarators, symbol ";"]
  | .expressionStatement => both (part .expression) (symbol ";")
  | .expression => expression true
  | .labelExpression => expression false
  | .operand => operand true
  | .labelOperand => operand false
  | .lambda =>
    all
      [oneOf
        [both (word notNames) (ahead (symbol "->")),
         both (part .parameters) (ahead (symbol "->")),
         between "(" ")" (list (word notNames))],
       symbol "->", either (part .block) (part .expression)]
  | .parenthesized => between "(" ")" (part .expression)
  | .variable_ => word notNames
  | .call => oneOf
      [both (word notNames) (part .arguments),
       all [symbol ".", superDot, calledMethod]]
  | .arguments => between "(" ")" (maybe (list (part .expression)))
  | .fieldAccess => all [symbol ".", superDot, word ["new", "super"]]
  | .arrayAccess => between "[" "]" (part .expression)
  | .methodReference =>
    all [symbol "::", maybe (part .typeArguments), either (keyword ["new"]) anyWord]
  | .typeLiteral =>
    both (part .typeName)
      (either (both (symbol ".") (keyword ["class"])) (part .methodReference))
  | .creation =>
    all
      [keyword ["new"], annotations, maybe (both (part .typeArguments) annotations), simpleType,
       oneOf
        [both (part .arguments) (maybe (part .classBody)),
         both (some_ (all [annotations, symbol "[", part .expression, symbol "]"]))
          (maybe (part .dimensions)),
         both (part .dimensions) (part .arrayInitializer)]]
  | .interpolatedString =>
    all
      [literal .stringHead, part .expression,
       many (both (literal .stringMiddle) (part .expression)), literal .stringTail]
  | .conditionalMark => symbol "?"
  | .shortCircuit => either (symbol "&&") (symbol "||")
  | .switchExpression => all [keyword ["switch"], condition, part .switchBlock]
  | .switchBlock =>
    both (symbol "\x7b")
      (either (both (many (part .switchRule)) (symbol "\x7d"))
        (both (many (part .switchGroup)) (symbol "\x7d")))
  | .switchGroup =>
    both (some_ (both (part .switchLabel) (symbol ":"))) (many groupStatement)
  | .switchRule =>
    all
      [part .switchLabel, symbol "->",
       oneOf [part .throwStatement, part .block, part .expressionStatement]]
  | .switchLabel =>
    oneOf
      [all
        [keyword ["case"],
         either
          (both (either (part .recordPattern) (both (part .typeName) anyWord))
            (ahead (oneOf [keyword ["when"], symbol "->", symbol ":"])))
          (list (part .labelExpression)),
         maybe guard],
       keyword ["default"]]
  | .recordPattern =>
    all
      [absent (all [anyWord, some_ (both (symbol ".") anyWord), symbol "("]),
       part .typeName,
       between "(" ")"
        (maybe
          (list
            (oneOf
              [part .recordPattern, both (part .typeName) anyWord, keyword ["_"]])))]

end CodeDigest.Java.Grammar
