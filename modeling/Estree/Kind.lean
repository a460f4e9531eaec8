/-!
# Kinds of syntax nodes

A node of a syntax tree carries a tag that says what it is. The tags whose shape is known are
constructors of `Kind`, in alphabetical groups; any other tag is kept as it is.

## Main definitions

* `Kind.name` and `Kind.ofName`: the tag of a kind and back;
* `Kind.known`: the kinds whose shape is known, in their fixed order;
* `Kind.walkOrder`: the fields that hold a node's children, in the order they are visited.
-/

namespace Estree

/-- What a node of a syntax tree is. -/
inductive Kind where
  | awaitExpression
  | arrayExpression
  | arrayPattern
  | arrowFunctionExpression
  | assignmentExpression
  | assignmentPattern
  | binaryExpression
  | blockStatement
  | breakStatement
  | callExpression
  | catchClause
  | classBody
  | classDeclaration
  | classExpression
  | chainExpression
  | conditionalExpression
  | continueStatement
  | debuggerStatement
  | doWhileStatement
  | emptyStatement
  | expressionStatement
  | forInStatement
  | forOfStatement
  | forStatement
  | functionDeclaration
  | functionExpression
  | file
  | identifier
  | importDeclaration
  | importDefaultSpecifier
  | importNamespaceSpecifier
  | importSpecifier
  | importExpression
  | exportAllDeclaration
  | exportDefaultDeclaration
  | exportNamedDeclaration
  | exportSpecifier
  | ifStatement
  | labeledStatement
  | literal
  | logicalExpression
  | memberExpression
  | metaProperty
  | methodDefinition
  | newExpression
  | objectExpression
  | objectPattern
  | parenthesizedExpression
  | program
  | property
  | restElement
  | returnStatement
  | sequenceExpression
  | spreadElement
  | super
  | switchCase
  | switchStatement
  | taggedTemplateExpression
  | templateElement
  | templateLiteral
  | thisExpression
  | throwStatement
  | tryStatement
  | unaryExpression
  | updateExpression
  | variableDeclaration
  | variableDeclarator
  | whileStatement
  | withStatement
  | yieldExpression
  /-- Any tag that is not in the list. -/
  | unknown (tag : String)
  deriving DecidableEq, Repr, Inhabited

namespace Kind

/-- The tag of a kind. -/
def name : Kind → String
  | awaitExpression => "AwaitExpression"
  | arrayExpression => "ArrayExpression"
  | arrayPattern => "ArrayPattern"
  | arrowFunctionExpression => "ArrowFunctionExpression"
  | assignmentExpression => "AssignmentExpression"
  | assignmentPattern => "AssignmentPattern"
  | binaryExpression => "BinaryExpression"
  | blockStatement => "BlockStatement"
  | breakStatement => "BreakStatement"
  | callExpression => "CallExpression"
  | catchClause => "CatchClause"
  | classBody => "ClassBody"
  | classDeclaration => "ClassDeclaration"
  | classExpression => "ClassExpression"
  | chainExpression => "ChainExpression"
  | conditionalExpression => "ConditionalExpression"
  | continueStatement => "ContinueStatement"
  | debuggerStatement => "DebuggerStatement"
  | doWhileStatement => "DoWhileStatement"
  | emptyStatement => "EmptyStatement"
  | expressionStatement => "ExpressionStatement"
  | forInStatement => "ForInStatement"
  | forOfStatement => "ForOfStatement"
  | forStatement => "ForStatement"
  | functionDeclaration => "FunctionDeclaration"
  | functionExpression => "FunctionExpression"
  | file => "File"
  | identifier => "Identifier"
  | importDeclaration => "ImportDeclaration"
  | importDefaultSpecifier => "ImportDefaultSpecifier"
  | importNamespaceSpecifier => "ImportNamespaceSpecifier"
  | importSpecifier => "ImportSpecifier"
  | importExpression => "ImportExpression"
  | exportAllDeclaration => "ExportAllDeclaration"
  | exportDefaultDeclaration => "ExportDefaultDeclaration"
  | exportNamedDeclaration => "ExportNamedDeclaration"
  | exportSpecifier => "ExportSpecifier"
  | ifStatement => "IfStatement"
  | labeledStatement => "LabeledStatement"
  | literal => "Literal"
  | logicalExpression => "LogicalExpression"
  | memberExpression => "MemberExpression"
  | metaProperty => "MetaProperty"
  | methodDefinition => "MethodDefinition"
  | newExpression => "NewExpression"
  | objectExpression => "ObjectExpression"
  | objectPattern => "ObjectPattern"
  | parenthesizedExpression => "ParenthesizedExpression"
  | program => "Program"
  | property => "Property"
  | restElement => "RestElement"
  | returnStatement => "ReturnStatement"
  | sequenceExpression => "SequenceExpression"
  | spreadElement => "SpreadElement"
  | super => "Super"
  | switchCase => "SwitchCase"
  | switchStatement => "SwitchStatement"
  | taggedTemplateExpression => "TaggedTemplateExpression"
  | templateElement => "TemplateElement"
  | templateLiteral => "TemplateLiteral"
  | thisExpression => "ThisExpression"
  | throwStatement => "ThrowStatement"
  | tryStatement => "TryStatement"
  | unaryExpression => "UnaryExpression"
  | updateExpression => "UpdateExpression"
  | variableDeclaration => "VariableDeclaration"
  | variableDeclarator => "VariableDeclarator"
  | whileStatement => "WhileStatement"
  | withStatement => "WithStatement"
  | yieldExpression => "YieldExpression"
  | unknown tag => tag

/-- The kinds whose shape is known. -/
def known : List Kind :=
  [.awaitExpression, .arrayExpression, .arrayPattern, .arrowFunctionExpression,
   .assignmentExpression, .assignmentPattern, .binaryExpression, .blockStatement,
   .breakStatement, .callExpression, .catchClause, .classBody, .classDeclaration,
   .classExpression, .chainExpression, .conditionalExpression, .continueStatement,
   .debuggerStatement, .doWhileStatement, .emptyStatement, .expressionStatement,
   .forInStatement, .forOfStatement, .forStatement, .functionDeclaration, .functionExpression,
   .file, .identifier, .importDeclaration, .importDefaultSpecifier, .importNamespaceSpecifier,
   .importSpecifier, .importExpression, .exportAllDeclaration, .exportDefaultDeclaration,
   .exportNamedDeclaration, .exportSpecifier, .ifStatement, .labeledStatement, .literal,
   .logicalExpression, .memberExpression, .metaProperty, .methodDefinition, .newExpression,
   .objectExpression, .objectPattern, .parenthesizedExpression, .program, .property,
   .restElement, .returnStatement, .sequenceExpression, .spreadElement, .super, .switchCase,
   .switchStatement, .taggedTemplateExpression, .templateElement, .templateLiteral,
   .thisExpression, .throwStatement, .tryStatement, .unaryExpression, .updateExpression,
   .variableDeclaration, .variableDeclarator, .whileStatement, .withStatement, .yieldExpression]

/-- The kind with the given tag. -/
def ofName (tag : String) : Kind :=
  (known.find? (·.name == tag)).getD (unknown tag)

/-- Is the kind outside the list? -/
def isUnknown : Kind → Bool
  | unknown _ => true
  | _ => false

/-- The place of a kind in the list; the unknown ones come after all others. -/
def rank (k : Kind) : Nat := known.idxOf k

/-- The order of the list, unknown kinds last and among themselves by tag. -/
def isBefore (a b : Kind) : Bool :=
  if a.rank = b.rank then a.isUnknown && decide (a.name < b.name) else decide (a.rank < b.rank)

/-- The fields that hold the children of a node, in the order they are visited; `none` for a kind
whose shape is not known. The two fields of a template literal are visited in turns, see
`Arena.childSlots`. -/
def walkOrder : Kind → Option (List String)
  | .awaitExpression | .restElement | .returnStatement | .spreadElement | .throwStatement
  | .unaryExpression | .updateExpression | .yieldExpression => some ["argument"]
  | .arrayExpression | .arrayPattern => some ["elements"]
  | .arrowFunctionExpression => some ["params", "body"]
  | .assignmentExpression | .assignmentPattern | .binaryExpression | .logicalExpression =>
    some ["left", "right"]
  | .blockStatement | .classBody | .program => some ["body"]
  | .breakStatement | .continueStatement => some ["label"]
  | .callExpression | .newExpression => some ["callee", "arguments"]
  | .catchClause => some ["param", "body"]
  | .classDeclaration | .classExpression => some ["id", "superClass", "body"]
  | .chainExpression | .expressionStatement | .parenthesizedExpression => some ["expression"]
  | .conditionalExpression | .ifStatement => some ["test", "consequent", "alternate"]
  | .debuggerStatement | .emptyStatement | .identifier | .literal | .super
  | .templateElement | .thisExpression => some []
  | .doWhileStatement => some ["body", "test"]
  | .forInStatement | .forOfStatement => some ["left", "right", "body"]
  | .forStatement => some ["init", "test", "update", "body"]
  | .functionDeclaration | .functionExpression => some ["id", "params", "body"]
  | .file => some ["program"]
  | .importDeclaration => some ["specifiers", "source"]
  | .importDefaultSpecifier | .importNamespaceSpecifier => some ["local"]
  | .importSpecifier => some ["imported", "local"]
  | .importExpression | .exportAllDeclaration => some ["source"]
  | .exportDefaultDeclaration => some ["declaration"]
  | .exportNamedDeclaration => some ["specifiers", "source", "declaration"]
  | .exportSpecifier => some ["exported", "local"]
  | .labeledStatement => some ["label", "body"]
  | .memberExpression => some ["object", "property"]
  | .metaProperty => some ["meta", "property"]
  | .methodDefinition | .property => some ["key", "value"]
  | .objectExpression | .objectPattern => some ["properties"]
  | .sequenceExpression => some ["expressions"]
  | .switchCase => some ["test", "consequent"]
  | .switchStatement => some ["discriminant", "cases"]
  | .taggedTemplateExpression => some ["tag", "quasi"]
  | .templateLiteral => some ["quasis", "expressions"]
  | .tryStatement => some ["block", "handler", "finalizer"]
  | .variableDeclaration => some ["declarations"]
  | .variableDeclarator => some ["id", "init"]
  | .whileStatement => some ["test", "body"]
  | .withStatement => some ["object", "body"]
  | .unknown _ => none

end Kind

end Estree
