import Estree.Arena
import Estree.Json.Printer

/-!
# Labels of nodes

A label says in a few characters which node of its kind this one is: the name of an identifier, the
text of a literal, the operator of an expression or the keyword of a declaration.
-/

namespace Estree.Node

/-- The text of a member. -/
def text? (n : Node) (key : String) : Option String := (n.prop? key).bind Json.Value.text?

/-- The source text of a template chunk; the text with its escapes resolved is taken only if no
source text is there at all. -/
def chunkText? (n : Node) : Option String := do
  let value ← n.prop? "value"
  let text ← value.member? "raw" <|> value.member? "cooked"
  text.text?

/-- A short description of the node, for the kinds that have one. -/
def label (n : Node) : Option String :=
  match n.kind with
  | .identifier => n.text? "name"
  | .literal => n.text? "raw" <|> (n.prop? "value").map Json.Value.compact
  | .templateElement => n.chunkText?.map fun s => "\x60" ++ s ++ "\x60"
  | .binaryExpression | .logicalExpression | .assignmentExpression | .unaryExpression
  | .updateExpression => n.text? "operator"
  | .variableDeclaration => n.text? "kind"
  | .property | .methodDefinition =>
    (n.text? "kind").filter fun k => k != "init" && k != "method"
  | _ => none

end Estree.Node
