import Estree.Kind
import Estree.Json.Value

/-!
# Syntax trees in an arena

An `Arena` holds the nodes of a syntax tree in one array; a node is named by its index. A field of a
node either holds one child or a list of children in which some places may be empty. Nothing keeps a
node from being the child of several nodes or, in the end, of itself.

Each node also records a parent. Reading a document leaves it open; a walk writes it when it reaches
the node.

## Main definitions

* `Node.childSlots`: the places of a node that a walk visits, in their order;
* `Arena.add`, `Arena.setChild`, `Arena.setProp`: building an arena node by node;
* `Arena.ancestors`: the chain of recorded parents.
-/

namespace Estree

/-- The index of a node in its arena. -/
abbrev NodeId := Nat

/-- What a field with children holds. -/
inductive Child where
  /-- One node. -/
  | node (id : NodeId)
  /-- A list of nodes; `none` marks an empty place, such as the one in `[a, , b]`. -/
  | list (items : List (Option NodeId))
  deriving DecidableEq, Repr

/-- The places of a field, in order. -/
def Child.slots : Child → List (Option NodeId)
  | node id => [some id]
  | list items => items

/-- A node of a syntax tree. -/
structure Node where
  /-- What the node is. -/
  kind : Kind
  /-- The fields that hold children. -/
  children : Dict Child := []
  /-- All other members. -/
  props : Dict Json.Value := []
  /-- The node under which the latest walk reached this one. -/
  parent : Option NodeId := none
  /-- Does the node stand for an absent child, for the duration of one walk? -/
  synthetic : Bool := false
  deriving Inhabited

/-- Put `items` between `chunks`: a chunk, an item, a chunk, and so on, ending with a chunk. Chunks
that are missing are empty places, and surplus ones are left out. -/
def interleave {α : Type} (chunks : List (Option α)) : List (Option α) → List (Option α)
  | [] => [chunks.head?.join]
  | item :: items => chunks.head?.join :: item :: interleave chunks.tail items

namespace Node

/-- The field named `field`, if it holds children. -/
def child? (n : Node) (field : String) : Option Child := n.children.get? field

/-- The member named `key`, if it holds no children. -/
def prop? (n : Node) (key : String) : Option Json.Value := n.props.get? key

/-- The places of a field; a field without children has none. -/
def fieldSlots (n : Node) (field : String) : List (Option NodeId) :=
  ((n.child? field).map Child.slots).getD []

/-- The places of a field as a walk sees them: a field without children is one empty place. -/
def visitSlots (n : Node) (field : String) : List (Option NodeId) :=
  ((n.child? field).map Child.slots).getD [none]

/-- The places of a node in the order a walk visits them, the empty ones included; `none` for a node
of unknown kind. The text chunks of a template literal and its expressions take turns. -/
def childSlots (n : Node) : Option (List (Option NodeId)) :=
  if n.kind = .templateLiteral then
    some (interleave (n.fieldSlots "quasis") (n.fieldSlots "expressions"))
  else n.kind.walkOrder.map fun fields => fields.flatMap n.visitSlots

/-- The stand-in for an absent child of `parent`: a literal `null`. -/
def placeholder (parent : NodeId) : Node where
  kind := .literal
  props := Dict.ofList [("raw", .string "null"), ("value", .null)]
  parent := some parent
  synthetic := true

end Node

/-- The nodes of a syntax tree. -/
structure Arena where
  /-- The nodes, each at its index. -/
  nodes : Array Node

namespace Arena

/-- The arena without nodes. -/
def empty : Arena := ⟨#[]⟩

/-- The number of nodes. -/
def size (a : Arena) : Nat := a.nodes.size

/-- The node with the given index, if there is one. -/
def node? (a : Arena) (id : NodeId) : Option Node := a.nodes[id]?

/-- The node with the given index. An index beyond the arena reads as a node of unknown kind that
holds nothing. -/
def node (a : Arena) (id : NodeId) : Node := (a.node? id).getD { kind := .unknown "" }

/-- The kind of a node. -/
def kind (a : Arena) (id : NodeId) : Kind := (a.node id).kind

/-- The recorded parent of a node. -/
def parent (a : Arena) (id : NodeId) : Option NodeId := (a.node id).parent

/-- The places of a node that a walk visits. -/
def childSlots (a : Arena) (id : NodeId) : Option (List (Option NodeId)) := (a.node id).childSlots

/-- Append a node. -/
def push (a : Arena) (n : Node) : Arena := ⟨a.nodes.push n⟩

/-- Append a node of the given kind without members; its index is the old size. -/
def add (a : Arena) (kind : Kind) : Arena := a.push { kind }

/-- Change one node. -/
def modify (a : Arena) (id : NodeId) (f : Node → Node) : Arena := ⟨a.nodes.modify id f⟩

/-- Let a field hold children. -/
def setChild (a : Arena) (id : NodeId) (field : String) (child : Child) : Arena :=
  a.modify id fun n => { n with children := n.children.insert field child }

/-- Let a member hold a value. -/
def setProp (a : Arena) (id : NodeId) (key : String) (value : Json.Value) : Arena :=
  a.modify id fun n => { n with props := n.props.insert key value }

/-- Record a parent. -/
def setParent (a : Arena) (id : NodeId) (parent : Option NodeId) : Arena :=
  a.modify id fun n => { n with parent }

/-- Keep the first `size` nodes. -/
def truncate (a : Arena) (size : Nat) : Arena := ⟨a.nodes.take size⟩

/-- The chain of recorded parents of a node, nearest first, at most `limit` of them. -/
def ancestorsUpTo (a : Arena) : Nat → NodeId → List NodeId
  | 0, _ => []
  | limit + 1, id =>
    match a.parent id with
    | none => []
    | some p => p :: ancestorsUpTo a limit p

/-- The chain of recorded parents of a node, nearest first. Where no node is its own ancestor the
chain is shorter than the arena. -/
def ancestors (a : Arena) (id : NodeId) : List NodeId := a.ancestorsUpTo a.size id

end Arena

end Estree
