import Estree.Walk
import Estree.Arena.Label
import Estree.Styled

/-!
# Searching labels

A search lists the nodes whose label passes a test, each with the kinds of the nodes it is in. The
path of a node is read off the parents that the walk has recorded.
-/

namespace Estree

/-- A node that a search has found. -/
structure Found where
  /-- What the node is. -/
  kind : Kind
  /-- The label of the node. -/
  label : String
  /-- The kinds of the nodes it is in, outermost first. -/
  path : List Kind
  deriving DecidableEq, Repr

namespace Found

/-- The path of a node and its label in one line. -/
def displayPath (f : Found) : String :=
  " > ".intercalate (f.path.map Kind.name ++ [f.kind.name ++ " " ++ f.label])

/-- The line of a node found in a file, with its end of line. -/
def spans (path : String) (f : Found) : Styled :=
  [.styled { color := some .magenta } path, .plain ": "]
    ++ f.path.map (fun kind => .plain (kind.name ++ " > "))
    ++ [.styled { color := some .cyan } f.kind.name,
      .styled { color := some .green, bold := true } (" " ++ f.label), .plain "\n"]

end Found

namespace Search

/-- What a node is as a find, if its label passes the test. -/
def found? (test : String → Bool) (a : Arena) (id : NodeId) : Option Found :=
  ((a.node id).label.filter test).map fun label =>
    ⟨a.kind id, label, ((a.ancestors id).map a.kind).reverse⟩

/-- The visitor that lists the nodes whose label passes the test. -/
def visitor (test : String → Bool) : Visitor (Array Found) where
  before a id found := (.descend, ((found? test a id).map found.push).getD found)
  after _ _ found := found

end Search

/-- The nodes below `root` whose label passes the test, found in at most `steps` steps. -/
def Arena.search (a : Arena) (test : String → Bool) (steps : Nat) (root : NodeId) :
    Walked (Array Found) :=
  a.walk (Search.visitor test) false steps root #[]

end Estree
