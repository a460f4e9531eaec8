import Estree.Walk

/-!
# Statistics of syntax trees

A `Tally` counts the nodes of one or more documents by kind, and keeps how deep they were nested.

## Main definitions

* `Tally.record`: count what is below a node;
* `Stats.ofTally`: the figures in the order they are shown.
-/

namespace Estree

/-- What has been counted. -/
structure Tally where
  /-- The documents. -/
  documents : Nat := 0
  /-- The nodes of all documents. -/
  nodes : Nat := 0
  /-- The nodes whose kind is not known. -/
  unknown : Nat := 0
  /-- How many nodes are open. -/
  depth : Nat := 0
  /-- The largest depth a node was at; a root is at depth 0. -/
  maxDepth : Nat := 0
  /-- The nodes of each kind, by tag. -/
  counts : Dict Nat := []
  deriving Inhabited

namespace Tally

/-- Count one node of a kind. -/
def countKind (counts : Dict Nat) (kind : String) : Dict Nat :=
  counts.insert kind ((counts.get? kind).getD 0 + 1)

/-- The visitor that counts. -/
def visitor : Visitor Tally where
  before a id t :=
    (.descend, { t with
      nodes := t.nodes + 1
      maxDepth := max t.maxDepth t.depth
      depth := t.depth + 1
      counts := countKind t.counts (a.kind id).name })
  after _ _ t := { t with depth := t.depth - 1 }

/-- Count what is below `root` as one more document, in at most `steps` steps. -/
def record (t : Tally) (a : Arena) (nulls : Bool) (steps : Nat) (root : NodeId) : Walked Tally :=
  let w := a.walk visitor nulls steps root t
  { w with memory :=
    { w.memory with
      documents := w.memory.documents + 1
      unknown := w.memory.unknown + w.report.unknownKinds.size } }

end Tally

/-- How many nodes of one kind there are. -/
structure KindCount where
  /-- The tag of the kind. -/
  kind : String
  /-- The number of nodes. -/
  count : Nat
  deriving DecidableEq, Repr

/-- The figures of one or more documents. -/
structure Stats where
  /-- The documents. -/
  documents : Nat
  /-- The nodes of all documents. -/
  nodes : Nat
  /-- The largest depth. -/
  maxDepth : Nat
  /-- The nodes whose kind is not known. -/
  unknown : Nat
  /-- The nodes of each kind, the most frequent kind first, equally frequent ones by tag. -/
  byKind : List KindCount
  deriving DecidableEq, Repr

namespace KindCount

/-- Does `a` stand in front of `b`, or may it? -/
def precedes (a b : KindCount) : Bool :=
  if a.count = b.count then decide (a.kind ≤ b.kind) else decide (b.count < a.count)

end KindCount

/-- The figures of what has been counted. -/
def Stats.ofTally (t : Tally) : Stats where
  documents := t.documents
  nodes := t.nodes
  maxDepth := t.maxDepth
  unknown := t.unknown
  byKind := (t.counts.map fun (kind, count) => ⟨kind, count⟩).mergeSort KindCount.precedes

end Estree
