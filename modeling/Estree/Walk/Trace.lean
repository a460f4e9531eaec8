import Estree.Walk
import Estree.Arena.Label

/-!
# Traces of walks

A trace keeps what a visitor is told on a walk, in the order it is told. A tracing visitor numbers
its visits and declines to descend by simple rules, so that walks over trees that contain themselves
end.
-/

namespace Estree.Walk

/-- Which nodes a tracing visitor declines to descend into, and what it keeps. -/
structure TraceRules where
  /-- Nodes of these kinds. -/
  skipKinds : List String := []
  /-- The visits with these numbers. -/
  skipVisits : List Nat := []
  /-- All visits from this number on. -/
  limit : Option Nat := none
  /-- Keep no events, only numbers. -/
  quiet : Bool := false

/-- What a visitor is told. -/
inductive Event where
  /-- A node is reached; its recorded parent and its description at that moment. -/
  | reached (id : NodeId) (kind : String) (label : Option String) (parent : Option NodeId)
  /-- A node is left. -/
  | left (id : NodeId)
  deriving DecidableEq, Repr

/-- What a tracing visitor remembers. -/
structure Trace where
  /-- The events, the first one first. -/
  events : Array Event := #[]
  /-- How many visits were made. -/
  visits : Nat := 0
  /-- How many nodes are open. -/
  depth : Nat := 0
  /-- The largest number of nodes that were open at once. -/
  maxDepth : Nat := 0
  deriving Inhabited

namespace Trace

/-- Keep an event, unless none are kept. -/
def keep (rules : TraceRules) (t : Trace) (e : Unit → Event) : Trace :=
  if rules.quiet then t else { t with events := t.events.push (e ()) }

/-- Does the visitor decline to descend from its visit number `visit` at a node of this kind? -/
def declines (rules : TraceRules) (kind : String) (visit : Nat) : Bool :=
  rules.skipKinds.contains kind || rules.skipVisits.contains visit
    || rules.limit.any (· ≤ visit)

/-- The visitor that keeps a trace. -/
def visitor (rules : TraceRules) : Visitor Trace where
  before a id t :=
    let kind := (a.kind id).name
    let visit := if declines rules kind t.visits then .skip else .descend
    let t := t.keep rules fun _ => .reached id kind (a.node id).label (a.parent id)
    (visit, { t with
      visits := t.visits + 1
      depth := t.depth + 1
      maxDepth := max t.maxDepth (t.depth + 1) })
  after _ id t :=
    let t := t.keep rules fun _ => .left id
    { t with depth := t.depth - 1 }

end Trace

end Estree.Walk
