import Estree.Arena

/-!
# Walks over syntax trees

A walk visits a node, then what is in its child slots from left to right, and then leaves the node.
A `Visitor` is told when a node is reached and when it is left, and may ask not to descend. What is
still to be done is kept on a stack, so the depth of a tree does not matter.

A walk writes to the arena: it records the parent of a node just before the node is visited. With
nulls walked, an empty slot is visited too, as a placeholder that is appended to the arena and
dropped again when the walk is over.

A tree that contains itself can be walked as well; such a walk ends when the visitor stops
descending. A walk is therefore given the number of steps it may take.

## Main definitions

* `Walk.State.step`: one step of a walk;
* `Arena.walk`: a walk from a root;
* `Arena.walkSteps`: a number of steps that is enough for a tree.
-/

namespace Estree

/-- What a visitor wants done with a node it has been shown. -/
inductive Visit where
  /-- Go on with the children of the node. -/
  | descend
  /-- Leave the node at once. -/
  | skip
  deriving DecidableEq, Repr

/-- Someone who is taken along on a walk and remembers a `σ`. -/
structure Visitor (σ : Type) where
  /-- Called when a node is reached; its parent has been recorded. -/
  before : Arena → NodeId → σ → Visit × σ
  /-- Called when a node is left. -/
  after : Arena → NodeId → σ → σ

/-- A node whose kind is not known. -/
structure UnknownKind where
  /-- The tag of the node. -/
  kind : String
  /-- The node. -/
  node : NodeId
  deriving DecidableEq, Repr

/-- What happened on a walk. -/
structure WalkReport where
  /-- How many nodes were reached, placeholders included. -/
  visited : Nat := 0
  /-- How many nodes the visitor did not want to descend into. -/
  skipped : Nat := 0
  /-- How many placeholders were made. -/
  synthesized : Nat := 0
  /-- The nodes that could not be descended into because their kind is not known. -/
  unknownKinds : Array UnknownKind := #[]
  deriving DecidableEq, Repr, Inhabited

/-- Was every kind known? -/
def WalkReport.isClean (r : WalkReport) : Bool := r.unknownKinds.isEmpty

namespace Walk

/-- Something a walk still has to do. -/
inductive Pending where
  /-- Visit the root. -/
  | root (id : NodeId)
  /-- Visit what is in a slot of `owner`. -/
  | slot (content : Option NodeId) (owner : NodeId)
  /-- Leave a node. -/
  | leave (id : NodeId)
  deriving DecidableEq, Repr

/-- A walk under way. -/
structure State (σ : Type) where
  /-- The tree, with the placeholders made so far. -/
  arena : Arena
  /-- What is still to be done, the next thing first. -/
  stack : List Pending
  /-- What happened so far. -/
  report : WalkReport
  /-- What the visitor remembers. -/
  memory : σ

variable {σ : Type}

namespace State

/-- Visit a node whose parent has been recorded. -/
def visit (v : Visitor σ) (id : NodeId) (s : State σ) : State σ :=
  let report := { s.report with visited := s.report.visited + 1 }
  match v.before s.arena id s.memory with
  | (.skip, memory) =>
    { s with
      report := { report with skipped := report.skipped + 1 }
      memory := v.after s.arena id memory }
  | (.descend, memory) =>
    match s.arena.childSlots id with
    | none =>
      let unknown := ⟨(s.arena.kind id).name, id⟩
      { s with
        report := { report with unknownKinds := report.unknownKinds.push unknown }
        memory := v.after s.arena id memory }
    | some slots =>
      { s with
        stack := slots.map (.slot · id) ++ .leave id :: s.stack
        report
        memory }

/-- Visit an empty slot of `owner` as a placeholder. -/
def visitPlaceholder (v : Visitor σ) (owner : NodeId) (s : State σ) : State σ :=
  visit v s.arena.size
    { s with
      arena := s.arena.push (.placeholder owner)
      report := { s.report with synthesized := s.report.synthesized + 1 } }

/-- Record a parent and visit the node. -/
def visitUnder (v : Visitor σ) (parent : Option NodeId) (id : NodeId) (s : State σ) : State σ :=
  visit v id { s with arena := s.arena.setParent id parent }

/-- Do one thing, which has been taken from the stack. -/
def step (v : Visitor σ) (nulls : Bool) (s : State σ) : Pending → State σ
  | .leave id => { s with memory := v.after s.arena id s.memory }
  | .root id => visitUnder v none id s
  | .slot (some id) owner => visitUnder v (some owner) id s
  | .slot none owner => if nulls then visitPlaceholder v owner s else s

/-- Do what is on the stack, in at most `steps` steps. -/
def run (v : Visitor σ) (nulls : Bool) : Nat → State σ → State σ
  | 0, s => s
  | steps + 1, s =>
    match s.stack with
    | [] => s
    | next :: rest => run v nulls steps (step v nulls { s with stack := rest } next)

/-- The state before the first step of a walk. -/
def start (a : Arena) (root : NodeId) (memory : σ) : State σ where
  arena := a
  stack := [.root root]
  report := {}
  memory

end State

end Walk

/-- A walk that has been made. -/
structure Walked (σ : Type) where
  /-- The tree, with the parents that the walk has recorded. -/
  arena : Arena
  /-- What happened. -/
  report : WalkReport
  /-- What the visitor remembers in the end. -/
  memory : σ
  /-- Is the walk over? If not, it was given too few steps. -/
  complete : Bool

/-- Walk what is below `root` in at most `steps` steps. -/
def Arena.walk {σ : Type} (a : Arena) (v : Visitor σ) (nulls : Bool) (steps : Nat) (root : NodeId)
    (memory : σ) : Walked σ :=
  let size := a.size
  let s := Walk.State.run v nulls steps (.start a root memory)
  { arena := s.arena.truncate size
    report := s.report
    memory := s.memory
    complete := s.stack.isEmpty }

/-- A number of steps that is enough for a walk on which no node is reached twice: a node is left
once, and each of its slots is visited and, if a placeholder is put there, left again. -/
def Arena.walkSteps (a : Arena) : Nat :=
  a.nodes.foldl (fun n node => n + 1 + 2 * (node.childSlots.getD []).length) 1

end Estree
