import Estree.Walk
import Estree.Arena.Label
import Estree.Progress.Report

/-!
# Outlines of syntax trees

An outline lists the nodes of a tree with their depth, one entry a node, in the order of a walk.
What is below a given depth or below a node of certain kinds can be left out; the entry of such a
node tells how many children are not shown.

The outline is made by a visitor that never looks ahead. It keeps a frame for every open node, which
counts the children that are still to come, so it knows of each node whether it is the last one of
its parent.

## Main definitions

* `Outline.Settings`: what is to be shown;
* `Outline.Entry`: an entry, with what is needed to draw the lines of the tree in front of it;
* `Arena.outline`: the outline of what is below a node.
-/

namespace Estree

namespace Outline

/-- What an outline is to show. -/
structure Settings where
  /-- The deepest level that is shown; the root is at level 0. -/
  maxDepth : Option Nat := none
  /-- Nodes of these kinds are shown without what is below them. -/
  collapse : List Kind := []
  /-- Show empty slots as `null` literals. -/
  nulls : Bool := false

/-- Is what is below a node of this kind at this depth left out? -/
def Settings.hides (s : Settings) (kind : Kind) (depth : Nat) : Bool :=
  s.collapse.contains kind || s.maxDepth.any (· ≤ depth)

/-- One line of an outline. -/
structure Entry where
  /-- How deep the node is; the root has depth 0. -/
  depth : Nat
  /-- What the node is. -/
  kind : Kind
  /-- The label of the node. -/
  label : Option String
  /-- For each ancestor but the root, innermost first, whether it is the last one of its parent. -/
  ancestorsLast : List Bool
  /-- Is this the last node of its parent? The root is. -/
  isLast : Bool
  /-- How many children are not shown. -/
  hidden : Nat
  /-- Does the node stand for an absent child? -/
  synthetic : Bool
  deriving DecidableEq, Repr

end Outline

/-- The lines of an outline. -/
structure Outline where
  /-- The lines, in the order of the walk. -/
  entries : Array Outline.Entry
  /-- What happened on the walk. -/
  walk : WalkReport
  /-- Was the walk stopped? -/
  canceled : Bool
  deriving Inhabited

namespace Outline

/-- What is known of an open node. -/
structure Frame where
  /-- How many children that will be shown have not been reached. -/
  remaining : Nat
  /-- Is the node the last one of its parent? -/
  isLast : Bool
  /-- What the entries of the children have in `Entry.ancestorsLast`. -/
  below : List Bool
  deriving DecidableEq, Repr

/-- An outline under way; `σ` is the state of what progress is reported to. -/
structure Draft (σ : Type) where
  /-- The open nodes, innermost first. -/
  frames : List Frame
  /-- The lines so far. -/
  entries : Array Entry
  /-- Has the walk been stopped? -/
  canceled : Bool
  /-- What progress is reported to. -/
  progress : σ

/-- How many children of a node a walk reaches. -/
def visibleChildren (s : Settings) (a : Arena) (id : NodeId) : Nat :=
  ((a.childSlots id).getD []).countP fun slot => slot.isSome || s.nulls

/-- The frames after the innermost node has been told that one of its children is reached. -/
def countDown : List Frame → List Frame
  | [] => []
  | f :: rest => { f with remaining := f.remaining - 1 } :: rest

/-- Given the frames after the count, is the node that is reached the last one of its parent? -/
def isLastChild : List Frame → Bool
  | [] => true
  | f :: _ => f.remaining = 0

/-- Given the frames after the count, the frame of the node that is reached. -/
def childFrame (frames : List Frame) (remaining : Nat) : Frame where
  remaining
  isLast := isLastChild frames
  below :=
    match frames with
    | [] => []
    | f :: _ => isLastChild frames :: f.below

open Progress (Report Receiver)

variable {α σ : Type} [Progress.Quantity α]

/-- Open the frame of a node. -/
def Draft.enter (d : Draft σ) (frames : List Frame) (remaining : Nat) : Draft σ :=
  { d with frames := childFrame frames remaining :: frames }

/-- Append the entry of a node. Placeholders are not counted as work. -/
def Draft.record (r : Receiver α σ) (d : Draft σ) (e : Entry) : Draft σ :=
  { d with
    entries := d.entries.push e
    progress := if e.synthetic then d.progress else r.receive Report.tick d.progress }

/-- The entry of a node, given the frames after the count. -/
def entryOf (a : Arena) (id : NodeId) (frames : List Frame) (hidden : Nat) : Entry where
  depth := frames.length
  kind := a.kind id
  label := (a.node id).label
  ancestorsLast := (frames.head?.map Frame.below).getD []
  isLast := isLastChild frames
  hidden
  synthetic := (a.node id).synthetic

/-- The visitor that makes an outline. Once it is asked to stop it descends no further and records
nothing. -/
def visitor (s : Settings) (r : Receiver α σ) : Visitor (Draft σ) where
  before a id d :=
    let frames := countDown d.frames
    if d.canceled || r.isCanceled d.progress then
      (.skip, Draft.enter { d with canceled := true } frames 0)
    else
      let children := visibleChildren s a id
      if 0 < children && s.hides (a.kind id) frames.length then
        (.skip, (d.record r (entryOf a id frames children)).enter frames 0)
      else
        (.descend, (d.record r (entryOf a id frames 0)).enter frames children)
  after _ _ d := { d with frames := d.frames.tail }

end Outline

/-- An outline that has been made. -/
structure Outlined (σ : Type) where
  /-- The tree after the walk. -/
  arena : Arena
  /-- The outline. -/
  outline : Outline
  /-- What progress was reported to. -/
  progress : σ
  /-- Was the walk given enough steps? -/
  complete : Bool

open Progress (Report Receiver) in
/-- The outline of what is below `root`, made in at most `steps` steps. The size of the arena is
reported as the total, every node shown as one unit, and the end of the walk as the end of the
work. -/
def Arena.outline {α σ : Type} [Progress.Quantity α] (a : Arena) (s : Outline.Settings)
    (r : Receiver α σ) (steps : Nat) (root : NodeId) (progress : σ) : Outlined σ :=
  let progress := r.receive (.total (Progress.Quantity.ofNat a.size)) progress
  let w := a.walk (Outline.visitor s r) s.nulls steps root ⟨[], #[], false, progress⟩
  { arena := w.arena
    outline := ⟨w.memory.entries, w.report, w.memory.canceled⟩
    progress := r.receive .done w.memory.progress
    complete := w.complete }

end Estree
