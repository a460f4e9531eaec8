import Estree.Document
import Estree.Output.Structured
import Estree.Progress.Network

/-!
# Surveys of documents

A survey goes through documents one after the other and makes an outline of each, searches each, or
counts the nodes of all. Each document is a piece of one composite progress, with its size as its
weight; all pieces are known before the first one is begun.

A document is clean if the kinds of all nodes that were reached are known. A survey can be told to
stop at the first document that is not: a flag is raised then, and the documents that follow are not
walked. A document that could not be read is reported in its place, in any case.

## Main definitions

* `Survey.Task`: what is done with a document;
* `Survey.visit`: do it with one document;
* `survey`: do it with all of them.
-/

namespace Estree

open Progress (Network Quantity Report Sink Screen)

namespace Survey

/-- What is done with a document. -/
inductive Task where
  /-- Make an outline of it. -/
  | outline (settings : Outline.Settings)
  /-- Look for nodes whose label passes a test. -/
  | search (test : String → Bool)
  /-- Count its nodes. -/
  | count (nulls : Bool)

/-- A survey under way. -/
structure State (α : Type) where
  /-- What progress is reported to. -/
  network : Network α
  /-- What has been counted. -/
  tally : Tally := {}
  /-- What became of the documents. -/
  reports : Array DocumentReport := #[]
  /-- How many nodes were reached. -/
  nodes : Nat := 0
  /-- How many documents could not be read. -/
  failed : Nat := 0
  /-- How many documents are not clean. -/
  unclean : Nat := 0

variable {α : Type} [Quantity α]

/-- Hand a report to a sink. -/
def State.tell (s : State α) (sink : Sink α) (report : Report α) : State α :=
  { s with network := (s.network.deliver report sink).1 }

/-- Add what became of a document. -/
def State.push (s : State α) (r : DocumentReport) : State α :=
  { s with reports := s.reports.push r }

/-- Do a task with a document that is reported on to `sink`; tells what happened on the walk. Once
the survey has been stopped, a walk for an outline ends at the root, and there are no other
walks. -/
def visit (task : Task) (sink : Sink α) (d : Document) (s : State α) : State α × WalkReport :=
  let steps := d.arena.walkSteps
  let passOver := ((s.tell sink .done).push { path := d.path }, {})
  match task with
  | .outline settings =>
    let o := d.arena.outline settings sink.receiver steps Arena.root s.network
    let report : DocumentReport := { path := d.path, outline := some o.outline }
    (State.push { s with network := o.progress } report, o.outline.walk)
  | .search test =>
    if s.network.isCanceled sink then passOver
    else
      let w := d.arena.search test steps Arena.root
      let report : DocumentReport := { path := d.path, found := some w.memory.toList }
      ((s.tell sink .done).push report, w.report)
  | .count nulls =>
    if s.network.isCanceled sink then passOver
    else
      let w := s.tally.record d.arena nulls steps Arena.root
      ((State.tell { s with tally := w.memory } sink .done).push { path := d.path }, w.report)

/-- Take account of a walk. If the document is not clean, the flag is raised that is given. -/
def State.account (flag : Option Nat) (s : State α) (walk : WalkReport) : State α :=
  let s := { s with nodes := s.nodes + walk.visited }
  if walk.isClean then s
  else
    { s with
      unclean := s.unclean + 1
      network := (flag.map s.network.raise).getD s.network }

/-- A document to be surveyed. -/
structure Item (α : Type) where
  /-- The path. -/
  path : String
  /-- The document with the sink for reports on it, or why it could not be read. -/
  content : Except Error (Document × Sink α)

/-- Go on with one document. A flag is given if the survey is to stop when it is not clean. -/
def step (task : Task) (flag : Option Nat) (s : State α) (item : Item α) : State α :=
  match item.content with
  | .error e => State.push { s with failed := s.failed + 1 } (.failed item.path e.message)
  | .ok (d, sink) =>
    let (s, walk) := visit task sink d (s.tell sink (.title (Files.fileName d.path)))
    s.account flag walk

/-- Make every document that has been read a piece of composite `c`. -/
def addPieces (c : Nat) (net : Network α) :
    List (String × Except Error Document) → Network α × List (Item α)
  | [] => (net, [])
  | (path, .error e) :: rest =>
    let (net, items) := addPieces c net rest
    (net, ⟨path, .error e⟩ :: items)
  | (path, .ok d) :: rest =>
    let (net, sink) := net.addPart c (Quantity.ofNat d.bytes)
    let (net, items) := addPieces c net rest
    (net, ⟨path, .ok (d, sink)⟩ :: items)

/-- What the survey as a whole is reported to, and the flag that stops it. If there is a screen, a
bar is drawn on it. -/
def root : Option Screen → Network α × Sink α × Nat
  | none =>
    let (net, flag) := Network.addFlag {}
    (net, .relay (.flag flag) none, flag)
  | some screen =>
    let (net, flag) := Network.addFlag { screens := #[screen] }
    (net, .relay (.bar .fresh 0 flag) none, flag)

end Survey

open Survey in
/-- Do a task with all documents, in order. With `failFast`, the documents after the first one that
is not clean are not walked. -/
def survey {α : Type} [Quantity α] (task : Task) (failFast : Bool) (screen : Option Screen)
    (documents : List (String × Except Error Document)) : State α :=
  let (net, sink, flag) := root screen
  let (net, c) := net.addComposite sink
  let (network, items) := addPieces c net documents
  items.foldl (step task (if failFast then some flag else none)) { network }

end Estree
