import Estree.Dict
import Estree.Progress.Bar
import Estree.Progress.Bookkeeping
import Estree.Progress.Recording

/-!
# Networks of sinks

A sink takes progress reports. Some sinks only look, some keep what they are told, and some pass it
on: a relay hands every report to another sink, and a part hands it to the composite it is a part
of, which in turn reports on the whole to a sink of its own. Composites can be nested that way.

A `Network` is everything sinks refer to by index: flags, recordings, screens and composites. While
a composite delivers a report its sink is out on that report, so a question about cancellation that
would have to go through this sink is answered with no.

A report that is made to a part climbs from composite to composite. The sink of a composite is made
before the composite, so a climb passes every composite once at most, and their number bounds it.

## Main definitions

* `Sink.deliver` and `Network.climb`: what a report leads to;
* `Network.isCanceled`: whether the work is to be stopped;
* `Network.look`: what a composite shows of itself.
-/

namespace Estree.Progress

open Quantity

/-- A sink that writes down what it is told. -/
structure Log where
  /-- The name its notes carry. -/
  name : String
  /-- The flag that says whether to stop. -/
  flag : Option Nat := none
  /-- The composite that is looked at in each report. -/
  watch : Option String := none
  deriving DecidableEq, Repr

/-- What a relay does when the work is over for the first time. -/
structure Callback where
  /-- The name of the note that is made. -/
  name : String
  /-- The composite that is looked at. -/
  watch : Option String := none
  deriving DecidableEq, Repr

/-- Something that takes progress reports. -/
inductive Sink (α : Type) where
  /-- Ignores all reports. -/
  | silent
  /-- Ignores all reports; a flag says whether to stop. -/
  | flag (id : Nat)
  /-- Makes a note of every report. -/
  | log (log : Log)
  /-- Keeps a recording. -/
  | recording (id : Nat)
  /-- Draws a bar on a screen; a flag says whether to stop. -/
  | bar (bar : Bar α) (screen flag : Nat)
  /-- Hands every report to another sink, and then does something when the work is over. -/
  | relay (delegate : Sink α) (callback : Option Callback)
  /-- Is a part of a composite, with an index among its pieces. -/
  | part (composite index : Nat)
  deriving Inhabited

/-- Several pieces of work that are reported as one. -/
structure Composite (α : Type) where
  /-- What is known of the pieces. -/
  book : Bookkeeping α := {}
  /-- What the whole is reported to, unless it is out on a report. -/
  sink : Option (Sink α)

/-- What a composite shows of itself. -/
structure Look (α : Type) where
  /-- How much is done. -/
  fraction : α
  /-- How many pieces there are. -/
  pieces : Nat
  /-- Has the whole been over? -/
  isDone : Bool
  /-- Is the work to be stopped? -/
  isCanceled : Bool
  deriving DecidableEq, Repr

/-- Something that a sink has written down. -/
inductive Note (α : Type) where
  /-- A report, and what the watched composite, if one is watched, showed during it. -/
  | report (name : String) (report : Report α) (seen : Option (Option (Look α)))
  /-- The work is over, and what the watched composite showed. -/
  | callback (name : String) (seen : Option (Look α))

/-- Everything that sinks refer to. -/
structure Network (α : Type) where
  /-- The flags that say whether to stop. -/
  flags : Array Bool := #[]
  /-- The recordings. -/
  recordings : Array (Recording α) := #[]
  /-- The screens. -/
  screens : Array Screen := #[]
  /-- The composites. -/
  composites : Array (Composite α) := #[]
  /-- The names under which composites can be looked at. -/
  names : Dict Nat := []
  /-- The notes that were made, the first one first. -/
  notes : Array (Note α) := #[]
  deriving Inhabited

variable {α : Type}

/-! ### Cancellation -/

/-- Is a sink told to stop? `ask` answers for composites. -/
def Sink.isCanceled (net : Network α) (ask : Nat → Bool) : Sink α → Bool
  | silent => false
  | flag id | bar _ _ id => (net.flags[id]?).getD false
  | log l => (l.flag.bind fun id => net.flags[id]?).getD false
  | recording id => ((net.recordings[id]?).map Recording.canceled).getD false
  | relay delegate _ => delegate.isCanceled net ask
  | part c _ => ask c

namespace Network

/-- Is the sink of composite `c` told to stop? At most `levels` composites are asked in turn. -/
def compositeCanceled (net : Network α) : Nat → Nat → Bool
  | 0, _ => false
  | levels + 1, c =>
    match (net.composites[c]?).bind Composite.sink with
    | none => false
    | some sink => sink.isCanceled net (net.compositeCanceled levels)

/-- Is a sink told to stop? -/
def isCanceled (net : Network α) (sink : Sink α) : Bool :=
  sink.isCanceled net (net.compositeCanceled net.composites.size)

/-! ### Changing parts of a network -/

/-- Write to a screen. -/
def draw (net : Network α) (screen : Nat) (texts : List Styled) : Network α :=
  { net with screens := net.screens.modify screen fun s => texts.foldl Screen.show s }

/-- Set the bookkeeping of a composite. -/
def setBook (net : Network α) (c : Nat) (book : Bookkeeping α) : Network α :=
  { net with composites := net.composites.modify c fun k => { k with book } }

/-- Set the sink of a composite. -/
def setSink (net : Network α) (c : Nat) (sink : Option (Sink α)) : Network α :=
  { net with composites := net.composites.modify c fun k => { k with sink } }

/-- Make a flag that is not set. -/
def addFlag (net : Network α) : Network α × Nat :=
  ({ net with flags := net.flags.push false }, net.flags.size)

/-- Set a flag. -/
def raise (net : Network α) (id : Nat) : Network α :=
  { net with flags := net.flags.set! id true }

/-- The piece that a part stands for. -/
def piece? (net : Network α) : Sink α → Option (Piece α)
  | .part c i => (net.composites[c]?).bind fun k => k.book.pieces[i]?
  | _ => none

variable [Quantity α]

/-- What composite `c` shows of itself. -/
def look (net : Network α) (c : Nat) : Option (Look α) :=
  (net.composites[c]?).map fun k =>
    { fraction := k.book.fraction
      pieces := k.book.pieces.size
      isDone := k.book.completed
      isCanceled := net.compositeCanceled net.composites.size c }

/-- What the composite with the given name shows of itself. -/
def lookAt (net : Network α) (name : String) : Option (Look α) :=
  (net.names.get? name).bind net.look

/-! ### Reports -/

/-- Make a note. -/
def note (net : Network α) (n : Note α) : Network α := { net with notes := net.notes.push n }

/-- Keep a report in a recording. -/
def record (net : Network α) (id : Nat) (report : Report α) : Network α :=
  { net with recordings := net.recordings.modify id (Recording.receive report) }

end Network

variable [Quantity α]

/-- Hand a report to a sink; `climb` hands it to a piece of a composite. -/
def Sink.deliver (climb : Nat → Nat → Report α → Network α → Network α) (report : Report α)
    (net : Network α) : Sink α → Network α × Sink α
  | silent => (net, silent)
  | flag id => (net, flag id)
  | log l => (net.note (.report l.name report (l.watch.map net.lookAt)), log l)
  | recording id => (net.record id report, recording id)
  | bar b screen id =>
    let (b, texts) := b.receive report
    (net.draw screen texts, bar b screen id)
  | relay delegate callback =>
    let (net, delegate) := delegate.deliver climb report net
    match report, callback with
    | .done, some k =>
      (net.note (.callback k.name (k.watch.bind net.lookAt)), relay delegate none)
    | _, _ => (net, relay delegate callback)
  | part c i => (climb c i report net, part c i)

namespace Network

/-- Deliver what composite `c` emits. Its sink is out while it takes the report. -/
def emit (climb : Nat → Nat → Report α → Network α → Network α) (c : Nat) (net : Network α)
    (e : Emission α) : Network α :=
  let net := net.setBook c e.seen
  match (net.composites[c]?).bind Composite.sink with
  | none => net
  | some sink =>
    let (net, sink) := sink.deliver climb e.report (net.setSink c none)
    net.setSink c (some sink)

/-- Hand a report to piece `i` of composite `c`. At most `levels` composites are passed. -/
def climb : Nat → Nat → Nat → Report α → Network α → Network α
  | 0, _, _, _, net => net
  | levels + 1, c, i, report, net =>
    match net.composites[c]? with
    | none => net
    | some k =>
      let (book, emissions) := k.book.react i report
      (emissions.foldl (emit (climb levels) c) net).setBook c book

/-- Hand a report to a sink; gives the sink as it is afterwards. -/
def deliver (net : Network α) (report : Report α) (sink : Sink α) : Network α × Sink α :=
  sink.deliver (climb net.composites.size) report net

/-- Hand several reports to a sink, one after the other. -/
def deliverAll (net : Network α) (reports : List (Report α)) (sink : Sink α) :
    Network α × Sink α :=
  reports.foldl (fun (net, sink) report => net.deliver report sink) (net, sink)

/-! ### Building -/

/-- Make a composite that reports to `sink`: its total is one, of which nothing is done. -/
def addComposite (net : Network α) (sink : Sink α) : Network α × Nat :=
  let (net, sink) := net.deliverAll [.total one, .worked zero none] sink
  ({ net with composites := net.composites.push { sink := some sink } }, net.composites.size)

/-- Add a piece to composite `c`; gives the sink for reports on it. -/
def addPart (net : Network α) (c : Nat) (weight : α) : Network α × Sink α :=
  let index := ((net.composites[c]?).map fun k => k.book.pieces.size).getD 0
  ({ net with composites := net.composites.modify c fun k =>
      { k with book := k.book.register weight } }, .part c index)

end Network

/-- Reporting to a sink that stays the same when it takes a report, as a part does. -/
def Sink.receiver (sink : Sink α) : Receiver α (Network α) where
  receive report net := (net.deliver report sink).1
  isCanceled net := net.isCanceled sink

end Estree.Progress
