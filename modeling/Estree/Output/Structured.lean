import Estree.Outline
import Estree.Search
import Estree.Stats

/-!
# Results as JSON

Members that say nothing are left out: an absent label, no hidden children, an empty list.
-/

namespace Estree

open Json (Value)

/-- A count that is left out when it is zero. -/
def Json.Value.positive? (n : Nat) : Option Value := if n = 0 then none else some (.ofNat n)

/-- A flag that is left out when it is not set. -/
def Json.Value.set? (b : Bool) : Option Value := if b then some (.bool true) else none

/-- A list that is left out when it is empty. -/
def Json.Value.filled? (items : List Value) : Option Value :=
  if items.isEmpty then none else some (.array items)

/-- A node of unknown kind. -/
def UnknownKind.toJson (u : UnknownKind) : Value :=
  .object [("kind", .string u.kind), ("node", .ofNat u.node)]

/-- What happened on a walk. -/
def WalkReport.toJson (r : WalkReport) : Value :=
  .ofFields [("visited", some (.ofNat r.visited)), ("skipped", some (.ofNat r.skipped)),
    ("synthesized", some (.ofNat r.synthesized)),
    ("unknown_kinds", Value.filled? (r.unknownKinds.toList.map UnknownKind.toJson))]

/-- One line of an outline. -/
def Outline.Entry.toJson (e : Outline.Entry) : Value :=
  .ofFields [("depth", some (.ofNat e.depth)), ("kind", some (.string e.kind.name)),
    ("label", e.label.map .string), ("hidden", Value.positive? e.hidden),
    ("synthetic", Value.set? e.synthetic)]

/-- An outline. -/
def Outline.toJson (o : Outline) : Value :=
  .ofFields [("entries", some (.array (o.entries.toList.map Outline.Entry.toJson))),
    ("walk", some o.walk.toJson), ("canceled", Value.set? o.canceled)]

/-- A node that a search has found. -/
def Found.toJson (f : Found) : Value :=
  .object [("kind", .string f.kind.name), ("label", .string f.label),
    ("path", .ofTexts (f.path.map Kind.name))]

/-- How many nodes of one kind there are. -/
def KindCount.toJson (k : KindCount) : Value :=
  .object [("kind", .string k.kind), ("count", .ofNat k.count)]

/-- The figures of one or more documents. -/
def Stats.toJson (s : Stats) : Value :=
  .ofFields [("documents", some (.ofNat s.documents)), ("nodes", some (.ofNat s.nodes)),
    ("max_depth", some (.ofNat s.maxDepth)), ("unknown", some (.ofNat s.unknown)),
    ("by_kind", Value.filled? (s.byKind.map KindCount.toJson))]

/-- What became of one document. -/
structure DocumentReport where
  /-- The file. -/
  path : String
  /-- Its outline, if one was asked for. -/
  outline : Option Outline := none
  /-- What was found in it, if a search was asked for. -/
  found : Option (List Found) := none
  /-- What went wrong when it was read. -/
  error : Option String := none

/-- The report on a document that could not be read. -/
def DocumentReport.failed (path error : String) : DocumentReport where
  path
  error := some error

/-- What became of one document. -/
def DocumentReport.toJson (r : DocumentReport) : Value :=
  .ofFields [("path", some (.string r.path)), ("outline", r.outline.map Outline.toJson),
    ("matches", r.found.map fun found => .array (found.map Found.toJson)),
    ("error", r.error.map .string)]

end Estree
