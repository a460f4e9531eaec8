import Estree.Progress.Network

/-!
# Sessions on a network of sinks

In a session everything has a name. Composites, handles, flags and recordings have names of their
own each; a flag is made when its name is first used. A handle is a sink that can be reported to, or
that can be handed to something else, which takes it away from its name.
-/

namespace Estree.Progress

/-- How a sink is to be made. -/
inductive SinkSpec where
  /-- One that ignores all reports. -/
  | silent
  /-- One that ignores all reports, with a flag. -/
  | flag (name : String)
  /-- One that makes notes, with a flag and a composite to watch. -/
  | log (name : String) (flag watch : Option String)
  /-- One that keeps a recording. -/
  | recording (name : String) (cancelAfter : Option Nat)
  /-- A bar, with the flag it observes and a name for that flag. -/
  | bar (name : String) (colored broken : Bool) (flag ownFlag : Option String)
  /-- A relay. -/
  | relay (delegate : Option SinkSpec) (callback : Option Callback)
  /-- The handle with the given name. -/
  | handle (name : String)

/-- What a session refuses. -/
inductive Refusal where
  /-- No handle has this name. -/
  | noHandle
  /-- No composite has this name. -/
  | noComposite
  /-- No recording has this name. -/
  | noRecording
  /-- The handle is not a part of a composite. -/
  | notPart
  deriving DecidableEq, Repr

/-- The wording of a refusal. -/
def Refusal.message : Refusal → String
  | .noHandle => "no such handle"
  | .noComposite => "no such composite"
  | .noRecording => "no such recording"
  | .notPart => "not a sub-progress"

/-- Something that is done in a session. -/
inductive Action (α : Type) where
  /-- Make a composite. -/
  | composite (name : String) (sink : SinkSpec)
  /-- Make a handle. -/
  | sink (name : String) (sink : SinkSpec)
  /-- Make a handle that is a part of a composite; without a weight it counts once. -/
  | part (name composite : String) (weight : Option α)
  /-- Report to a handle. -/
  | report (name : String) (reports : List (Report α))
  /-- Ask a handle whether to stop. -/
  | canceled (name : String)
  /-- Ask for the numbers of a part. -/
  | info (name : String)
  /-- Set a flag. -/
  | cancel (flag : String)
  /-- Ask for a flag. -/
  | flagSet (flag : String)
  /-- Ask a composite whether to stop. -/
  | compositeCanceled (name : String)
  /-- Let a recording ask for a stop. -/
  | cancelRecording (name : String)
  /-- Ask for a recording. -/
  | recorded (name : String)
  /-- Drop a handle. -/
  | drop (name : String)
  /-- Drop the name of a composite; its parts go on. -/
  | dropComposite (name : String)

/-- What an action answers. -/
inductive Reply (α : Type) where
  /-- Nothing. -/
  | nothing
  /-- An amount. -/
  | amount (x : α)
  /-- Yes or no. -/
  | truth (b : Bool)
  /-- The numbers of a part. -/
  | piece (p : Piece α)
  /-- A recording. -/
  | recording (r : Recording α)
  /-- The action cannot be done. -/
  | refused (r : Refusal)

/-- A session under way. -/
structure Session (α : Type) where
  /-- The network. -/
  network : Network α := {}
  /-- The handles. -/
  handles : Dict (Sink α) := []
  /-- The names of the flags. -/
  flags : Dict Nat := []
  /-- The names of the recordings. -/
  recordings : Dict Nat := []
  deriving Inhabited

/-- Forget a name. -/
def forget {β : Type} (d : Dict β) (name : String) : Dict β := d.filter fun e => e.1 != name

namespace Session

variable {α : Type} [Quantity α]

/-- The flag with the given name, which is made if there is none. -/
def flag (s : Session α) (name : String) : Session α × Nat :=
  match s.flags.get? name with
  | some id => (s, id)
  | none =>
    let (network, id) := s.network.addFlag
    ({ s with network, flags := s.flags.insert name id }, id)

/-- The flag with the given name, if a name is given. -/
def flag? (s : Session α) : Option String → Session α × Option Nat
  | none => (s, none)
  | some name =>
    let (s, id) := s.flag name
    (s, some id)

/-- Make a sink. -/
def build (s : Session α) : SinkSpec → Except Refusal (Session α × Sink α)
  | .silent => .ok (s, .silent)
  | .flag name =>
    let (s, id) := s.flag name
    .ok (s, .flag id)
  | .log name flag watch =>
    let (s, id) := s.flag? flag
    .ok (s, .log { name, flag := id, watch })
  | .recording name cancelAfter =>
    let id := s.network.recordings.size
    .ok ({ s with
      network := { s.network with recordings := s.network.recordings.push { cancelAfter } }
      recordings := s.recordings.insert name id }, .recording id)
  | .bar name colored broken flag ownFlag =>
    let (s, observed) := s.flag? flag
    let (network, id) :=
      match observed with
      | some id => (s.network, id)
      | none => s.network.addFlag
    let screen := network.screens.size
    let network := { network with screens := network.screens.push { name, colored, broken } }
    let flags := (ownFlag.map fun own => s.flags.insert own id).getD s.flags
    .ok ({ s with network, flags }, .bar .fresh screen id)
  | .relay none callback => .ok (s, .relay .silent callback)
  | .relay (some spec) callback => do
    let (s, delegate) ← s.build spec
    return (s, .relay delegate callback)
  | .handle name =>
    match s.handles.get? name with
    | none => .error .noHandle
    | some sink => .ok ({ s with handles := forget s.handles name }, sink)

/-- Put a changed network in the place of the old one. -/
def setNetwork (s : Session α) (network : Network α) : Session α := { s with network }

/-- Do an action. -/
def act (s : Session α) (action : Action α) : Except Refusal (Session α × Reply α) :=
  match action with
  | .composite name spec => do
    let (s, sink) ← s.build spec
    let (network, c) := s.network.addComposite sink
    return (s.setNetwork { network with names := network.names.insert name c }, .nothing)
  | .sink name spec => do
    let (s, sink) ← s.build spec
    return ({ s with handles := s.handles.insert name sink }, .nothing)
  | .part name composite weight =>
    match s.network.names.get? composite with
    | none => .error .noComposite
    | some c =>
      let (network, sink) := s.network.addPart c (weight.getD Quantity.one)
      let reply := ((network.piece? sink).map fun p => Reply.amount p.weight).getD .nothing
      .ok ({ s with network, handles := s.handles.insert name sink }, reply)
  | .report name reports =>
    match s.handles.get? name with
    | none => .error .noHandle
    | some sink =>
      let (network, sink) := s.network.deliverAll reports sink
      .ok ({ s with network, handles := s.handles.insert name sink }, .nothing)
  | .canceled name =>
    match s.handles.get? name with
    | none => .error .noHandle
    | some sink => .ok (s, .truth (s.network.isCanceled sink))
  | .info name =>
    match s.handles.get? name with
    | none => .error .noHandle
    | some sink =>
      match s.network.piece? sink with
      | none => .error .notPart
      | some p => .ok (s, .piece p)
  | .cancel name =>
    let (s, id) := s.flag name
    .ok (s.setNetwork (s.network.raise id), .nothing)
  | .flagSet name =>
    let (s, id) := s.flag name
    .ok (s, .truth (s.network.isCanceled (.flag id)))
  | .compositeCanceled name =>
    match (s.network.names.get? name).bind s.network.look with
    | none => .error .noComposite
    | some look => .ok (s, .truth look.isCanceled)
  | .cancelRecording name =>
    match s.recordings.get? name with
    | none => .error .noRecording
    | some id =>
      let recordings := s.network.recordings.modify id Recording.cancel
      .ok (s.setNetwork { s.network with recordings }, .nothing)
  | .recorded name =>
    match (s.recordings.get? name).bind fun id => s.network.recordings[id]? with
    | none => .error .noRecording
    | some r => .ok (s, .recording r)
  | .drop name =>
    let there := (s.handles.get? name).isSome
    .ok ({ s with handles := forget s.handles name }, .truth there)
  | .dropComposite name =>
    let there := (s.network.names.get? name).isSome
    .ok (s.setNetwork { s.network with names := forget s.network.names name }, .truth there)

/-- What an action answers and what has been noted and written during it. -/
structure Answer (α : Type) where
  /-- The answer. -/
  reply : Reply α
  /-- The notes that were made, the first one first. -/
  notes : List (Note α)
  /-- What was written, by screen, in the order the screens were made. -/
  written : List (String × String)
  /-- What the composites that have a name show of themselves afterwards. -/
  looks : List (String × Look α)

/-- Forget what has been noted and written. -/
def clearNotes (s : Session α) : Session α :=
  s.setNetwork { s.network with
    notes := #[]
    screens := s.network.screens.map fun screen => { screen with written := "" } }

/-- Do an action and say what came of it. An action that is refused changes nothing. -/
def step (s : Session α) (action : Action α) : Session α × Answer α :=
  let (s, reply) :=
    match s.clearNotes.act action with
    | .ok result => result
    | .error refusal => (s.clearNotes, .refused refusal)
  let net := s.network
  (s, { reply
        notes := net.notes.toList
        written := (net.screens.toList.map fun screen => (screen.name, screen.written)).filter
          fun entry => !entry.2.isEmpty
        looks := net.names.filterMap fun (name, c) => (net.look c).map (name, ·) })

end Session

end Estree.Progress
