import Estree.CommandLine.Help
import Estree.CommandLine.Options
import Estree.Files.Discovery
import Estree.Outline.Text
import Estree.Regex.Reading
import Estree.Stats.Text
import Estree.Survey

/-!
# Running a command line

A run looks for documents, does with each what the options ask for, and writes the results. It says
on the way what was wrong; only a path that leads nowhere or a pattern that is not well-formed ends
it early.

## Main definitions

* `Options.task`: what is done with each document;
* `output`: what is written in the end;
* `run`: from arguments to an exit code and texts.
-/

namespace Estree.CommandLine

open Files (Place)
open Survey (Task)

/-- What a run comes to. -/
structure Outcome where
  /-- The exit code. -/
  code : Nat
  /-- What is written as the result. -/
  output : String
  /-- What is said on the way. -/
  messages : String
  deriving DecidableEq, Repr

/-- The name and the version of the program. -/
def versionLine : String := "eswalk 0.2.0\n"

/-- Something that the program says. -/
def remark (text : String) : String := "eswalk: " ++ text ++ "\n"

namespace Options

/-- What to look for. -/
def search (o : Options) : Files.SearchSettings where
  all := o.all
  ignore := o.ignore
  workers := o.jobs.getD 0

/-- What outlines are to show. -/
def outline (o : Options) : Outline.Settings where
  maxDepth := o.level
  collapse := o.collapse.map Kind.ofName
  nulls := o.walkNulls

/-- What is done with each document. -/
def task (o : Options) : Except Error Task :=
  match o.find with
  | some pattern =>
    match Regex.compile pattern with
    | .error fault => .error (.invalidRegex pattern fault)
    | .ok p => .ok (.search p.isMatch)
  | none => .ok (if o.stats then .count o.walkNulls else .outline o.outline)

/-- The kinds to be collapsed that are not known. They matter only where outlines are made. -/
def unknownKinds (o : Options) : List String :=
  if o.find.isSome || o.stats then []
  else o.collapse.filter fun name => (Kind.ofName name).isUnknown

end Options

/-- What is written in the end. -/
def output (o : Options) (settings : OutputSettings) (escapes : Bool) {α : Type}
    (s : Survey.State α) : String :=
  let reports := s.reports.toList
  if o.stats then
    let stats := Stats.ofTally s.tally
    if o.json then stats.toJson.pretty ++ "\n" else stats.spans.render escapes
  else if o.json then (Json.Value.array (reports.map DocumentReport.toJson)).pretty ++ "\n"
  else if o.find.isSome then
    let lines : Styled := reports.flatMap fun r => (r.found.getD []).flatMap (Found.spans r.path)
    lines.render escapes
  else
    let outlines : Styled := reports.flatMap fun r =>
      (r.outline.map fun outline => outline.titledSpans r.path settings.hiddenCounts).getD []
    outlines.render escapes ++ Outline.summary (reports.length - s.failed) s.nodes

/-- The screen that a progress bar is drawn on, if there is to be one. -/
def barScreen? (c : Console) (o : Options) : Option Progress.Screen :=
  if o.noProgress || !c.messagesAreTerminal then none
  else
    let settings : OutputSettings := { useColor := c.wantsColor o.colorMode true }
    some { name := "", colored := settings.colorChoice.escapes c, broken := false }

/-- The exit code after a survey. -/
def exitCode {α : Type} (o : Options) (s : Survey.State α) : Nat :=
  if o.strict && (0 < s.failed || 0 < s.unclean) then 2 else 0

/-- Do a task with the documents that the paths stand for. -/
def perform (here : Place) (c : Console) (o : Options) : Outcome :=
  match Files.discover here o.search o.paths with
  | .error e => ⟨1, "", remark e.message⟩
  | .ok paths =>
    let remarks := if paths.isEmpty then remark "warning: no documents found" else ""
    match o.task with
    | .error e => ⟨1, "", remarks ++ remark e.message⟩
    | .ok task =>
      let documents := paths.zip (Document.loadAll here paths)
      let s : Survey.State Float := survey task o.failFast (barScreen? c o) documents
      let settings : OutputSettings := { useColor := c.wantsColor o.colorMode c.outputIsTerminal }
      let drawn := String.join (s.network.screens.toList.map Progress.Screen.written)
      let unknown := o.unknownKinds.map fun name =>
        remark ("warning: --collapse: unknown node kind '" ++ name ++ "'")
      let failures := (s.reports.toList.filterMap DocumentReport.error).map remark
      { code := exitCode o s
        output := output o settings (settings.colorChoice.escapes c) s
        messages := remarks ++ String.join unknown ++ drawn ++ String.join failures }

/-- Run a command line in the folder `here`. -/
def run (here : Place) (c : Console) (args : List String) : Outcome :=
  match Options.ofArguments args with
  | .error (.help isFull) => ⟨0, Help.text isFull, ""⟩
  | .error .version => ⟨0, versionLine, ""⟩
  | .error (.wrong fault) => ⟨2, "", "error: " ++ fault.message ++ "\n"⟩
  | .ok o => perform here c o

end Estree.CommandLine
