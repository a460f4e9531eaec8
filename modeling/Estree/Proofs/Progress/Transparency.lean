import Estree.Proofs.Progress.Flattening
import Estree.Proofs.Progress.RelayNotes

/-!
# Nobody takes notice of a relay

Here sessions are compared in which the same is done, but for relays: in the one session sinks are
made with relays in front of them, and in the other one without. After any actions the one session
is the other one without its relays, and what was answered, noted by sinks, drawn and recorded
meanwhile is the same.

## Main results

* `Session.bare_step`: an action with and without relays;
* `relays_transparent`: relays make no difference to anybody else, and when they make their notes.
-/

namespace Estree.Progress

open Quantity

variable {α : Type}

/-! ### Sessions without relays -/

/-- The sink is made without relays. A relay in front of no sink lets nothing through. -/
def SinkSpec.bare : SinkSpec → SinkSpec
  | relay none _ => silent
  | relay (some spec) _ => spec.bare
  | spec => spec

/-- The action without relays. -/
def Action.bare : Action α → Action α
  | composite name spec => composite name spec.bare
  | sink name spec => sink name spec.bare
  | action => action

theorem forget_mapValues {β γ : Type} (d : Dict β) (f : β → γ) (name : String) :
    (forget d name).map (fun e => (e.1, f e.2)) = forget (d.map fun e => (e.1, f e.2)) name := by
  unfold forget
  rw [List.filter_map]
  rfl

namespace Session

/-- The session without relays. -/
def bare (s : Session α) : Session α :=
  { s with
    network := s.network.bare
    handles := s.handles.map fun e => (e.1, e.2.bare) }

variable (s : Session α)

theorem flags_bare : s.bare.flags = s.flags := rfl

theorem recordings_bare : s.bare.recordings = s.recordings := rfl

theorem names_bare : s.bare.network.names = s.network.names := rfl

theorem getElem?_recordings_bare (id : Nat) :
    s.bare.network.recordings[id]? = s.network.recordings[id]? := rfl

theorem get?_handles_bare (name : String) :
    s.bare.handles.get? name = (s.handles.get? name).map Sink.bare :=
  Dict.get?_mapValues s.handles Sink.bare name

/-- The action asks for the numbers of a part, but the handle is a relay. -/
def AsksRelay (action : Action α) : Prop :=
  ∃ name delegate callback, action = .info name ∧
    s.handles.get? name = some (.relay delegate callback)

end Session

variable [Quantity α]

/-- The answer without the notes that relays have made. -/
def Session.Answer.bare (answer : Session.Answer α) : Session.Answer α :=
  { answer with notes := answer.notes.filter Note.isReport }

namespace Session

variable (s : Session α)

omit [Quantity α] in
theorem bare_flag (name : String) :
    s.bare.flag name = Prod.map Session.bare id (s.flag name) := by
  simp only [flag, flags_bare]
  cases s.flags.get? name <;> rfl

omit [Quantity α] in
theorem bare_flag? (name : Option String) :
    s.bare.flag? name = Prod.map Session.bare id (s.flag? name) := by
  cases name with
  | none => rfl
  | some name =>
    simp only [flag?, bare_flag]
    rfl

/-- Without relays a sink is made that is the same without relays. -/
theorem bare_build (spec : SinkSpec) :
    s.bare.build spec.bare = (s.build spec).map (Prod.map Session.bare Sink.bare) := by
  fun_induction build s spec with
  | case1 => rfl
  | case2 name s₁ id hflag =>
    simp only [SinkSpec.bare, build, bare_flag, hflag]
    rfl
  | case3 name flag watch s₁ id hflag =>
    simp only [SinkSpec.bare, build, bare_flag?, hflag]
    rfl
  | case4 => rfl
  | case5 name colored broken flag ownFlag s₁ observed hflag network id hobserved =>
    simp only [SinkSpec.bare, build, bare_flag?, hflag]
    cases observed <;> cases hobserved <;> rfl
  | case6 => rfl
  | case7 spec callback ih =>
    rw [SinkSpec.bare, ih]
    cases s.build spec <;> rfl
  | case8 name hnone =>
    simp only [SinkSpec.bare, build, get?_handles_bare, hnone]
    rfl
  | case9 name sink hsome =>
    simp only [SinkSpec.bare, build, get?_handles_bare, hsome, Option.map_some]
    refine congrArg (fun handles => Except.ok ({ s.bare with handles }, sink.bare)) ?_
    exact (forget_mapValues s.handles Sink.bare name).symm

omit [Quantity α] in
theorem bare_insert (network : Network α) (name : String) (sink : Sink α) :
    Session.bare { s with network, handles := s.handles.insert name sink } =
      { s.bare with network := network.bare, handles := s.bare.handles.insert name sink.bare } :=
  congrArg (fun handles => { s.bare with network := network.bare, handles })
    (Dict.insert_mapValues s.handles Sink.bare name sink)

/-- **An action without relays does the same**, and replies the same, unless a relay is asked for
numbers. -/
theorem bare_act (action : Action α) (h : ¬ s.AsksRelay action) :
    s.bare.act action.bare = (s.act action).map (Prod.map Session.bare id) := by
  cases action with
  | composite name spec =>
    simp only [Action.bare, act, bare_build]
    cases s.build spec with
    | error refusal => rfl
    | ok r =>
      obtain ⟨s₁, sink⟩ := r
      have hadd : s₁.bare.network.addComposite sink.bare = _ :=
        (s₁.network.bare_addComposite sink).symm
      simp only [Except.map, Prod.map, bind, Except.bind, hadd]
      rfl
  | sink name spec =>
    simp only [Action.bare, act, bare_build]
    cases s.build spec with
    | error refusal => rfl
    | ok r =>
      obtain ⟨s₁, sink⟩ := r
      exact congrArg (fun s => Except.ok (s, Reply.nothing))
        (s₁.bare_insert s₁.network name sink).symm
  | part name composite weight =>
    simp only [Action.bare, act, names_bare]
    cases s.network.names.get? composite with
    | none => rfl
    | some c =>
      have hadd : s.bare.network.addPart c (weight.getD one) = _ :=
        (s.network.bare_addPart c (weight.getD one)).symm
      simp only [hadd, Prod.map_fst, Prod.map_snd, Network.piece?_bare]
      exact congrArg (fun s => Except.ok (s, _)) (s.bare_insert _ name _).symm
  | report name reports =>
    simp only [Action.bare, act, get?_handles_bare]
    cases s.handles.get? name with
    | none => rfl
    | some sink =>
      have hall : s.bare.network.deliverAll reports sink.bare = _ :=
        (s.network.bare_deliverAll reports sink).symm
      simp only [Option.map_some, hall]
      exact congrArg (fun s => Except.ok (s, Reply.nothing)) (s.bare_insert _ name _).symm
  | canceled name =>
    simp only [Action.bare, act, get?_handles_bare]
    cases s.handles.get? name with
    | none => rfl
    | some sink =>
      exact congrArg (fun b => Except.ok (s.bare, Reply.truth b)) (s.network.isCanceled_bare sink)
  | info name =>
    simp only [Action.bare, act, get?_handles_bare]
    cases hs : s.handles.get? name with
    | none => rfl
    | some sink =>
      have hbare : sink.bare = sink := by
        cases sink with
        | relay delegate callback => exact absurd ⟨name, delegate, callback, rfl, hs⟩ h
        | _ => rfl
      have hpiece : s.bare.network.piece? sink = s.network.piece? sink := s.network.piece?_bare sink
      simp only [Option.map_some, hbare, hpiece]
      cases s.network.piece? sink <;> rfl
  | cancel name =>
    simp only [Action.bare, act, bare_flag]
    rfl
  | flagSet name =>
    simp only [Action.bare, act, bare_flag]
    rfl
  | compositeCanceled name =>
    have hlook : s.bare.network.look = s.network.look := funext s.network.look_bare
    simp only [Action.bare, act, hlook, names_bare]
    cases (s.network.names.get? name).bind s.network.look <;> rfl
  | cancelRecording name =>
    simp only [Action.bare, act, recordings_bare]
    cases s.recordings.get? name <;> rfl
  | recorded name =>
    simp only [Action.bare, act, recordings_bare, getElem?_recordings_bare]
    cases (s.recordings.get? name).bind fun id => s.network.recordings[id]? <;> rfl
  | drop name =>
    simp only [Action.bare, act, get?_handles_bare, Option.isSome_map]
    exact congrArg (fun handles => Except.ok ({ s.bare with handles }, _))
      (forget_mapValues s.handles Sink.bare name).symm
  | dropComposite name => rfl

omit [Quantity α] in
theorem bare_clearNotes : s.bare.clearNotes = s.clearNotes.bare :=
  congrArg (fun notes => s.bare.setNetwork { s.clearNotes.network.bare with notes })
    (Array.filter_empty (p := Note.isReport)).symm

/-- To ask for numbers changes nothing. -/
theorem step_info (name : String) : (s.step (.info name)).1 = s.clearNotes := by
  simp only [step, act]
  cases s.clearNotes.handles.get? name with
  | none => rfl
  | some sink =>
    simp only
    cases s.clearNotes.network.piece? sink <;> rfl

/-- What is read off the session that an action has led to. -/
def answer (reply : Reply α) : Answer α where
  reply
  notes := s.network.notes.toList
  written := (s.network.screens.toList.map fun screen => (screen.name, screen.written)).filter
    fun entry => !entry.2.isEmpty
  looks := s.network.names.filterMap fun (name, c) => (s.network.look c).map (name, ·)

theorem step_of_ok {action : Action α} {r : Session α × Reply α}
    (h : s.clearNotes.act action = .ok r) : s.step action = (r.1, r.1.answer r.2) := by
  unfold step
  rw [h]
  rfl

theorem step_of_error {action : Action α} {refusal : Refusal}
    (h : s.clearNotes.act action = .error refusal) :
    s.step action = (s.clearNotes, s.clearNotes.answer (.refused refusal)) := by
  unfold step
  rw [h]
  rfl

theorem bare_answer (reply : Reply α) : s.bare.answer reply = (s.answer reply).bare := by
  have hnotes : s.bare.network.notes.toList = s.network.notes.toList.filter Note.isReport :=
    Array.toList_filter
  have hlook : s.bare.network.look = s.network.look := funext s.network.look_bare
  simp only [answer, Answer.bare, hnotes, hlook]
  rfl

/-- **Relays change nothing for the others**, neither in what is answered nor in what is noted,
drawn and shown. -/
theorem bare_step (action : Action α) :
    (s.bare.step action.bare).1 = (s.step action).1.bare ∧
      (¬ s.AsksRelay action → (s.bare.step action.bare).2 = (s.step action).2.bare) := by
  by_cases hasks : s.AsksRelay action
  · obtain ⟨name, delegate, callback, rfl, hs⟩ := hasks
    refine ⟨?_, fun hno => absurd ⟨name, delegate, callback, rfl, hs⟩ hno⟩
    rw [step_info, ← bare_clearNotes]
    exact s.bare.step_info name
  · have hact : s.bare.clearNotes.act action.bare =
        (s.clearNotes.act action).map (Prod.map Session.bare id) :=
      s.bare_clearNotes ▸ s.clearNotes.bare_act action hasks
    cases hr : s.clearNotes.act action with
    | error refusal =>
      rw [hr] at hact
      rw [step_of_error s hr, step_of_error s.bare hact, bare_clearNotes]
      exact ⟨rfl, fun _ => s.clearNotes.bare_answer _⟩
    | ok r =>
      rw [hr] at hact
      rw [step_of_ok s hr, step_of_ok s.bare hact]
      exact ⟨rfl, fun _ => r.1.bare_answer r.2⟩

/-- **After any actions a session is the session with relays**, without them. -/
theorem bare_after (actions : List (Action α)) :
    after (actions.map Action.bare) = (after actions).bare := by
  have hempty : Session.bare ({} : Session α) = {} := by simp [Session.bare, Network.bare]
  have hrun : actions.foldl (fun s action => (s.step action.bare).1) (Session.bare {}) =
      Session.bare (actions.foldl (fun s action => (s.step action).1) {}) :=
    List.foldl_hom Session.bare fun s action => (s.bare_step action).1
  unfold after
  rw [List.foldl_map, ← hrun, hempty]

end Session

open Network

/-- **Relays make no difference to anybody else.**

After any actions, a session in which sinks were made with relays is the one in which the same
actions were done without: its recordings, its screens, its flags and the bookkeeping of its
composites are the same, and so is every answer that is not about the numbers of a relay, with the
notes that logs have made and what they saw. So it is with what composites and pieces show. Whoever
asks for a stop from behind relays and composites is told what the bottom sink says.

When a report is made to a sink, some composites end by it, the outermost first. The relays in front
of their sinks make their notes then, in this order and for each the innermost first, and after them
those in front of the sink itself, if the report is an end. In the course of any operations on
pieces it is just the composites that end whose relays make their notes, each once, and a composite
ends when its sink is told the end. Whatever is handed to a relay, it makes its note on the first
end, right after its delegate has taken it, and is not noticed otherwise. One that has no delegate
leaves everything as it is but for its note. -/
theorem relays_transparent :
    (∀ actions : List (Action α),
      let s := Session.after actions
      let net := s.network
      Session.after (actions.map Action.bare) = s.bare ∧
      (∀ action, ¬ s.AsksRelay action →
        (s.bare.step action.bare).2 = (s.step action).2.bare) ∧
      (∀ c, s.bare.network.look c = net.look c) ∧
      (∀ t, s.bare.network.at? t = net.at? t) ∧
      (∀ name sink, s.handles.get? name = some sink → ∃ bottom, bottom.IsBottom ∧
        net.EndsIn sink bottom ∧ net.isCanceled sink = net.isCanceled bottom) ∧
      (∀ c look, net.look c = some look → look.isDone = net.isOver c ∧
        ∃ bottom, bottom.IsBottom ∧ look.isCanceled = net.isCanceled bottom ∧
          ∀ i, net.EndsIn (.part c i) bottom ∧
            net.isCanceled (.part c i) = net.isCanceled bottom) ∧
      (∀ report sink, ∃ ended base, net.Ends ended base ∧ ended.Pairwise (· < ·) ∧
        (net.deliver report sink).1.composites = base.composites ∧
        (net.deliver report sink).1.ran = base.ran ++ (if report.isDone then sink.due else []) ∧
        (net.deliver report sink).2.due = if report.isDone then [] else sink.due) ∧
      ∀ ops, ∃ ended, net.Ends ended (net.operateAll ops)) ∧
    (∀ (net : Network α) (c : Nat), c < net.composites.size → ∀ levels i report,
      .done ∈ (net.taken (levels + 1) c i report).map Prod.fst ↔
        (net.climb (levels + 1) c i report).isOver c = true ∧ net.isOver c = false) ∧
    ∀ (k : Callback) (handings : List (Handing α)),
      let first := handings.findIdx fun h => h.report.isDone
      (∀ delegate, (Sink.relay delegate (some k)).takes handings =
        (delegate.takes handings).modify first k.run) ∧
      (Sink.relay .silent (some k)).takes handings =
        (handings.map Handing.net).modify first k.run := by
  refine ⟨fun actions => ?_, fun net c hc levels i report => net.done_taken_iff hc levels i report,
    fun k handings => ⟨fun delegate => delegate.takes_relay k handings, ?_⟩⟩
  · have hsound := Session.sound_after actions
    refine ⟨Session.bare_after actions, fun action => (Session.bare_step _ action).2, look_bare _,
      at?_bare _, fun name sink hs => ?_, fun c look hlook => ⟨?_, ?_⟩, fun report sink => ?_,
      fun ops => ?_⟩
    · obtain ⟨bottom, hends, hask⟩ := hsound.layered.endsIn (hsound.handle hs)
      exact ⟨bottom, hends.isBottom, hends, hask⟩
    · rw [isOver_eq_look, hlook, Option.any_some]
    · obtain ⟨k, hk, rfl⟩ := Option.map_eq_some_iff.mp hlook
      have hc := (Array.getElem?_eq_some_iff.mp hk).1
      obtain ⟨bottom, hends, hask⟩ := hsound.layered.endsIn_part hc hc
      exact ⟨bottom, (hends 0).isBottom, hask, fun i => ⟨hends i, hask⟩⟩
    · exact ends_deliver hsound.layered.downward report sink
    · exact ends_operateAll hsound.layered.downward ops
  · rw [Sink.takes_relay, Sink.takes_silent]

/-- A composite behind a relay, and one behind two relays that is its only piece and has two pieces
itself. One of these is over. -/
def relayed : List (Action ℚ) :=
  [.composite "outer" (.relay (some (.log "root" none (some "outer"))) (some ⟨"last", none⟩)),
    .part "piece" "outer" none,
    .composite "inner" (.relay (some (.relay (some (.handle "piece")) (some ⟨"near", none⟩)))
      (some ⟨"far", some "outer"⟩)),
    .part "left" "inner" none, .part "right" "inner" none, .report "left" [.done]]

theorem relayed_transparent :
    (∃ bottom, bottom.IsBottom ∧
      (Session.after relayed).network.EndsIn (.part 1 1) bottom) ∧
    ((Session.after (relayed.map Action.bare)).step (.report "right" [.done, .done])).2 =
      ((Session.after relayed).step (.report "right" [.done, .done])).2.bare ∧
    ((Session.after relayed).step (.report "right" [.done, .done])).2.notes.filterMap
      Note.callback? = ["last", "near", "far"] := by
  obtain ⟨hsessions, -⟩ := relays_transparent (α := ℚ)
  obtain ⟨hbare, hanswers, -, -, -, hparts, -⟩ := hsessions relayed
  have hlook : ((Session.after relayed).network.look 1).isSome := by decide +kernel
  obtain ⟨look, hlook⟩ := Option.isSome_iff_exists.mp hlook
  obtain ⟨-, bottom, hbottom, -, hends⟩ := hparts 1 look hlook
  refine ⟨⟨bottom, hbottom, (hends 1).1⟩, ?_, by decide +kernel⟩
  rw [hbare]
  refine hanswers (.report "right" [.done, .done]) ?_
  rintro ⟨_, _, _, ⟨⟩, _⟩

end Estree.Progress
