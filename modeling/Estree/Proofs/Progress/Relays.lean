import Estree.Proofs.Progress.Climbing

/-!
# Relays in front of sinks

A relay hands every report to another sink, and makes a note when the work is over. Relays may stand
one in front of the other, between a composite and its sink, or around a part of a composite that is
used as a sink. Nobody takes notice of them: without its relays a network does the same, and all
that is missing in the end are the notes of the relays.

Taking relays away commutes with everything that is done to a network, so a report that climbs can
be followed with and without them. The induction is on the number of composites that may be passed,
as in the climb itself.

## Main results

* `Network.bare_climb`, `Network.bare_deliver`: reports with and without relays;
* `Sink.takes_relay`: when a relay makes its note, over all the reports it ever takes;
* `Network.Layered.endsIn`: reports end in a bottom sink, which is also who asks for a stop.
-/

namespace Estree.Progress

open Quantity

variable {α : Type}

/-! ### Without relays -/

/-- The sink behind the relays. -/
def Sink.bare : Sink α → Sink α
  | relay delegate _ => delegate.bare
  | sink => sink

/-- Is this the note of a sink that has taken a report, and not that of a relay? -/
def Note.isReport : Note α → Bool
  | report _ _ _ => true
  | callback _ _ => false

namespace Network

/-- The network without relays, and without the notes that relays have made. -/
def bare (net : Network α) : Network α :=
  { net with
    composites := net.composites.map fun k => { k with sink := k.sink.map Sink.bare }
    notes := net.notes.filter Note.isReport }

variable (net : Network α)

@[simp] theorem size_bare : net.bare.composites.size = net.composites.size := Array.size_map

theorem composites_bare (c : Nat) :
    net.bare.composites[c]? =
      (net.composites[c]?).map fun k => { k with sink := k.sink.map Sink.bare } :=
  Array.getElem?_map

@[simp] theorem sink?_bare (c : Nat) : net.bare.sink? c = (net.sink? c).map Sink.bare := by
  unfold sink?
  rw [composites_bare]
  cases net.composites[c]? <;> rfl

@[simp] theorem book?_bare (c : Nat) : net.bare.book? c = net.book? c := by
  unfold book?
  rw [composites_bare]
  cases net.composites[c]? <;> rfl

@[simp] theorem at?_bare (t : Nat × Nat) : net.bare.at? t = net.at? t := by
  rw [at?, book?_bare]
  rfl

theorem bare_modify {f g : Composite α → Composite α}
    (h : ∀ k, { f k with sink := (f k).sink.map Sink.bare } =
      g { k with sink := k.sink.map Sink.bare }) (c : Nat) :
    bare { net with composites := net.composites.modify c f } =
      { net.bare with composites := net.bare.composites.modify c g } := by
  refine congrArg (fun composites => { net.bare with composites }) (Array.ext_getElem? fun d => ?_)
  rw [Array.getElem?_map, Array.getElem?_modify, Array.getElem?_modify, composites_bare]
  split
  · cases net.composites[d]? with
    | none => rfl
    | some k => exact congrArg some (h k)
  · rfl

@[simp] theorem bare_setBook (c : Nat) (book : Bookkeeping α) :
    (net.setBook c book).bare = net.bare.setBook c book :=
  net.bare_modify (fun _ => rfl) c

@[simp] theorem bare_setSink (c : Nat) (sink : Option (Sink α)) :
    (net.setSink c sink).bare = net.bare.setSink c (sink.map Sink.bare) :=
  net.bare_modify (fun _ => rfl) c

@[simp] theorem bare_note_callback (name : String) (seen : Option (Look α)) :
    (net.note (.callback name seen)).bare = net.bare :=
  congrArg (fun notes => { net.bare with notes })
    (Array.filter_push_of_neg Bool.false_ne_true (Array.size_push _))

@[simp] theorem bare_note_report (name : String) (report : Report α)
    (seen : Option (Option (Look α))) :
    (net.note (.report name report seen)).bare = net.bare.note (.report name report seen) :=
  congrArg (fun notes => { net.bare with notes })
    (Array.filter_push_of_pos rfl (Array.size_push _))

/-! ### What is asked -/

/-- Relays answer what the sink behind them answers. -/
theorem sink_isCanceled_bare (sink : Sink α) (ask : Nat → Bool) :
    sink.bare.isCanceled net.bare ask = sink.isCanceled net ask := by
  induction sink with
  | relay delegate callback ih => exact ih
  | _ => rfl

@[simp] theorem compositeCanceled_bare (levels c : Nat) :
    net.bare.compositeCanceled levels c = net.compositeCanceled levels c := by
  induction levels generalizing c with
  | zero => rfl
  | succ levels ih =>
    have hask : net.bare.compositeCanceled levels = net.compositeCanceled levels := funext ih
    have hsink := net.sink?_bare c
    unfold sink? at hsink
    rw [compositeCanceled, compositeCanceled, hsink, hask]
    cases (net.composites[c]?).bind Composite.sink with
    | none => rfl
    | some sink => exact net.sink_isCanceled_bare sink _

/-- **Relays answer what the sink behind them answers.** -/
@[simp] theorem isCanceled_bare (sink : Sink α) :
    net.bare.isCanceled sink.bare = net.isCanceled sink := by
  have hask : net.bare.compositeCanceled net.bare.composites.size =
      net.compositeCanceled net.composites.size := by
    rw [size_bare]
    exact funext (net.compositeCanceled_bare _)
  unfold isCanceled
  rw [hask, sink_isCanceled_bare]

@[simp] theorem piece?_bare (sink : Sink α) : net.bare.piece? sink = net.piece? sink := by
  cases sink with
  | part c i =>
    unfold piece?
    simp only [composites_bare]
    cases net.composites[c]? <;> rfl
  | _ => rfl

variable [Quantity α]

@[simp] theorem look_bare (c : Nat) : net.bare.look c = net.look c := by
  unfold look
  rw [composites_bare, size_bare]
  cases net.composites[c]? with
  | none => rfl
  | some k => simp only [Option.map_some, compositeCanceled_bare]

@[simp] theorem lookAt_bare (name : String) : net.bare.lookAt name = net.lookAt name :=
  congrArg (Option.bind (net.names.get? name)) (funext net.look_bare)

/-! ### Reports -/

variable {climb : Nat → Nat → Report α → Network α → Network α}

/-- A sink takes a report as it would without the relays in front of it. -/
theorem bare_sink_deliver (hclimb : ∀ c i report net, (climb c i report net).bare =
    climb c i report net.bare) (report : Report α) (sink : Sink α) :
    Prod.map bare Sink.bare (sink.deliver climb report net) =
      sink.bare.deliver climb report net.bare := by
  induction sink with
  | relay delegate callback ih =>
    simp only [Sink.deliver]
    split
    · rw [Prod.map_apply, bare_note_callback]
      exact ih
    · exact ih
  | part c i => exact Prod.ext (hclimb c i report net) rfl
  | log l =>
    have hlook : l.watch.map net.bare.lookAt = l.watch.map net.lookAt :=
      congrArg (l.watch.map ·) (funext net.lookAt_bare)
    refine Prod.ext ?_ rfl
    rw [Prod.map_fst, Sink.deliver, bare_note_report, ← hlook]
    rfl
  | _ => rfl

theorem bare_emit (hclimb : ∀ c i report net, (climb c i report net).bare =
    climb c i report net.bare) (c : Nat) (e : Emission α) :
    (emit climb c net e).bare = emit climb c net.bare e := by
  cases hs : net.sink? c with
  | none =>
    have hs' : net.bare.sink? c = none := by rw [sink?_bare, hs, Option.map_none]
    rw [emit_of_none hs, emit_of_none hs', bare_setBook]
  | some sink =>
    have hs' : net.bare.sink? c = some sink.bare := by rw [sink?_bare, hs, Option.map_some]
    have hduring : (net.during c e).bare = net.bare.during c e := by simp [during]
    rw [emit_of_sink hs, emit_of_sink hs', bare_setSink, Option.map_some, ← hduring,
      ← bare_sink_deliver (net.during c e) hclimb e.report sink]
    rfl

/-- **A report climbs as it would without relays.** -/
theorem bare_climb (levels c i : Nat) (report : Report α) :
    (net.climb levels c i report).bare = net.bare.climb levels c i report := by
  induction levels generalizing c i report net with
  | zero => rfl
  | succ levels ih =>
    cases hb : net.book? c with
    | none =>
      have hb' : net.bare.book? c = none := (net.book?_bare c).trans hb
      rw [climb_of_none hb, climb_of_none hb']
    | some b =>
      have hb' : net.bare.book? c = some b := (net.book?_bare c).trans hb
      rw [climb_succ hb, climb_succ hb', bare_setBook]
      refine congrArg (setBook · c _) ?_
      generalize (b.react i report).2 = es
      clear hb hb'
      induction es generalizing net with
      | nil => rfl
      | cons e es ihe =>
        rw [List.foldl_cons, List.foldl_cons, ihe,
          net.bare_emit (fun c i report net => ih net c i report) c e]

/-- **A sink takes a report as it would without relays.** -/
theorem bare_deliver (report : Report α) (sink : Sink α) :
    Prod.map bare Sink.bare (net.deliver report sink) = net.bare.deliver report sink.bare := by
  rw [deliver, deliver, size_bare]
  exact bare_sink_deliver net (fun c i report net => net.bare_climb _ c i report) report sink

theorem bare_deliverAll (reports : List (Report α)) (sink : Sink α) :
    Prod.map bare Sink.bare (net.deliverAll reports sink) =
      net.bare.deliverAll reports sink.bare := by
  induction reports generalizing net sink with
  | nil => rfl
  | cons report reports ih =>
    have hone := net.bare_deliver report sink
    have hrest := ih (net.deliver report sink).1 (net.deliver report sink).2
    refine hrest.trans ?_
    show (Prod.map bare Sink.bare (net.deliver report sink)).1.deliverAll reports
      (Prod.map bare Sink.bare (net.deliver report sink)).2 = _
    rw [hone]
    rfl

theorem bare_addComposite (sink : Sink α) :
    ((net.addComposite sink).1.bare, (net.addComposite sink).2) =
      net.bare.addComposite sink.bare := by
  have hall := net.bare_deliverAll [.total one, .worked zero none] sink
  unfold addComposite
  rw [← hall]
  generalize net.deliverAll [.total one, .worked zero none] sink = made
  refine Prod.ext ?_ made.1.size_bare.symm
  exact congrArg (fun composites => { made.1.bare with composites }) Array.map_push

theorem bare_addPart (c : Nat) (weight : α) :
    Prod.map bare Sink.bare (net.addPart c weight) = net.bare.addPart c weight := by
  have hindex : ((net.bare.composites[c]?).map fun k => k.book.pieces.size) =
      (net.composites[c]?).map fun k => k.book.pieces.size := by
    rw [composites_bare]
    cases net.composites[c]? <;> rfl
  unfold addPart
  rw [hindex]
  exact Prod.ext (net.bare_modify (fun _ => rfl) c) rfl

end Network

/-! ### When a relay makes its note -/

/-- A report that is handed to a sink: the network at that moment, and what is done to pieces of
composites. -/
structure Handing (α : Type) where
  /-- How a report is handed to a piece of a composite. -/
  climb : Nat → Nat → Report α → Network α → Network α
  /-- The report. -/
  report : Report α
  /-- The network. -/
  net : Network α

variable [Quantity α]

/-- The networks that a sink leaves behind after each of the reports it is handed. What happens to
the network between two of them is not up to the sink. -/
def Sink.takes : Sink α → List (Handing α) → List (Network α)
  | _, [] => []
  | sink, h :: later =>
    (sink.deliver h.climb h.report h.net).1 ::
      (sink.deliver h.climb h.report h.net).2.takes later

/-- A relay makes its note. -/
def Callback.run (k : Callback) (net : Network α) : Network α :=
  net.note (.callback k.name (k.watch.bind net.lookAt))

/-- A relay lets its delegate take the report. If the work is over, it makes its note then, and has
none to make any more. -/
theorem Sink.deliver_relay (climb : Nat → Nat → Report α → Network α → Network α)
    (report : Report α) (net : Network α) (delegate : Sink α) (callback : Option Callback) :
    (relay delegate callback).deliver climb report net =
      ((if report.isDone then callback else none).elim (delegate.deliver climb report net).1
          (Callback.run · (delegate.deliver climb report net).1),
        relay (delegate.deliver climb report net).2
          (if report.isDone then none else callback)) := by
  cases report <;> cases callback <;> rfl

/-- A relay that has no note to make is not noticed. -/
theorem Sink.takes_relay_none (delegate : Sink α) (handings : List (Handing α)) :
    (relay delegate none).takes handings = delegate.takes handings := by
  induction handings generalizing delegate with
  | nil => rfl
  | cons h later ih =>
    rw [takes, takes, deliver_relay, ite_self]
    exact congrArg _ (ih _)

/-- **A relay makes its note once**, right after its delegate has taken the first report of the end,
and not if there is none. Otherwise it leaves behind what its delegate does. -/
theorem Sink.takes_relay (delegate : Sink α) (k : Callback) (handings : List (Handing α)) :
    (relay delegate (some k)).takes handings =
      (delegate.takes handings).modify (handings.findIdx fun h => h.report.isDone) k.run := by
  induction handings generalizing delegate with
  | nil => rfl
  | cons h later ih =>
    rw [takes, takes, deliver_relay, List.findIdx_cons]
    cases h.report.isDone with
    | true => exact congrArg _ (takes_relay_none _ later)
    | false => exact congrArg _ (ih _)

/-- Nothing comes of what is handed to nobody. -/
theorem Sink.takes_silent (handings : List (Handing α)) :
    silent.takes handings = handings.map Handing.net := by
  induction handings with
  | nil => rfl
  | cons h later ih => exact congrArg (h.net :: ·) ih

/-! ### Where reports end -/

omit [Quantity α]

/-- The sink does not hand reports on. -/
def Sink.IsBottom : Sink α → Prop
  | relay _ _ | part _ _ => False
  | _ => True

namespace Network

/-- What is reported to the first sink comes down to the second one, through relays and through the
sinks of composites. -/
inductive EndsIn (net : Network α) : Sink α → Sink α → Prop where
  /-- The sink does not hand it on. -/
  | bottom {sink : Sink α} (h : sink.IsBottom) : EndsIn net sink sink
  /-- A relay hands it on. -/
  | relay {delegate bottom : Sink α} {callback : Option Callback} (h : EndsIn net delegate bottom) :
      EndsIn net (.relay delegate callback) bottom
  /-- A composite reports on the whole to its sink. -/
  | part {c i : Nat} {sink bottom : Sink α} (hs : net.sink? c = some sink)
      (h : EndsIn net sink bottom) : EndsIn net (.part c i) bottom

variable {net : Network α}

theorem EndsIn.isBottom {sink bottom : Sink α} (h : net.EndsIn sink bottom) : bottom.IsBottom := by
  induction h with
  | bottom h => exact h
  | relay _ ih => exact ih
  | part _ _ ih => exact ih

/-- Behind its relays a sink is a bottom sink or a part. -/
theorem exists_endsIn_of_part {n : Nat} {sink : Sink α} (hb : sink.Below n)
    {ask : Nat → Bool}
    (hpart : ∀ c < n, ∃ bottom, (∀ i, net.EndsIn (.part c i) bottom) ∧
      ask c = net.isCanceled bottom) :
    ∃ bottom, net.EndsIn sink bottom ∧ sink.isCanceled net ask = net.isCanceled bottom := by
  induction sink with
  | relay delegate callback ih =>
    obtain ⟨bottom, hends, hask⟩ := ih hb
    exact ⟨bottom, .relay hends, hask⟩
  | part c i =>
    obtain ⟨bottom, hends, hask⟩ := hpart c (hb c i rfl)
    exact ⟨bottom, hends i, hask⟩
  | _ => exact ⟨_, .bottom trivial, rfl⟩

/-- Composites ask who is at the bottom of their sink, if they may ask far enough. -/
theorem Layered.endsIn_part (h : net.Layered) {c levels : Nat} (hc : c < net.composites.size)
    (hlevels : c < levels) :
    ∃ bottom, (∀ i, net.EndsIn (.part c i) bottom) ∧
      net.compositeCanceled levels c = net.isCanceled bottom := by
  induction levels generalizing c with
  | zero => cases hlevels
  | succ levels ih =>
    obtain ⟨sink, hs, hbelow⟩ := h c hc
    obtain ⟨bottom, hends, hask⟩ := exists_endsIn_of_part hbelow
      fun d hd => ih (Nat.lt_trans hd hc) (Nat.lt_of_lt_of_le hd (Nat.le_of_lt_succ hlevels))
    refine ⟨bottom, fun i => .part hs hends, ?_⟩
    unfold sink? at hs
    rw [compositeCanceled, hs]
    exact hask

/-- **Whoever is at the bottom is the one who asks for a stop.** -/
theorem Layered.endsIn (h : net.Layered) {sink : Sink α} (hb : sink.Below net.composites.size) :
    ∃ bottom, net.EndsIn sink bottom ∧ net.isCanceled sink = net.isCanceled bottom :=
  exists_endsIn_of_part hb fun _ hc => h.endsIn_part hc hc

end Network

end Estree.Progress
