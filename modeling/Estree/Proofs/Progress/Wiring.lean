import Estree.Progress.Session
import Estree.Proofs.Dict

/-!
# Which sink reports to which

A report changes what sinks keep and what composites know. It does not change who reports to whom,
nor any flag: a sink stays what it is, but for the line its bar has drawn and the callback of a
relay, and a composite that is out on a report gets its sink back.

Sinks are made from sinks that exist already, so a composite comes after all those that its own
sink reports to. In a session this is so at any time, and then no composite is out.

## Main results

* `Network.Steady`: the wiring is the same; `Network.steady_climb` says so of a report that climbs;
* `Network.Layered`: every composite has its sink, which reports to earlier ones only;
* `Session.layered_after`: in a session, whatever is done, the network is layered.
-/

namespace Estree.Progress

open Quantity

variable {α : Type}

/-- The composite to a piece of which a sink hands its reports on, and the index of the piece. -/
def Sink.target? : Sink α → Option (Nat × Nat)
  | relay delegate _ => delegate.target?
  | part c i => some (c, i)
  | _ => none

/-- The sink reports to a composite before `c`, or to none. -/
def Sink.Below (c : Nat) (sink : Sink α) : Prop :=
  ∀ target i, sink.target? = some (target, i) → target < c

namespace Network

/-- The sink of a composite, unless it is out on a report. -/
def sink? (net : Network α) (c : Nat) : Option (Sink α) :=
  (net.composites[c]?).bind Composite.sink

/-- Every composite has its sink, which reports to earlier composites only. -/
def Layered (net : Network α) : Prop :=
  ∀ c < net.composites.size, ∃ sink, net.sink? c = some sink ∧ sink.Below c

/-- What changes in a composite but not its sink, changes no sink. -/
theorem sink?_modify {f : Composite α → Composite α} (hf : ∀ k, (f k).sink = k.sink)
    (net : Network α) (c c' : Nat) :
    sink? { net with composites := net.composites.modify c f } c' = net.sink? c' := by
  unfold sink?
  rw [Array.getElem?_modify]
  split
  · cases net.composites[c']? with
    | none => rfl
    | some k => exact hf k
  · rfl

theorem sink?_setSink_self {net : Network α} {c : Nat} (h : c < net.composites.size)
    (sink : Option (Sink α)) : (net.setSink c sink).sink? c = sink := by
  unfold sink? setSink
  rw [Array.getElem?_modify, if_pos rfl, Array.getElem?_eq_getElem h]
  rfl

theorem sink?_setSink_of_ne {net : Network α} {c c' : Nat} (h : c ≠ c')
    (sink : Option (Sink α)) : (net.setSink c sink).sink? c' = net.sink? c' := by
  unfold sink? setSink
  rw [Array.getElem?_modify, if_neg h]

theorem lt_of_sink? {net : Network α} {c : Nat} {sink : Sink α} (h : net.sink? c = some sink) :
    c < net.composites.size := by
  obtain ⟨k, hk, -⟩ := Option.bind_eq_some_iff.mp h
  exact (Array.getElem?_eq_some_iff.mp hk).1

end Network

/-! ### Sinks stay what they are -/

section Steady

variable [Quantity α]

/-- The sink without what it keeps for itself. -/
def Sink.core : Sink α → Sink α
  | silent => silent
  | flag id => flag id
  | log l => log l
  | recording id => recording id
  | bar _ screen id => bar .fresh screen id
  | relay delegate _ => relay delegate.core none
  | part c i => part c i

theorem Sink.target?_core (sink : Sink α) : sink.core.target? = sink.target? := by
  induction sink with
  | relay delegate callback ih => exact ih
  | _ => rfl

theorem Sink.below_of_core {c : Nat} {sink sink' : Sink α} (h : sink'.core = sink.core)
    (hb : sink.Below c) : sink'.Below c := by
  rw [Below, ← target?_core, h, target?_core]
  exact hb

/-- The same sinks report to the same sinks, and the same flags are set. -/
structure Network.Steady (a b : Network α) : Prop where
  size : b.composites.size = a.composites.size
  flags : b.flags = a.flags
  names : b.names = a.names
  sinks : ∀ c, (b.sink? c).map Sink.core = (a.sink? c).map Sink.core

namespace Network

namespace Steady

variable {a b net : Network α}

theorem refl (net : Network α) : net.Steady net := ⟨rfl, rfl, rfl, fun _ => rfl⟩

theorem trans {c : Network α} (h : a.Steady b) (h' : b.Steady c) : a.Steady c where
  size := h'.size.trans h.size
  flags := h'.flags.trans h.flags
  names := h'.names.trans h.names
  sinks c := (h'.sinks c).trans (h.sinks c)

theorem setBook (net : Network α) (c : Nat) (book : Bookkeeping α) :
    net.Steady (net.setBook c book) where
  size := Array.size_modify
  flags := rfl
  names := rfl
  sinks c' := congrArg (Option.map Sink.core)
    (sink?_modify (f := fun k => { k with book }) (fun _ => rfl) net c c')

theorem addPart (net : Network α) (c : Nat) (weight : α) :
    net.Steady (net.addPart c weight).1 where
  size := Array.size_modify
  flags := rfl
  names := rfl
  sinks c' := congrArg (Option.map Sink.core) (sink?_modify
    (f := fun k => { k with book := k.book.register weight }) (fun _ => rfl) net c c')

/-- Where a sink was, there is a sink that differs in nothing but what it keeps for itself. -/
theorem sink? (h : a.Steady b) {c : Nat} {sink : Sink α} (hs : a.sink? c = some sink) :
    ∃ sink', b.sink? c = some sink' ∧ sink'.core = sink.core := by
  have hcore := h.sinks c
  rw [hs] at hcore
  exact Option.map_eq_some_iff.mp hcore

theorem layered (h : a.Steady b) (ha : a.Layered) : b.Layered := by
  intro c hc
  obtain ⟨sink, hs, hb⟩ := ha c (h.size ▸ hc)
  obtain ⟨sink', hs', hcore⟩ := h.sink? hs
  exact ⟨sink', hs', Sink.below_of_core hcore hb⟩

end Steady

variable {climb : Nat → Nat → Report α → Network α → Network α}

/-- A sink that takes a report stays what it is. -/
theorem core_deliver (report : Report α) (net : Network α) (sink : Sink α) :
    (sink.deliver climb report net).2.core = sink.core := by
  induction sink with
  | relay delegate callback ih =>
    simp only [Sink.deliver]
    split <;> exact congrArg (Sink.relay · none) ih
  | _ => rfl

theorem steady_note (net : Network α) (n : Note α) : net.Steady (net.note n) :=
  ⟨rfl, rfl, rfl, fun _ => rfl⟩

theorem steady_deliver (hclimb : ∀ c i report net, Steady net (climb c i report net))
    (report : Report α) (net : Network α) (sink : Sink α) :
    net.Steady (sink.deliver climb report net).1 := by
  induction sink with
  | relay delegate callback ih =>
    simp only [Sink.deliver]
    split
    · exact ih.trans (steady_note _ _)
    · exact ih
  | part c i => exact hclimb c i report net
  | log l => exact steady_note _ _
  | recording id => exact ⟨rfl, rfl, rfl, fun _ => rfl⟩
  | bar b screen flag => exact ⟨rfl, rfl, rfl, fun _ => rfl⟩
  | _ => exact .refl net

/-- The sink of a composite goes out on a report and comes back. -/
theorem steady_return {net net' : Network α} {c : Nat} {sink sink' : Sink α}
    (hs : net.sink? c = some sink) (h : (net.setSink c none).Steady net')
    (hcore : sink'.core = sink.core) : net.Steady (net'.setSink c (some sink')) where
  size := Array.size_modify.trans (h.size.trans Array.size_modify)
  flags := h.flags
  names := h.names
  sinks c' := by
    by_cases hc : c = c'
    · subst hc
      have hlt : c < net'.composites.size := by
        rw [h.size]
        exact Nat.lt_of_lt_of_eq (lt_of_sink? hs) Array.size_modify.symm
      rw [sink?_setSink_self hlt, hs, Option.map_some, Option.map_some, hcore]
    · rw [sink?_setSink_of_ne hc, h.sinks, sink?_setSink_of_ne hc]

theorem steady_emit (hclimb : ∀ c i report net, Steady net (climb c i report net)) (c : Nat)
    (net : Network α) (e : Emission α) : net.Steady (emit climb c net e) := by
  refine (Steady.setBook net c e.seen).trans ?_
  simp only [emit]
  cases hs : ((net.setBook c e.seen).composites[c]?).bind Composite.sink with
  | none => exact .refl _
  | some sink => exact steady_return hs (steady_deliver hclimb _ _ sink) (core_deliver _ _ sink)

/-- **A report that climbs changes neither the wiring nor a flag.** -/
theorem steady_climb (levels c i : Nat) (report : Report α) (net : Network α) :
    net.Steady (net.climb levels c i report) := by
  induction levels generalizing c i report net with
  | zero => exact .refl net
  | succ levels ih =>
    rw [Network.climb]
    cases net.composites[c]? with
    | none => exact .refl net
    | some k =>
      simp only
      refine Steady.trans ?_ (.setBook _ c _)
      generalize (k.book.react i report).2 = emissions
      induction emissions generalizing net with
      | nil => exact .refl net
      | cons e emissions ihe => exact (steady_emit ih c net e).trans (ihe _)

end Network

/-! ### Composites are made -/

namespace Network

theorem steady_deliverAll (net : Network α) (reports : List (Report α)) (sink : Sink α) :
    net.Steady (net.deliverAll reports sink).1 ∧
      (net.deliverAll reports sink).2.core = sink.core := by
  induction reports generalizing net sink with
  | nil => exact ⟨.refl net, rfl⟩
  | cons report reports ih =>
    obtain ⟨hnet, hsink⟩ := ih (net.deliver report sink).1 (net.deliver report sink).2
    exact ⟨(steady_deliver (steady_climb _) report net sink).trans hnet,
      hsink.trans (core_deliver report net sink)⟩

/-- A composite is made after all the others, and has the sink it was made with. -/
theorem addComposite_wiring (net : Network α) (sink : Sink α) :
    (net.addComposite sink).1.composites.size = net.composites.size + 1 ∧
    (net.addComposite sink).2 = net.composites.size ∧
    (net.addComposite sink).1.flags = net.flags ∧
    (net.addComposite sink).1.names = net.names ∧
    (∃ sink', (net.addComposite sink).1.sink? net.composites.size = some sink' ∧
      sink'.core = sink.core) ∧
    ∀ c < net.composites.size, ((net.addComposite sink).1.sink? c).map Sink.core =
      (net.sink? c).map Sink.core := by
  obtain ⟨hsteady, hcore⟩ := net.steady_deliverAll [.total one, .worked zero none] sink
  unfold addComposite
  generalize net.deliverAll [.total one, .worked zero none] sink = r at hsteady hcore
  refine ⟨(Array.size_push _).trans (congrArg (· + 1) hsteady.size), hsteady.size, hsteady.flags,
    hsteady.names, ⟨r.2, ?_, hcore⟩, fun c hc => ?_⟩
  · unfold sink?
    rw [← hsteady.size, Array.getElem?_push_size]
    rfl
  · rw [← hsteady.sinks]
    have hlt : c < r.1.composites.size := hsteady.size.symm ▸ hc
    unfold sink?
    rw [Array.getElem?_push_lt hlt, ← Array.getElem?_eq_getElem]

theorem layered_addComposite {net : Network α} (h : net.Layered) {sink : Sink α}
    (hb : sink.Below net.composites.size) : (net.addComposite sink).1.Layered := by
  obtain ⟨hsize, -, -, -, ⟨sink', hs', hcore'⟩, hothers⟩ := net.addComposite_wiring sink
  intro c hc
  rw [hsize] at hc
  rcases Nat.lt_or_eq_of_le (Nat.le_of_lt_succ hc) with hlt | rfl
  · obtain ⟨sink₀, hs₀, hbelow⟩ := h c hlt
    have hcore := hothers c hlt
    rw [hs₀] at hcore
    obtain ⟨sink₁, hs₁, hcore₁⟩ := Option.map_eq_some_iff.mp hcore
    exact ⟨sink₁, hs₁, Sink.below_of_core hcore₁ hbelow⟩
  · exact ⟨sink', hs', Sink.below_of_core hcore' hb⟩

end Network

end Steady

/-! ### Sessions -/

namespace Session

section Kept

variable {s s' : Session α} {sink : Sink α}

/-- The network is layered, and what has a name is there: a handle can be made the sink of a
composite. -/
structure Sound (s : Session α) : Prop where
  layered : s.network.Layered
  names : ∀ e ∈ s.network.names, e.2 < s.network.composites.size
  handles : ∀ e ∈ s.handles, e.2.Below s.network.composites.size

theorem sound_empty : Sound ({} : Session α) where
  layered _ hc := absurd hc (Nat.not_lt_zero _)
  names := List.forall_mem_nil _
  handles := List.forall_mem_nil _

theorem Sound.handle (h : s.Sound) {name : String} (hs : s.handles.get? name = some sink) :
    sink.Below s.network.composites.size :=
  h.handles _ (Dict.mem_of_get? hs)

/-- The composites are as they were, and nothing has a new name but flags and recordings. -/
structure Kept (s s' : Session α) : Prop where
  composites : s'.network.composites = s.network.composites
  names : ∀ e ∈ s'.network.names, e ∈ s.network.names
  handles : ∀ e ∈ s'.handles, e ∈ s.handles

theorem kept_refl (s : Session α) : s.Kept s := ⟨rfl, fun _ => id, fun _ => id⟩

theorem Sound.kept (h : s.Sound) (hk : s.Kept s') : s'.Sound := by
  have hsink (c : Nat) : s'.network.sink? c = s.network.sink? c := by
    unfold Network.sink?
    rw [hk.composites]
  refine ⟨fun c hc => ?_, fun e he => ?_, fun e he => ?_⟩
  · rw [hsink]
    exact h.layered c (hk.composites ▸ hc)
  · rw [hk.composites]
    exact h.names e (hk.names e he)
  · rw [hk.composites]
    exact h.handles e (hk.handles e he)

theorem kept_forget (s : Session α) (name : String) :
    s.Kept { s with handles := forget s.handles name } :=
  ⟨rfl, fun _ => id, fun _ he => (List.mem_filter.mp he).1⟩

theorem kept_flag (s : Session α) (name : String) : s.Kept (s.flag name).1 := by
  unfold flag
  split <;> exact ⟨rfl, fun _ => id, fun _ => id⟩

theorem kept_flag? (s : Session α) (name : Option String) : s.Kept (s.flag? name).1 := by
  cases name with
  | none => exact kept_refl s
  | some name => exact kept_flag s name

end Kept

variable [Quantity α] {s s' : Session α} {sink : Sink α}

/-- A handle gets a sink that reports to a composite there is, in a network that is wired alike. -/
theorem Sound.insert (h : s.Sound) (hnet : s.network.Steady s'.network) {name : String}
    (hb : sink.Below s.network.composites.size) (hh : s'.handles = s.handles.insert name sink) :
    s'.Sound := by
  refine ⟨hnet.layered h.layered, fun e he => ?_, fun e he => ?_⟩
  · rw [hnet.size]
    exact h.names e (hnet.names ▸ he)
  · rw [hnet.size]
    rw [hh] at he
    rcases Dict.mem_insert he with rfl | he
    · exact hb
    · exact h.handles e he

/-- A sink is made from handles, so it reports to composites that exist. -/
theorem kept_build (h : s.Sound) (spec : SinkSpec) (hb : s.build spec = .ok (s', sink)) :
    s.Kept s' ∧ sink.Below s.network.composites.size := by
  have hnone {sink : Sink α} (hs : sink.target? = none) :
      sink.Below s.network.composites.size := by
    intro c i ht
    rw [hs] at ht
    cases ht
  fun_induction build s spec generalizing s' sink with
  | case1 =>
    cases hb
    exact ⟨kept_refl s, hnone rfl⟩
  | case2 name s₁ id hflag =>
    cases hb
    have hk := kept_flag s name
    rw [hflag] at hk
    exact ⟨hk, hnone rfl⟩
  | case3 name flag watch s₁ id hflag =>
    cases hb
    have hk := kept_flag? s flag
    rw [hflag] at hk
    exact ⟨hk, hnone rfl⟩
  | case4 =>
    cases hb
    exact ⟨⟨rfl, fun _ => id, fun _ => id⟩, hnone rfl⟩
  | case5 name colored broken flag ownFlag s₁ observed hflag network id hobserved =>
    cases hb
    have hk := kept_flag? s flag
    rw [hflag] at hk
    cases observed <;> cases hobserved <;>
      exact ⟨⟨hk.composites, hk.names, hk.handles⟩, hnone rfl⟩
  | case6 =>
    cases hb
    exact ⟨kept_refl s, hnone rfl⟩
  | case7 spec callback ih =>
    cases hbuild : s.build spec with
    | error refusal =>
      rw [hbuild] at hb
      cases hb
    | ok r =>
      obtain ⟨s₁, delegate⟩ := r
      rw [hbuild] at hb
      cases hb
      have hdelegate := ih hbuild
      exact hdelegate
  | case8 => cases hb
  | case9 name sink' hs =>
    cases hb
    exact ⟨kept_forget s name, h.handle hs⟩

theorem Sound.composite (h : s.Sound) (name : String) (hb : sink.Below s.network.composites.size) :
    Sound (s.setNetwork { (s.network.addComposite sink).1 with
      names := (s.network.addComposite sink).1.names.insert name
        (s.network.addComposite sink).2 }) := by
  obtain ⟨hsize, hindex, -, hnames, -⟩ := s.network.addComposite_wiring sink
  refine ⟨Network.layered_addComposite h.layered hb, fun e he => ?_, fun e he => ?_⟩
  · refine Nat.lt_of_lt_of_eq ?_ hsize.symm
    rcases Dict.mem_insert he with rfl | he
    · exact Nat.lt_succ_of_le (Nat.le_of_eq hindex)
    · exact Nat.lt_succ_of_lt (h.names e (hnames ▸ he))
  · intro c i ht
    exact Nat.lt_of_lt_of_eq (Nat.lt_succ_of_lt (h.handles e he c i ht)) hsize.symm

/-- **An action keeps the network layered.** -/
theorem Sound.act (h : s.Sound) (action : Action α) {reply : Reply α}
    (ha : s.act action = .ok (s', reply)) : s'.Sound := by
  cases action with
  | composite name spec =>
    cases hbuild : s.build spec with
    | error refusal =>
      simp only [Session.act, hbuild] at ha
      cases ha
    | ok r =>
      obtain ⟨s₁, sink⟩ := r
      simp only [Session.act, hbuild] at ha
      cases ha
      obtain ⟨hk, hb⟩ := kept_build h spec hbuild
      exact (h.kept hk).composite name (hk.composites ▸ hb)
  | sink name spec =>
    cases hbuild : s.build spec with
    | error refusal =>
      simp only [Session.act, hbuild] at ha
      cases ha
    | ok r =>
      obtain ⟨s₁, sink⟩ := r
      simp only [Session.act, hbuild] at ha
      cases ha
      obtain ⟨hk, hb⟩ := kept_build h spec hbuild
      exact (h.kept hk).insert (.refl _) (hk.composites ▸ hb) rfl
  | part name composite weight =>
    cases hc : s.network.names.get? composite with
    | none =>
      simp only [Session.act, hc] at ha
      cases ha
    | some c =>
      simp only [Session.act, hc] at ha
      cases ha
      refine h.insert (.addPart s.network c _) ?_ rfl
      rintro _ _ ⟨⟩
      exact h.names _ (Dict.mem_of_get? hc)
  | report name reports =>
    cases hs : s.handles.get? name with
    | none =>
      simp only [Session.act, hs] at ha
      cases ha
    | some sink =>
      simp only [Session.act, hs] at ha
      cases ha
      obtain ⟨hsteady, hcore⟩ := s.network.steady_deliverAll reports sink
      exact h.insert hsteady (Sink.below_of_core hcore (h.handle hs)) rfl
  | cancel name =>
    cases ha
    obtain ⟨hc, hn, hh⟩ := kept_flag s name
    exact h.kept ⟨hc, hn, hh⟩
  | flagSet name =>
    cases ha
    exact h.kept (kept_flag s name)
  | drop name =>
    cases ha
    exact h.kept (kept_forget s name)
  | dropComposite name =>
    cases ha
    exact h.kept ⟨rfl, fun _ he => (List.mem_filter.mp he).1, fun _ => id⟩
  | cancelRecording name =>
    cases hr : s.recordings.get? name with
    | none =>
      simp only [Session.act, hr] at ha
      cases ha
    | some recording =>
      simp only [Session.act, hr] at ha
      cases ha
      exact h.kept ⟨rfl, fun _ => id, fun _ => id⟩
  | _ =>
    -- what is only asked changes nothing
    simp only [Session.act] at ha
    split at ha
    · cases ha
    · first
        | cases ha; exact h
        | split at ha <;> cases ha; exact h

/-- The session after some actions. -/
def after (actions : List (Action α)) : Session α :=
  actions.foldl (fun s action => (s.step action).1) {}

/-- In a session, whatever has a name is there at any time. -/
theorem sound_after (actions : List (Action α)) : (after actions).Sound := by
  unfold after
  generalize hs : ({} : Session α) = s
  have h : s.Sound := hs ▸ sound_empty
  clear hs
  induction actions generalizing s with
  | nil => exact h
  | cons action actions ih =>
    have hclear : s.clearNotes.Sound := h.kept ⟨rfl, fun _ => id, fun _ => id⟩
    have hstep : (s.step action).1.Sound := by
      unfold step
      cases ha : s.clearNotes.act action with
      | error refusal => exact hclear
      | ok r => exact hclear.act action ha
    exact ih _ hstep

/-- **In a session the network is layered at any time.** -/
theorem layered_after (actions : List (Action α)) : (after actions).network.Layered :=
  (sound_after actions).layered

end Session

end Estree.Progress
