import Estree.Proofs.Progress.Relays

/-!
# Which relays make their notes

A relay makes its note when it is told for the first time that the work is over. In front of the
sink of a composite this is when the composite ends, which it does once at most. So, as far as
relays are concerned, what is done with a network is told by the composites that end by it: `Ends`
says which ones they are, and that the relays in front of their sinks have made their notes, one
composite after the other.

The composites that end while a report climbs stand one behind the other. The outermost of them,
which is the first one in the network, is also the first whose relays make their notes, as each
relay waits for its delegate.

## Main results

* `Network.ends_climb`: the composites that end while a report climbs;
* `Network.ends_deliver`: while a sink takes a report, with the relays in front of it;
* `Network.ends_operateAll`: in the course of any operations on any composites;
* `Network.done_taken_iff`: the sink of a composite is told the end when the composite ends.
-/

namespace Estree.Progress

open Quantity

variable {α : Type}

/-- The names of the notes that the relays in front of a sink have still to make, the innermost
relay first. -/
def Sink.due : Sink α → List String
  | relay delegate callback => delegate.due ++ (callback.map Callback.name).toList
  | _ => []

/-- The name of a note that a relay has made. -/
def Note.callback? : Note α → Option String
  | callback name _ => some name
  | report _ _ _ => none

/-- What is told of a whole that is not over is no end, or an amount and then the end. -/
theorem Bookkeeping.react_ends [Quantity α] {b : Bookkeeping α} (ho : b.completed = false) (i : Nat)
    (report : Report α) :
    ((b.react i report).1.completed = false ∧
        ∀ e ∈ (b.react i report).2, e.report.isDone = false) ∨
      report.isDone = true ∧ (b.react i report).1.completed = true ∧
        ∃ amount closing, (b.react i report).2 = [amount, closing] ∧
          amount.report.isDone = false ∧ closing.report.isDone = true := by
  cases hafter : (b.react i report).1.completed with
  | false =>
    obtain ⟨-, hupdates⟩ := react_running hafter
    exact .inl ⟨rfl, fun e he => Report.isDone_of_isUpdate (hupdates e he).2.2⟩
  | true =>
    have hdone : report.isDone = true := by
      by_contra hno
      rw [b.completed_react i (Bool.not_eq_true _ ▸ hno), ho] at hafter
      cases hafter
    have heffect := b.operate_effect (.report i report)
    have hreports : (b.operate (.report i report)).2 =
        (b.react i report).2.map Emission.report := rfl
    have hbook : (b.operate (.report i report)).1.completed = true := hafter
    generalize b.operate (.report i report) = r at heffect hreports hbook
    cases heffect with
    | closed hi hm hn hc hc' hs =>
      obtain ⟨amount, rest, hes, hamount, hrest⟩ := List.map_eq_cons_iff.mp hreports.symm
      obtain ⟨closing, rest', hes', hclosing, hnil⟩ := List.map_eq_cons_iff.mp hrest
      rw [List.map_eq_nil_iff.mp hnil] at hes'
      refine .inr ⟨hdone, rfl, amount, closing, hes.trans (hes' ▸ rfl), ?_, ?_⟩
      · rw [hamount]
        rfl
      · rw [hclosing]
        rfl
    | added hm hn hc => exact absurd (hc.symm.trans hbook) (by simp [ho])
    | told hm hn hc hr => exact absurd (hc.symm.trans hbook) (by simp [ho])
    | ended hi hm hn hc hs hr => exact absurd (hc.symm.trans hbook) (by simp [ho])

namespace Network

/-- The names of the notes that relays have made, the first one first. -/
def ran (net : Network α) : List String := net.notes.toList.filterMap Note.callback?

/-- The names of the notes that the relays in front of the sink of composite `c` have still to
make. -/
def due (net : Network α) (c : Nat) : List String := (net.sink? c).elim [] Sink.due

/-- Has composite `c` been over? -/
def isOver (net : Network α) (c : Nat) : Bool := (net.book? c).any Bookkeeping.completed

theorem isOver_eq_look [Quantity α] (net : Network α) (c : Nat) :
    net.isOver c = (net.look c).any Look.isDone := by
  unfold isOver book? look
  cases net.composites[c]? <;> rfl

/-- The composites in `ended` end, one after the other, and no other ones; the relays in front of
their sinks make their notes. -/
structure Ends (net : Network α) (ended : List Nat) (net' : Network α) : Prop where
  nodup : ended.Nodup
  mem_iff : ∀ d, d ∈ ended ↔ net'.isOver d = true ∧ net.isOver d = false
  stays : ∀ d, net.isOver d = true → net'.isOver d = true
  due : ∀ d, net'.due d = if d ∈ ended then [] else net.due d
  ran : net'.ran = net.ran ++ ended.flatMap net.due

namespace Ends

variable {net net' net'' : Network α} {ended later : List Nat}

/-- Nothing that matters to relays is changed. -/
theorem of_eq (hover : net'.isOver = net.isOver) (hdue : net'.due = net.due)
    (hran : net'.ran = net.ran) : net.Ends [] net' where
  nodup := List.nodup_nil
  mem_iff d := by simp [hover]
  stays d h := hover ▸ h
  due d := by simp [hdue]
  ran := by simp [hran]

theorem refl (net : Network α) : net.Ends [] net := of_eq rfl rfl rfl

theorem isOver_of_notMem (h : net.Ends ended net') {d : Nat} (hd : d ∉ ended) :
    net'.isOver d = net.isOver d := by
  have hmem := h.mem_iff d
  have hstays := h.stays d
  cases h₀ : net.isOver d <;> cases h₁ : net'.isOver d <;> simp_all

/-- One after the other. -/
theorem trans (h : net.Ends ended net') (h' : net'.Ends later net'') :
    net.Ends (ended ++ later) net'' := by
  have hdisjoint : ∀ d ∈ ended, d ∉ later := by
    intro d hd hd'
    have hopen := ((h'.mem_iff d).mp hd').2
    rw [((h.mem_iff d).mp hd).1] at hopen
    cases hopen
  constructor
  · exact List.nodup_append.mpr ⟨h.nodup, h'.nodup, fun a ha b hb hab => hdisjoint a ha (hab ▸ hb)⟩
  · intro d
    by_cases hd : d ∈ ended
    · obtain ⟨hover, hopen⟩ := (h.mem_iff d).mp hd
      simp [hd, hopen, h'.stays d hover]
    · rw [List.mem_append, or_iff_right hd, h'.mem_iff, h.isOver_of_notMem hd]
  · exact fun d hd => h'.stays d (h.stays d hd)
  · intro d
    rw [h'.due, h.due]
    by_cases hd : d ∈ ended <;> simp [hd]
  · have hlater : later.flatMap net'.due = later.flatMap net.due := by
      refine List.flatMap_congr fun d hd => ?_
      rw [h.due, if_neg fun hd' => hdisjoint d hd' hd]
    rw [h'.ran, h.ran, hlater, List.flatMap_append, List.append_assoc]

end Ends

/-! ### A single report -/

section Steps

variable {net net' : Network α} {c : Nat}

theorem isOver_congr (h : net'.composites = net.composites) : net'.isOver = net.isOver := by
  unfold isOver book?
  rw [h]

theorem due_congr (h : net'.composites = net.composites) : net'.due = net.due := by
  unfold due sink?
  rw [h]

theorem isOver_setBook (hc : c < net.composites.size) (b : Bookkeeping α) (d : Nat) :
    (net.setBook c b).isOver d = if d = c then b.completed else net.isOver d := by
  unfold isOver
  split
  · next h => rw [h, book?_setBook_self hc, Option.any_some]
  · next h => rw [book?_setBook_of_ne (Ne.symm h)]

@[simp] theorem isOver_setSink (sink : Option (Sink α)) :
    (net.setSink c sink).isOver = net.isOver := by
  unfold isOver
  simp

@[simp] theorem due_setBook (b : Bookkeeping α) : (net.setBook c b).due = net.due := by
  unfold due
  simp

theorem due_setSink (hc : c < net.composites.size) (sink : Option (Sink α)) (d : Nat) :
    (net.setSink c sink).due d = if d = c then sink.elim [] Sink.due else net.due d := by
  unfold due
  split
  · next h => rw [h, sink?_setSink_self hc]
  · next h => rw [sink?_setSink_of_ne (Ne.symm h)]

/-- Bookkeeping changes, but not so that the whole ends. -/
theorem ends_setBook (hc : c < net.composites.size) {b : Bookkeeping α}
    (h : b.completed = net.isOver c) : net.Ends [] (net.setBook c b) := by
  refine .of_eq (funext fun d => ?_) (due_setBook b) rfl
  rw [isOver_setBook hc, h]
  split
  · next hd => rw [hd]
  · rfl

end Steps

section Sinks

variable [Quantity α] (climb : Nat → Nat → Report α → Network α → Network α) (report : Report α)
  (net : Network α)

theorem due_deliver (sink : Sink α) :
    (sink.deliver climb report net).2.due = if report.isDone then [] else sink.due := by
  induction sink with
  | relay delegate callback ih =>
    rw [Sink.deliver_relay, Sink.due, ih]
    cases report.isDone <;> rfl
  | _ => exact (ite_self _).symm

/-- The relays in front of a sink make their notes after all that the report leads to. -/
theorem ran_deliver (sink : Sink α) :
    (sink.deliver climb report net).1.ran =
      (sink.target?.elim net fun t => climb t.1 t.2 report net).ran ++
        if report.isDone then sink.due else [] := by
  induction sink with
  | relay delegate callback ih =>
    rw [Sink.deliver_relay]
    cases hd : report.isDone with
    | false =>
      rw [hd] at ih
      exact ih
    | true =>
      rw [hd] at ih
      cases callback with
      | none => exact ih.trans (congrArg _ (List.append_nil _).symm)
      | some k =>
        have hrun : (k.run (delegate.deliver climb report net).1).ran =
            (delegate.deliver climb report net).1.ran ++ [k.name] := by
          simp [ran, Callback.run, note, Note.callback?]
        exact hrun.trans ((congrArg (· ++ [k.name]) ih).trans (List.append_assoc _ _ _))
  | log l => simp [Sink.deliver, Sink.target?, ran, note, Note.callback?, Sink.due]
  | _ => exact ((congrArg _ (ite_self _)).trans (List.append_nil _)).symm

end Sinks

/-! ### A report that climbs -/

section Climb

variable [Quantity α] {net : Network α} {c i : Nat} {report : Report α} {e : Emission α}

omit [Quantity α] in
theorem Layered.downward (h : net.Layered) : net.Downward 0 := by
  intro c t _ ht
  obtain ⟨sink, hs, hst⟩ := Option.bind_eq_some_iff.mp ht
  obtain ⟨sink', hs', hbelow⟩ := h c (lt_of_sink? hs)
  cases hs.symm.trans hs'
  exact ⟨Nat.zero_le _, hbelow t.1 t.2 hst⟩

/-- The composites that end by a report: they are before `n` and in the order of the network, and
there are none if the report is not an end itself. -/
structure Chain (n : Nat) (report : Report α) (ended : List Nat) : Prop where
  sorted : ended.Pairwise (· < ·)
  below : ∀ d ∈ ended, d < n
  quiet : report.isDone = false → ended = []

omit [Quantity α] in
theorem chain_nil (n : Nat) (report : Report α) : Chain n report [] :=
  ⟨.nil, List.forall_mem_nil _, fun _ => rfl⟩

omit [Quantity α] in
theorem Chain.mono {n m : Nat} {ended : List Nat} (h : Chain n report ended) (hle : n ≤ m) :
    Chain m report ended :=
  ⟨h.sorted, fun d hd => Nat.lt_of_lt_of_le (h.below d hd) hle, h.quiet⟩

omit [Quantity α] in
/-- A composite comes after those that its sink reports to. -/
theorem Chain.snoc {ended : List Nat} (h : Chain c report ended) :
    Chain (c + 1) report (ended ++ if report.isDone then [c] else []) := by
  cases hdone : report.isDone with
  | false =>
    rw [h.quiet hdone]
    exact chain_nil (c + 1) report
  | true =>
    refine ⟨List.pairwise_append.mpr ⟨h.sorted, List.pairwise_singleton _ _, ?_⟩, ?_, ?_⟩
    · intro d hd d' hd'
      rw [List.mem_singleton.mp hd']
      exact h.below d hd
    · intro d hd
      rcases List.mem_append.mp hd with hd | hd
      · exact Nat.lt_succ_of_lt (h.below d hd)
      · exact Nat.lt_succ_of_le (Nat.le_of_eq (List.mem_singleton.mp hd))
    · intro hfalse
      rw [hdone] at hfalse
      cases hfalse

omit [Quantity α] in
theorem due_during {d : Nat} (hc : c < net.composites.size) (hd : d ≠ c) (e : Emission α) :
    (net.during c e).due d = net.due d := by
  rw [during, due_setSink (Nat.lt_of_lt_of_eq hc Array.size_modify.symm), if_neg hd, due_setBook]

omit [Quantity α] in
/-- What composite `c` emits lets others end, and then the composite itself if this is what it
emits. Its sink comes back after that, with nothing due any more. -/
theorem Ends.of_during {base net' : Network α} {ended : List Nat} (hc : c < net.composites.size)
    (hopen : net.isOver c = false) (hseen : e.seen.completed = e.report.isDone)
    (h : (net.during c e).Ends ended base) (hout : c ∉ ended) (hover : net'.isOver = base.isOver)
    (hdue : ∀ d, net'.due d =
      if d = c then if e.report.isDone then [] else net.due c else base.due d)
    (hran : net'.ran = base.ran ++ if e.report.isDone then net.due c else []) :
    net.Ends (ended ++ if e.report.isDone then [c] else []) net' ∧
      net'.isOver c = e.report.isDone := by
  -- while it is delivered, composite `c` itself has changed already, and its sink is out
  have hover₀ (d : Nat) :
      (net.during c e).isOver d = if d = c then e.report.isDone else net.isOver d := by
    rw [during, isOver_setSink, isOver_setBook hc, hseen]
  have hself : net'.isOver c = e.report.isDone := by
    rw [hover, h.isOver_of_notMem hout, hover₀, if_pos rfl]
  have hne {d : Nat} (hd : d ≠ c) : d ∉ if e.report.isDone then [c] else [] := by
    split <;> simp [hd]
  have hmem_self : c ∈ (if e.report.isDone then [c] else []) ↔ e.report.isDone = true := by
    split <;> simp_all
  refine ⟨⟨?_, fun d => ?_, fun d hd => ?_, fun d => ?_, ?_⟩, hself⟩
  · refine List.nodup_append.mpr ⟨h.nodup, ?_, fun d hd d' hd' heq => ?_⟩
    · split <;> simp
    · refine hne (d := d') ?_ hd'
      rintro rfl
      exact hout (heq ▸ hd)
  · by_cases hd : d = c
    · rw [hd, List.mem_append, or_iff_right hout, hmem_self, hself, hopen, and_iff_left rfl]
    · rw [List.mem_append, or_iff_left (hne hd), h.mem_iff, hover, hover₀, if_neg hd]
  · have hdc : d ≠ c := by
      rintro rfl
      rw [hopen] at hd
      cases hd
    rw [hover]
    refine h.stays d ?_
    rw [hover₀, if_neg hdc, hd]
  · rw [hdue]
    by_cases hd : d = c
    · subst hd
      simp only [List.mem_append, hout, false_or, hmem_self, if_true]
    · simp only [List.mem_append, or_iff_left (hne hd), if_neg hd, h.due, due_during hc hd]
  · have hsame : ended.flatMap (net.during c e).due = ended.flatMap net.due := by
      refine List.flatMap_congr fun d hd => due_during hc ?_ e
      rintro rfl
      exact hout hd
    have hran₀ : (net.during c e).ran = net.ran := rfl
    rw [hran, h.ran, hsame, hran₀, List.flatMap_append, List.append_assoc]
    congr 2
    split <;> simp

omit [Quantity α] in
/-- A sink hands a report on to a piece of a composite, if it hands it on at all. -/
theorem ends_handed {climb : Nat → Nat → Report α → Network α → Network α} {sink : Sink α}
    {P : List Nat → Prop} (hnil : P []) (h : ∀ t, sink.target? = some t →
      ∃ ended, net.Ends ended (climb t.1 t.2 report net) ∧ P ended) :
    ∃ ended, net.Ends ended (sink.target?.elim net fun t => climb t.1 t.2 report net) ∧
      P ended := by
  cases ht : sink.target? with
  | none => exact ⟨[], .refl net, hnil⟩
  | some t => exact h t ht

section Emissions

-- what is known of the composites further down
variable {levels : Nat} (ih : ∀ c i report (net : Network α), net.Downward 0 →
  ∃ ended, net.Ends ended (net.climb levels c i report) ∧ Chain (c + 1) report ended)

include ih

/-- A single report on a whole, which may be its end. -/
theorem ends_emit (hd : net.Downward 0) (hc : c < net.composites.size)
    (hopen : net.isOver c = false) (hseen : e.seen.completed = e.report.isDone) :
    ∃ ended, net.Ends ended (emit (climb levels) c net e) ∧ Chain (c + 1) e.report ended ∧
      (emit (climb levels) c net e).isOver c = e.report.isDone := by
  cases hs : net.sink? c with
  | none =>
    have hnone : net.due c = [] := by rw [due, hs, Option.elim_none]
    have hdue (d : Nat) : (net.setBook c e.seen).due d =
        if d = c then if e.report.isDone then [] else net.due c else (net.during c e).due d := by
      by_cases hdc : d = c
      · simp [hdc, hnone]
      · simp [hdc, due_during hc hdc]
    have hran : (net.setBook c e.seen).ran =
        (net.during c e).ran ++ if e.report.isDone then net.due c else [] := by
      rw [hnone, ite_self, List.append_nil]
      rfl
    obtain ⟨hends, hover⟩ := Ends.of_during hc hopen hseen (.refl _) List.not_mem_nil
      (isOver_setSink none).symm hdue hran
    rw [emit_of_none hs]
    exact ⟨_, hends, (chain_nil c e.report).snoc, hover⟩
  | some sink =>
    have hduring : (net.during c e).Downward 0 :=
      fun d t hd' ht' => hd d t hd' (target?_during e ht').1
    have hbelow (t : Nat × Nat) (ht : sink.target? = some t) : ∃ ended,
        (net.during c e).Ends ended (climb levels t.1 t.2 e.report (net.during c e)) ∧
          Chain c e.report ended := by
      obtain ⟨ended, hends, hchain⟩ := ih t.1 t.2 e.report _ hduring
      have hlt : t.1 < c := (hd c t (Nat.zero_le c) ((target?_of_sink? hs).trans ht)).2
      exact ⟨ended, hends, hchain.mono hlt⟩
    obtain ⟨ended, hends, hchain⟩ := ends_handed (chain_nil c e.report) hbelow
    have hcomposites := sink.composites_deliver (climb levels) e.report (net.during c e)
    have hmade := ran_deliver (climb levels) e.report (net.during c e) sink
    generalize sink.target?.elim (net.during c e) (fun t =>
      climb levels t.1 t.2 e.report (net.during c e)) = base at hends hcomposites hmade
    have hself : net.due c = sink.due := by rw [due, hs, Option.elim_some]
    have hc' : c < (sink.deliver (climb levels) e.report (net.during c e)).1.composites.size := by
      rw [(steady_deliver (steady_climb levels) e.report (net.during c e) sink).size]
      simpa [during, setSink, setBook] using hc
    have hover : (emit (climb levels) c net e).isOver = base.isOver := by
      rw [emit_of_sink hs, isOver_setSink, isOver_congr hcomposites]
    have hdue (d : Nat) : (emit (climb levels) c net e).due d =
        if d = c then if e.report.isDone then [] else net.due c else base.due d := by
      rw [emit_of_sink hs, due_setSink hc', due_congr hcomposites, Option.elim_some, due_deliver,
        hself]
    have hran : (emit (climb levels) c net e).ran =
        base.ran ++ if e.report.isDone then net.due c else [] := by
      rw [emit_of_sink hs, hself]
      exact hmade
    have hout : c ∉ ended := fun hmem => Nat.lt_irrefl c (hchain.below c hmem)
    obtain ⟨hends', hself'⟩ := Ends.of_during hc hopen hseen hends hout hover hdue hran
    exact ⟨_, hends', hchain.snoc, hself'⟩

/-- By reports on the course of the work nothing ends. -/
theorem ends_emitAll (hd : net.Downward 0) (hc : c < net.composites.size)
    (hopen : net.isOver c = false) {es : List (Emission α)}
    (hes : ∀ e ∈ es, e.report.isDone = false ∧ e.seen.completed = e.report.isDone) :
    net.Ends [] (es.foldl (emit (climb levels) c) net) ∧
      net.Steady (es.foldl (emit (climb levels) c) net) ∧
      (es.foldl (emit (climb levels) c) net).isOver c = false := by
  induction es generalizing net with
  | nil => exact ⟨.refl net, .refl net, hopen⟩
  | cons e es ihe =>
    obtain ⟨⟨hquiet, hseen⟩, hrest⟩ := List.forall_mem_cons.mp hes
    have hsteady := steady_emit (steady_climb levels) c net e
    obtain ⟨ended, hends, hchain, hover⟩ := ends_emit ih hd hc hopen hseen
    obtain rfl := hchain.quiet hquiet
    obtain ⟨hends', hsteady', hover'⟩ := ihe (hd.steady hsteady) (hsteady.size ▸ hc)
      (hover.trans hquiet) hrest
    exact ⟨hends.trans hends', hsteady.trans hsteady', hover'⟩

end Emissions

/-- **The composites that end while a report climbs**, each one behind those whose relays make their
notes before. -/
theorem ends_climb (hd : net.Downward 0) (levels c i : Nat) (report : Report α) :
    ∃ ended, net.Ends ended (net.climb levels c i report) ∧ Chain (c + 1) report ended := by
  induction levels generalizing c i report net with
  | zero => exact ⟨[], .refl net, chain_nil (c + 1) report⟩
  | succ levels ih =>
    cases hb : net.book? c with
    | none =>
      rw [climb_of_none hb]
      exact ⟨[], .refl net, chain_nil (c + 1) report⟩
    | some b =>
      have hc := lt_of_book? hb
      have hover : net.isOver c = b.completed := by rw [isOver, hb, Option.any_some]
      rw [climb_succ hb]
      cases ho : b.completed with
      | true =>
        -- nothing is told any more
        rw [b.react_closed ho, List.foldl_nil]
        refine ⟨[], ends_setBook hc ?_, chain_nil (c + 1) report⟩
        rw [b.completed_react_of_completed ho, hover, ho]
      | false =>
        have hshows := b.react_shows i report
        rcases b.react_ends ho i report with
          ⟨hafter, hquiet⟩ | ⟨hdone, hafter, amount, closing, hes, hquiet, hclosing⟩
        · obtain ⟨hends, hsteady, hopen⟩ := ends_emitAll (fun _ _ _ _ hd => ih hd _ _ _) hd hc
            (hover.trans ho) fun e he => ⟨hquiet e he, (hshows e he).2⟩
          refine ⟨[], hends.trans (ends_setBook (hsteady.size ▸ hc) ?_), chain_nil (c + 1) report⟩
          rw [hafter, hopen]
        · -- an amount is told, by which nothing ends, and then the end of the whole
          rw [hes] at hshows ⊢
          obtain ⟨⟨-, hseen⟩, hshows'⟩ := List.forall_mem_cons.mp hshows
          obtain ⟨-, hseen'⟩ := List.forall_mem_singleton.mp hshows'
          have hsteady := steady_emit (steady_climb levels) c net amount
          obtain ⟨ended, hends, hchain, hopen⟩ :=
            ends_emit (fun _ _ _ _ hd => ih hd _ _ _) hd hc (hover.trans ho) hseen
          obtain rfl := hchain.quiet hquiet
          have hsteady' := hsteady.trans (steady_emit (steady_climb levels) c _ closing)
          obtain ⟨ended', hends', hchain', hclosed⟩ :=
            ends_emit (fun _ _ _ _ hd => ih hd _ _ _) (hd.steady hsteady) (hsteady.size ▸ hc)
              (hopen.trans hquiet) hseen'
          have hlast := ends_setBook (hsteady'.size ▸ hc)
            (hafter.trans (hclosed.trans hclosing).symm)
          refine ⟨ended', ?_, hchain'.sorted, hchain'.below, fun hfalse => ?_⟩
          · have hall := (hends.trans hends').trans hlast
            rwa [List.nil_append, List.append_nil] at hall
          · rw [hdone] at hfalse
            cases hfalse

end Climb

/-! ### Many operations -/

section Run

variable [Quantity α] {net : Network α}

/-- Nothing ends when a piece is added. -/
theorem ends_addPart (net : Network α) (c : Nat) (weight : α) :
    net.Ends [] (net.addPart c weight).1 := by
  refine .of_eq (funext fun d => ?_) (funext fun d => ?_) rfl
  · unfold isOver book? addPart
    rw [Array.getElem?_modify]
    split
    · cases net.composites[d]? <;> rfl
    · rfl
  · exact congrArg (Option.elim · [] Sink.due) (sink?_modify
      (f := fun k => { k with book := k.book.register weight }) (fun _ => rfl) net c d)

/-- **The composites that end when a sink takes a report.** The relays in front of this sink
make their notes after all the others. -/
theorem ends_deliver (hd : net.Downward 0) (report : Report α) (sink : Sink α) :
    ∃ ended base, net.Ends ended base ∧ ended.Pairwise (· < ·) ∧
      (net.deliver report sink).1.composites = base.composites ∧
      (net.deliver report sink).1.ran = base.ran ++ (if report.isDone then sink.due else []) ∧
      (net.deliver report sink).2.due = if report.isDone then [] else sink.due := by
  have hclimb (t : Nat × Nat) (_ : sink.target? = some t) : ∃ ended,
      net.Ends ended (net.climb net.composites.size t.1 t.2 report) ∧ ended.Pairwise (· < ·) := by
    obtain ⟨ended, hends, hchain⟩ := ends_climb hd net.composites.size t.1 t.2 report
    exact ⟨ended, hends, hchain.sorted⟩
  obtain ⟨ended, hends, hsorted⟩ := ends_handed List.Pairwise.nil hclimb
  exact ⟨ended, _, hends, hsorted, sink.composites_deliver _ report net,
    ran_deliver _ report net sink, due_deliver _ report net sink⟩

/-- **The composites that end when something is done with one of them.** -/
theorem ends_operate (hd : net.Downward 0) (c : Nat) (op : Operation α) :
    ∃ ended, net.Ends ended (net.operate c op) := by
  cases op with
  | register weight => exact ⟨[], ends_addPart net c weight⟩
  | report i report =>
    obtain ⟨ended, hends, -⟩ := ends_climb hd net.composites.size c i report
    exact ⟨ended, hends⟩

theorem steady_operate (net : Network α) (c : Nat) (op : Operation α) :
    net.Steady (net.operate c op) := by
  cases op with
  | register weight => exact .addPart net c weight
  | report i report => exact steady_climb _ c i report net

/-- The network after some operations, each on the composite that comes with it. -/
def operateAll (net : Network α) (ops : List (Nat × Operation α)) : Network α :=
  ops.foldl (fun net op => net.operate op.1 op.2) net

/-- **The composites that end in the course of any operations**, the first one first. -/
theorem ends_operateAll (hd : net.Downward 0) (ops : List (Nat × Operation α)) :
    ∃ ended, net.Ends ended (net.operateAll ops) := by
  induction ops generalizing net with
  | nil => exact ⟨[], .refl net⟩
  | cons op ops ih =>
    obtain ⟨ended, hends⟩ := ends_operate hd op.1 op.2
    obtain ⟨later, hlater⟩ := ih (hd.steady (steady_operate net op.1 op.2))
    exact ⟨ended ++ later, hends.trans hlater⟩

/-- The sink of a composite is told the end by the report that brings it about. -/
theorem done_taken_iff {c : Nat} (hc : c < net.composites.size) (levels i : Nat)
    (report : Report α) :
    .done ∈ (net.taken (levels + 1) c i report).map Prod.fst ↔
      (net.climb (levels + 1) c i report).isOver c = true ∧ net.isOver c = false := by
  obtain ⟨k, hk⟩ : ∃ k, net.composites[c]? = some k := ⟨_, Array.getElem?_eq_getElem hc⟩
  have hbefore : net.isOver c = k.book.completed := by rw [isOver, book?, hk]; rfl
  have hafter : (net.climb (levels + 1) c i report).isOver c =
      (k.book.react i report).1.completed := by
    rw [isOver, book?_climb_self (by rw [book?, hk]; rfl), Option.any_some]
  have htaken : (net.taken (levels + 1) c i report).map Prod.fst =
      (k.book.react i report).2.map Emission.report := by
    rw [taken, hk]
    exact map_takenOf _ c net _
  rw [htaken, hbefore, hafter, ← Bool.not_eq_true]
  exact (k.book.operate_effect (.report i report)).done_mem_iff

end Run

end Network

end Estree.Progress
