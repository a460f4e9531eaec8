import Estree.Proofs.Progress.Consistency

/-!
# What a report changes on its way

A report on a piece climbs from composite to composite. Each composite on the way puts the report
into its bookkeeping and hands on what there is to tell of the whole, and its own sink is out
meanwhile. What this does to the bookkeeping of all the composites is a matter of
`Bookkeeping.react` alone: whatever a single report keeps true of the bookkeeping it is put into, a
climb keeps true of all of them, provided that what is handed on is again a report of the right
kind. This induction on the climb is done once, in `Network.books_climb`.

## Main results

* `Sink.book?_deliver` and `Sink.heard_deliver`: a sink that hands its reports on does what the
  piece does that they are handed to;
* `Network.books_climb`: what reports keep true of the bookkeeping of every composite;
* `Network.book?_climb_of_lt`: the composites after the one with the piece are left alone;
* `Network.completed_climb`: what is over stays over;
* `Network.at?_deliver`: the piece has taken the report.
-/

namespace Estree.Progress

open Quantity

variable {α : Type}

namespace Network

/-- The bookkeeping of a composite. -/
def book? (net : Network α) (c : Nat) : Option (Bookkeeping α) :=
  (net.composites[c]?).map Composite.book

/-- The piece that a composite reports on, if its sink is in place and hands its reports on. -/
def target? (net : Network α) (c : Nat) : Option (Nat × Nat) :=
  (net.sink? c).bind Sink.target?

/-- The piece with index `t.2` of composite `t.1`. -/
def at? (net : Network α) (t : Nat × Nat) : Option (Piece α) :=
  (net.book? t.1).bind fun b => b.pieces[t.2]?

variable {net net' : Network α} {c c' : Nat} {b : Bookkeeping α}

theorem lt_of_book? (h : net.book? c = some b) : c < net.composites.size := by
  obtain ⟨k, hk, -⟩ := Option.map_eq_some_iff.mp h
  exact (Array.getElem?_eq_some_iff.mp hk).1

theorem exists_book? (h : c < net.composites.size) : ∃ b, net.book? c = some b := by
  simp [book?, h]

theorem book?_setBook_self (h : c < net.composites.size) (b : Bookkeeping α) :
    (net.setBook c b).book? c = some b := by
  simp [book?, setBook, Array.getElem_modify, h]

theorem book?_setBook_of_ne (h : c ≠ c') (b : Bookkeeping α) :
    (net.setBook c b).book? c' = net.book? c' := by
  simp [book?, setBook, Array.getElem?_modify, h]

@[simp] theorem book?_setSink (sink : Option (Sink α)) (d : Nat) :
    (net.setSink c sink).book? d = net.book? d := by
  by_cases h : c = d
  · subst h
    simp [book?, setSink, Array.getElem?_modify, Function.comp_def]
  · simp [book?, setSink, Array.getElem?_modify, h]

@[simp] theorem sink?_setBook (b : Bookkeeping α) (d : Nat) :
    (net.setBook c b).sink? d = net.sink? d :=
  sink?_modify (f := fun k => { k with book := b }) (fun _ => rfl) net c d

@[simp] theorem target?_setBook (b : Bookkeeping α) (d : Nat) :
    (net.setBook c b).target? d = net.target? d := by
  simp [target?]

theorem target?_of_sink? {sink : Sink α} (h : net.sink? c = some sink) :
    net.target? c = sink.target? := by
  simp [target?, h]

/-- While the sink of a composite is out, the others are where they were. -/
theorem sink?_out {d : Nat} {sink : Sink α} (h : (net.setSink c none).sink? d = some sink) :
    net.sink? d = some sink ∧ d ≠ c := by
  by_cases hd : c = d
  · subst hd
    have hlt : c < net.composites.size := by simpa [setSink] using lt_of_sink? h
    rw [sink?_setSink_self hlt] at h
    cases h
  · rw [sink?_setSink_of_ne hd] at h
    exact ⟨h, Ne.symm hd⟩

variable [Quantity α]

theorem Steady.symm (h : net.Steady net') : net'.Steady net :=
  ⟨h.size.symm, h.flags.symm, h.names.symm, fun c => (h.sinks c).symm⟩

theorem Steady.target? (h : net.Steady net') (c : Nat) : net'.target? c = net.target? c := by
  have hcore (a : Network α) : a.target? c = ((a.sink? c).map Sink.core).bind Sink.target? := by
    unfold Network.target?
    cases a.sink? c with
    | none => rfl
    | some sink => exact (Sink.target?_core sink).symm
  rw [hcore, hcore, h.sinks]

theorem Steady.isSome_sink? (h : net.Steady net') (c : Nat) :
    (net'.sink? c).isSome = (net.sink? c).isSome := by
  have hcore := congrArg Option.isSome (h.sinks c)
  rwa [Option.isSome_map, Option.isSome_map] at hcore

end Network

variable [Quantity α]

/-! ### What a report does to the bookkeeping -/

omit [Quantity α] in
theorem Report.isDone_of_isUpdate {report : Report α} (h : report.IsUpdate) :
    report.isDone = false := by
  cases report <;> first | rfl | cases h

/-- A piece takes an amount as it is, and its total stays. -/
theorem Piece.take_update {p : Piece α} {report : Report α} (h : report.IsUpdate) :
    (p.take report).total = p.total ∧
      (p.take report).worked = report.amount?.getD p.worked := by
  match report, h with
  | .title text, _ => exact ⟨rfl, rfl⟩
  | .worked amount none, _ => exact ⟨rfl, rfl⟩

namespace Bookkeeping

variable {b b' : Bookkeeping α} {reports : List (Report α)}

omit [Quantity α] in
/-- A whole that is not over after an operation was not over before, and its end is not told. -/
theorem Effect.updates (h : b.Effect (b', reports)) (ho : b'.completed = false) :
    b.completed = false ∧ ∀ r ∈ reports, r.IsUpdate := by
  cases h with
  | added hm hn hc => exact ⟨hc ▸ ho, List.forall_mem_nil _⟩
  | told hm hn hc hr => exact ⟨hc ▸ ho, hr.1⟩
  | ended hi hm hn hc hs hr => exact ⟨hc ▸ ho, hr.1⟩
  | closed hi hm hn hc hc' hs =>
    rw [ho] at hc'
    cases hc'

theorem react_running {i : Nat} {report : Report α}
    (ho : (b.react i report).1.completed = false) :
    b.completed = false ∧ ∀ e ∈ (b.react i report).2,
      e.seen.pieces = (b.react i report).1.pieces ∧ e.seen.completed = false ∧
        e.report.IsUpdate := by
  obtain ⟨hb, hupdates⟩ := (operate_effect b (.report i report)).updates ho
  constructor
  · exact hb
  · intro e he
    obtain ⟨hpieces, hdone⟩ := react_shows b i report e he
    have hu := hupdates e.report (List.mem_map_of_mem he)
    exact ⟨hpieces, hdone.trans (Report.isDone_of_isUpdate hu), hu⟩

/-- What is over stays over. -/
theorem completed_react_of_completed (hc : b.completed = true) (i : Nat) (report : Report α) :
    (b.react i report).1.completed = true := by
  cases ho : (b.react i report).1.completed with
  | true => rfl
  | false =>
    rw [(react_running ho).1] at hc
    cases hc

/-- Only the end of a piece can be the end of the whole. -/
theorem completed_react (b : Bookkeeping α) (i : Nat) {report : Report α}
    (h : report.isDone = false) : (b.react i report).1.completed = b.completed := by
  unfold react
  cases b.pieces[i]? with
  | none => rfl
  | some p => cases report <;> first | rfl | cases h

/-- What a report keeps true of a piece, it keeps true of all the pieces, and what is shown with it
is true as well. -/
theorem forall_react {P : Piece α → Prop} {report : Report α} (h : ∀ p ∈ b.pieces, P p) (i : Nat)
    (htake : ∀ p, P p → P (p.take report)) :
    (∀ p ∈ (b.react i report).1.pieces, P p) ∧
      ∀ e ∈ (b.react i report).2, ∀ p ∈ e.seen.pieces, P p := by
  have hafter : ∀ p ∈ (b.react i report).1.pieces, P p := by
    cases hp : b.pieces[i]? with
    | none =>
      simp only [react, hp]
      exact h
    | some p =>
      intro q hq
      obtain ⟨j, hj, rfl⟩ := Array.mem_iff_getElem.mp hq
      have hq' := react_pieces hp report j
      rw [Array.getElem?_eq_getElem hj] at hq'
      split at hq'
      · rw [Option.some.inj hq']
        exact htake p (h p (Array.mem_of_getElem? hp))
      · exact h _ (Array.mem_of_getElem? hq'.symm)
  constructor
  · exact hafter
  · intro e he
    rw [(react_shows b i report e he).1]
    exact hafter

end Bookkeeping

/-! ### What a sink does with a report -/

section Deliver

variable (climb : Nat → Nat → Report α → Network α → Network α) (report : Report α)
  (net : Network α)

/-- A sink that hands its reports on does to the composites what the piece does. -/
theorem Sink.composites_deliver (sink : Sink α) :
    (sink.deliver climb report net).1.composites =
      (sink.target?.elim net fun t => climb t.1 t.2 report net).composites := by
  induction sink with
  | relay delegate callback ih =>
    simp only [Sink.deliver]
    split <;> exact ih
  | _ => rfl

theorem Sink.book?_deliver (sink : Sink α) (d : Nat) :
    (sink.deliver climb report net).1.book? d =
      (sink.target?.elim net fun t => climb t.1 t.2 report net).book? d := by
  unfold Network.book?
  rw [sink.composites_deliver]

/-- No relay on the way makes a note of a report. -/
theorem Sink.heard_deliver {sink : Sink α} {t : Nat × Nat} (h : sink.target? = some t) :
    (sink.deliver climb report net).1.heard = (climb t.1 t.2 report net).heard := by
  induction sink with
  | relay delegate callback ih =>
    simp only [Sink.deliver]
    split
    · rw [← ih h]
      simp [Network.heard, Network.note, Note.report?]
    · exact ih h
  | part c i =>
    cases h
    rfl
  | _ => cases h

end Deliver

namespace Network

variable {net net' : Network α} {root c c' i : Nat} {b : Bookkeeping α} {report : Report α}

theorem climb_succ (hb : net.book? c = some b) (levels i : Nat) (report : Report α) :
    net.climb (levels + 1) c i report =
      ((b.react i report).2.foldl (emit (climb levels) c) net).setBook c (b.react i report).1 := by
  obtain ⟨k, hk, rfl⟩ := Option.map_eq_some_iff.mp hb
  rw [Network.climb, hk]

theorem climb_of_none (hb : net.book? c = none) (levels i : Nat) (report : Report α) :
    net.climb levels c i report = net := by
  cases levels with
  | zero => rfl
  | succ levels => rw [Network.climb, Option.map_eq_none_iff.mp hb]

theorem emit_of_none {climb : Nat → Nat → Report α → Network α → Network α}
    (hs : net.sink? c = none) (e : Emission α) : emit climb c net e = net.setBook c e.seen := by
  have hs' := (sink?_setBook (c := c) e.seen c).trans hs
  unfold sink? at hs'
  simp only [emit, hs']

/-! ### What reports keep true of every bookkeeping -/

/-- The sinks of the composites from `root` on hand reports on to earlier ones of them. -/
def Downward (root : Nat) (net : Network α) : Prop :=
  ∀ c t, root ≤ c → net.target? c = some t → root ≤ t.1 ∧ t.1 < c

/-- `Inv` holds of the bookkeeping of every composite from `root` on. -/
def Books (root : Nat) (Inv : Nat → Bookkeeping α → Prop) (net : Network α) : Prop :=
  ∀ c b, root ≤ c → net.book? c = some b → Inv c b

/-- A report that fits composite `c` keeps `Inv`, also in what is shown meanwhile, and what is
reported because of it fits the composites before. -/
def Lasting (root : Nat) (Inv : Nat → Bookkeeping α → Prop) (Fits : Nat → Report α → Prop) : Prop :=
  ∀ c b i report, root ≤ c → Inv c b → Fits c report → Inv c (b.react i report).1 ∧
    ∀ e ∈ (b.react i report).2, Inv c e.seen ∧ ∀ c', root ≤ c' → c' < c → Fits c' e.report

variable {Inv : Nat → Bookkeeping α → Prop} {Fits : Nat → Report α → Prop}

omit [Quantity α] in
theorem Books.setBook (h : net.Books root Inv) (hb : Inv c b) :
    (net.setBook c b).Books root Inv := by
  intro d b' hd hb'
  by_cases hc : c = d
  · subst hc
    have hlt : c < net.composites.size := by simpa [Network.setBook] using lt_of_book? hb'
    rw [book?_setBook_self hlt] at hb'
    cases hb'
    exact hb
  · rw [book?_setBook_of_ne hc] at hb'
    exact h d b' hd hb'

theorem Downward.steady (h : net.Downward root) (hs : net.Steady net') : net'.Downward root := by
  intro c t hc ht
  rw [hs.target?] at ht
  exact h c t hc ht

omit [Quantity α] in
theorem target?_during (e : Emission α) {d : Nat} {t : Nat × Nat}
    (h : (net.during c e).target? d = some t) : net.target? d = some t ∧ d ≠ c := by
  obtain ⟨sink, hs, ht⟩ := Option.bind_eq_some_iff.mp h
  obtain ⟨hs', hne⟩ := sink?_out hs
  simp only [sink?_setBook] at hs'
  exact ⟨(target?_of_sink? hs').trans ht, hne⟩

theorem Books.emit {levels : Nat}
    (ih : ∀ c i report (net : Network α), net.Downward root → net.Books root Inv → root ≤ c →
      Fits c report → (net.climb levels c i report).Books root Inv)
    (hd : net.Downward root) (h : net.Books root Inv) (hc : root ≤ c) {e : Emission α}
    (hseen : Inv c e.seen) (hfits : ∀ c', root ≤ c' → c' < c → Fits c' e.report) :
    (emit (climb levels) c net e).Books root Inv := by
  have hset : (net.setBook c e.seen).Books root Inv := h.setBook hseen
  have hduring : (net.during c e).Books root Inv := by
    intro d b' hd' hb'
    exact hset d b' hd' ((book?_setSink none d).symm.trans hb')
  cases hs : net.sink? c with
  | none =>
    rw [emit_of_none hs]
    exact hset
  | some sink =>
    rw [emit_of_sink hs]
    intro d b' hd' hb'
    rw [book?_setSink, sink.book?_deliver] at hb'
    cases ht : sink.target? with
    | none =>
      rw [ht] at hb'
      exact hduring d b' hd' hb'
    | some t =>
      rw [ht] at hb'
      obtain ⟨hroot, hlt⟩ := hd c t hc ((target?_of_sink? hs).trans ht)
      have hdown : (net.during c e).Downward root :=
        fun d t hd' ht' => hd d t hd' (target?_during e ht').1
      exact ih t.1 t.2 e.report _ hdown hduring hroot (hfits t.1 hroot hlt) d b' hd' hb'

/-- **What reports keep true of the bookkeeping of every composite.** A report that fits is handed
to a composite, and everything that is reported because of it fits. -/
theorem books_climb (hlasting : Lasting root Inv Fits) (levels i : Nat) (hd : net.Downward root)
    (h : net.Books root Inv) (hc : root ≤ c) {report : Report α} (hfits : Fits c report) :
    (net.climb levels c i report).Books root Inv := by
  induction levels generalizing c i report net with
  | zero => exact h
  | succ levels ih =>
    cases hb : net.book? c with
    | none =>
      rw [climb_of_none hb]
      exact h
    | some b =>
      obtain ⟨hafter, hes⟩ := hlasting c b i report hc (h c b hc hb) hfits
      rw [climb_succ hb]
      refine Books.setBook ?_ hafter
      generalize (b.react i report).2 = es at hes
      clear hb hafter
      induction es generalizing net with
      | nil => exact h
      | cons e es ihe =>
        obtain ⟨⟨hseen, hmore⟩, hrest⟩ := List.forall_mem_cons.mp hes
        refine ihe (hd.steady (steady_emit (steady_climb levels) c net e)) ?_ hrest
        exact h.emit (fun c i report net hd h hc hfits => ih i hd h hc hfits) hd hc hseen hmore

/-- A report leaves the bookkeeping of the composites after alone. -/
theorem book?_climb_of_lt (hd : net.Downward root) (levels i : Nat) (report : Report α)
    (hc : root ≤ c) (hlt : c < c') : (net.climb levels c i report).book? c' = net.book? c' := by
  have hlasting : Lasting root (fun d b => d = c' → net.book? c' = some b) (fun d _ => d < c') := by
    intro d b i report _ _ hd
    constructor
    · intro heq
      omega
    · intro e _
      constructor
      · intro heq
        omega
      · intro d' _ hd'
        omega
  have hbooks : (net.climb levels c i report).Books root
      fun d b => d = c' → net.book? c' = some b :=
    books_climb hlasting levels i hd (fun d b _ hb hdc => hdc ▸ hb) hc hlt
  have hsize := (net.steady_climb levels c i report).size
  cases hb : (net.climb levels c i report).book? c' with
  | some b => exact (hbooks c' b (by omega) hb rfl).symm
  | none =>
    symm
    rw [book?, Option.map_eq_none_iff, Array.getElem?_eq_none_iff] at hb ⊢
    exact hsize ▸ hb

/-- What is over stays over. -/
theorem completed_climb (hd : net.Downward root) (levels i : Nat) (report : Report α)
    (hc : root ≤ c) (hc' : root ≤ c') (hb : net.book? c' = some b) (hover : b.completed = true) :
    ∀ b', (net.climb levels c i report).book? c' = some b' → b'.completed = true := by
  have hlasting : Lasting (α := α) root (fun d b => d = c' → b.completed = true)
      (fun _ _ => True) := by
    intro d b i report _ h _
    constructor
    · intro hd
      exact b.completed_react_of_completed (h hd) i report
    · intro e he
      refine ⟨fun hd => ?_, fun _ _ _ => trivial⟩
      simp [Bookkeeping.react_closed (h hd)] at he
  have hnow : net.Books root fun d b => d = c' → b.completed = true := by
    rintro d b₀ _ hb₀ rfl
    cases hb.symm.trans hb₀
    exact hover
  intro b' hb'
  exact books_climb hlasting levels i hd hnow hc trivial c' b' hc' hb' rfl

/-! ### The piece itself -/

theorem book?_climb_self (hb : net.book? c = some b) (levels i : Nat) (report : Report α) :
    (net.climb (levels + 1) c i report).book? c = some (b.react i report).1 := by
  obtain ⟨k, hk, rfl⟩ := Option.map_eq_some_iff.mp hb
  exact book_climb levels hk

/-- A report to a sink that hands it on is put into the bookkeeping of the composite it is about. -/
theorem book?_deliver_self {t : Nat × Nat} {sink : Sink α} (ht : sink.target? = some t)
    (hb : net.book? t.1 = some b) (report : Report α) :
    (net.deliver report sink).1.book? t.1 = some (b.react t.2 report).1 := by
  obtain ⟨levels, hl⟩ := Nat.exists_eq_add_of_le' (Nat.zero_lt_of_lt (lt_of_book? hb))
  have hbook := sink.book?_deliver (Network.climb net.composites.size) report net t.1
  rw [ht] at hbook
  apply hbook.trans
  rw [hl]
  exact book?_climb_self hb levels t.2 report

theorem at?_react {t : Nat × Nat} {p : Piece α} (hb : net.book? t.1 = some b)
    (hp : net.at? t = some p) (report : Report α)
    (hb' : net'.book? t.1 = some (b.react t.2 report).1) : net'.at? t = some (p.take report) := by
  simp only [at?, hb, Option.bind_some] at hp
  simp [at?, hb', Bookkeeping.react_pieces hp]

/-- A piece that has been given a report has taken it. -/
theorem at?_climb (levels : Nat) {t : Nat × Nat} {p : Piece α} (hp : net.at? t = some p)
    (report : Report α) :
    (net.climb (levels + 1) t.1 t.2 report).at? t = some (p.take report) := by
  obtain ⟨b, hb, -⟩ := Option.bind_eq_some_iff.mp hp
  exact at?_react hb hp report (book?_climb_self hb levels t.2 report)

theorem at?_deliver {t : Nat × Nat} {sink : Sink α} (ht : sink.target? = some t) {p : Piece α}
    (hp : net.at? t = some p) (report : Report α) :
    (net.deliver report sink).1.at? t = some (p.take report) := by
  obtain ⟨b, hb, -⟩ := Option.bind_eq_some_iff.mp hp
  exact at?_react hb hp report (book?_deliver_self ht hb report)

end Network

end Estree.Progress
