import Estree.Proofs.Progress.Climbing

/-!
# Composites that are pieces of composites

A composite may have a piece of another composite as its sink, directly or behind relays. Then this
piece holds a total of one and the fraction of the composite below, as it was when it was last
reported. A report on a piece somewhere in such a tree changes the fractions of all the composites
above, one after the other, and each change is told before the next one is made.

Here it is shown that no piece is left with an old number by that. While the report climbs, the
composites it has passed have their sinks out, and it is just for these that the piece above may
hold an old number. So what holds all the time is that every composite *whose sink is in place* has
told it the fraction there is: this is `Settled`, and the induction on the climb needs no more.

## Main results

* `Network.Tree` and `Network.Leaf`: a tree of composites, and the pieces that no composite reports
  on;
* `Network.Settled.settles`: a report that climbs from a leaf leaves no old number behind;
* `Network.Settled.deliver`: nor does a report to a sink that hands it on to a leaf.
-/

namespace Estree.Progress

open Quantity

variable {α : Type} [Quantity α]

namespace Network

variable {net net' : Network α} {root c i : Nat} {b after : Bookkeeping α} {l : Log} {x : α}

/-! ### Trees of composites -/

/-- The composites from `root` on make up a tree: the first one reports to the log `l`, each other
one on a piece of an earlier one, and no two on the same piece. Sinks may be out. -/
structure Tree (root : Nat) (l : Log) (net : Network α) : Prop where
  top : ∀ sink, net.sink? root = some sink → sink = .log l
  below : ∀ c, root < c → (net.sink? c).isSome →
    ∃ t, net.target? c = some t ∧ root ≤ t.1 ∧ t.1 < c
  single : ∀ c c' t, root ≤ c → root ≤ c' → net.target? c = some t → net.target? c' = some t →
    c = c'

/-- A piece of a composite from `root` on that no such composite reports on. -/
structure Leaf (root : Nat) (net : Network α) (t : Nat × Nat) : Prop where
  above : root ≤ t.1
  there : ∃ p, net.at? t = some p
  free : ∀ d, root ≤ d → net.target? d ≠ some t

namespace Tree

omit [Quantity α] in
theorem target?_root (h : net.Tree root l) : net.target? root = none := by
  cases hs : net.sink? root with
  | none => simp [target?, hs]
  | some sink =>
    rw [target?_of_sink? hs, h.top sink hs]
    rfl

omit [Quantity α] in
theorem downward (h : net.Tree root l) : net.Downward root := by
  intro c t hc ht
  rcases Nat.eq_or_lt_of_le hc with rfl | hlt
  · rw [h.target?_root] at ht
    cases ht
  · obtain ⟨sink, hs, -⟩ := Option.bind_eq_some_iff.mp ht
    obtain ⟨t', ht', hbelow⟩ := h.below c hlt (by simp [hs])
    cases ht.symm.trans ht'
    exact hbelow

theorem steady (h : net.Tree root l) (hs : net.Steady net') : net'.Tree root l where
  top sink hsink := by
    obtain ⟨sink', hsink', hcore⟩ := hs.symm.sink? hsink
    cases h.top sink' hsink'
    cases sink <;> cases hcore
    rfl
  below c hc hsome := by
    rw [hs.target?]
    exact h.below c hc (hs.isSome_sink? c ▸ hsome)
  single c c' t hc hc' ht ht' := by
    rw [hs.target?] at ht ht'
    exact h.single c c' t hc hc' ht ht'

omit [Quantity α] in
/-- A tree stays one while a sink is out. -/
theorem out (h : net.Tree root l) (c : Nat) : (net.setSink c none).Tree root l := by
  have htarget {d : Nat} {t : Nat × Nat} (ht : (net.setSink c none).target? d = some t) :
      net.target? d = some t := by
    obtain ⟨sink, hs, hst⟩ := Option.bind_eq_some_iff.mp ht
    exact (target?_of_sink? (sink?_out hs).1).trans hst
  constructor
  · intro sink hs
    exact h.top sink (sink?_out hs).1
  · intro d hd hsome
    obtain ⟨sink, hs⟩ := Option.isSome_iff_exists.mp hsome
    obtain ⟨hs', -⟩ := sink?_out hs
    obtain ⟨t, ht, hbelow⟩ := h.below d hd (by simp [hs'])
    rw [target?_of_sink? hs'] at ht
    exact ⟨t, (target?_of_sink? hs).trans ht, hbelow⟩
  · intro d d' t hd hd' ht ht'
    exact h.single d d' t hd hd' (htarget ht) (htarget ht')

end Tree

/-! ### No number is old -/

/-- What is known where a composite reports to is `x`. Without a piece it is the last amount that a
log has noted. -/
def Told (net : Network α) (target : Option (Nat × Nat)) (x : α) : Prop :=
  match target with
  | none => (amounts net.heard).getLast? = some x
  | some t => ∃ p, net.at? t = some p ∧ p.total = one ∧ p.worked = x

/-- No composite from `root` on is over. -/
def Running (root : Nat) (net : Network α) : Prop :=
  net.Books root fun _ b => b.completed = false

/-- No composite of the tree is over, and each one whose sink is in place has told it how much of
the whole is done now. -/
structure Settled (root : Nat) (l : Log) (net : Network α) : Prop extends Tree root l net where
  running : net.Running root
  told : ∀ c b, root ≤ c → net.book? c = some b → (net.sink? c).isSome →
    net.Told (net.target? c) b.fraction

/-- What is known stays known where the pieces that were there are as they were. -/
theorem Told.mono {target : Option (Nat × Nat)} (h : net.Told target x)
    (hat : ∀ t p, target = some t → net.at? t = some p → net'.at? t = some p)
    (hheard : net'.heard = net.heard) : net'.Told target x := by
  cases target with
  | none =>
    unfold Told at h ⊢
    rw [hheard]
    exact h
  | some t =>
    obtain ⟨p, hp, hnumbers⟩ := h
    exact ⟨p, hat t p rfl hp, hnumbers⟩

theorem Told.of_at? {t : Nat × Nat} (h : net.Told (some t) x) (hat : net'.at? t = net.at? t) :
    net'.Told (some t) x := by
  obtain ⟨p, hp, hnumbers⟩ := h
  exact ⟨p, hat.trans hp, hnumbers⟩

theorem Told.congr {target : Option (Nat × Nat)} (h : net.Told target x)
    (hbook : ∀ d, net'.book? d = net.book? d) (hheard : net'.heard = net.heard) :
    net'.Told target x := by
  refine h.mono (fun t p _ hp => ?_) hheard
  rw [at?, hbook]
  exact hp

theorem Settled.congr (h : net.Settled root l) (hs : net.Steady net')
    (hbook : ∀ d, net'.book? d = net.book? d) (hheard : net'.heard = net.heard) :
    net'.Settled root l where
  toTree := h.toTree.steady hs
  running c b hc hb := h.running c b hc (hbook c ▸ hb)
  told c b hc hb hsome := by
    rw [hs.target?]
    exact (h.told c b hc (hbook c ▸ hb) (hs.isSome_sink? c ▸ hsome)).congr hbook hheard

/-! ### A report is passed on -/

/-- A report on piece `i` of composite `c` is passed on to the sink of `c`, which has been told `x`
so far. The other composites have told what is done of them now. The bookkeeping of `c` is going to
be `after`, and may differ from it in piece `i` as long as this has not been told. -/
structure Passing (root : Nat) (l : Log) (c i : Nat) (after : Bookkeeping α) (x : α)
    (net : Network α) : Prop extends Tree root l net where
  running : net.Running root
  told : ∀ d b, root ≤ d → d ≠ c → net.book? d = some b → (net.sink? d).isSome →
    net.Told (net.target? d) b.fraction
  free : ∀ d, root ≤ d → net.target? d ≠ some (c, i)
  own : (net.sink? c).isSome → net.Told (net.target? c) x
  same : ∃ b, net.book? c = some b ∧ ∀ j, j ≠ i → b.pieces[j]? = after.pieces[j]?

namespace Passing

/-- No piece that a composite reports on changes with the bookkeeping of `c`. -/
theorem told_setBook (h : net.Passing root l c i after x) (hb : b.pieces = after.pieces) {d : Nat}
    (hd : root ≤ d) {y : α} (ht : net.Told (net.target? d) y) :
    (net.setBook c b).Told (net.target? d) y := by
  have hfree := h.free d hd
  cases htarget : net.target? d with
  | none =>
    rw [htarget] at ht
    exact ht
  | some t =>
    rw [htarget] at ht hfree
    refine ht.of_at? ?_
    obtain ⟨b₀, hb₀, hsame⟩ := h.same
    by_cases hc : c = t.1
    · have hj : t.2 ≠ i := by
        intro hj
        exact hfree (congrArg some (Prod.ext hc.symm hj))
      simp [at?, ← hc, hb₀, book?_setBook_self (lt_of_book? hb₀), hb, hsame t.2 hj]
    · simp [at?, book?_setBook_of_ne hc]

theorem setBook (h : net.Passing root l c i after x) (hc : root ≤ c)
    (hb : b.pieces = after.pieces) (ho : b.completed = false) :
    (net.setBook c b).Passing root l c i after x where
  toTree := h.toTree.steady (.setBook net c b)
  running := Books.setBook h.running ho
  told d b' hd hne hb' hsome := by
    rw [book?_setBook_of_ne (Ne.symm hne)] at hb'
    simp only [sink?_setBook] at hsome
    simpa using h.told_setBook hb hd (h.told d b' hd hne hb' hsome)
  free d hd := by simpa using h.free d hd
  own hsome := by
    simp only [sink?_setBook] at hsome
    simpa using h.told_setBook hb hc (h.own hsome)
  same := by
    obtain ⟨b₀, hb₀, -⟩ := h.same
    exact ⟨b, book?_setBook_self (lt_of_book? hb₀) b, fun j _ => by rw [hb]⟩

/-- While the sink of `c` is out, no number that has been told is old. -/
theorem out (h : net.Passing root l c i after x) : (net.setSink c none).Settled root l where
  toTree := h.toTree.out c
  running d b' hd hb' := h.running d b' hd (by simpa using hb')
  told d b' hd hb' hsome := by
    obtain ⟨sink, hs⟩ := Option.isSome_iff_exists.mp hsome
    obtain ⟨hs', hne⟩ := sink?_out hs
    simp only [book?_setSink] at hb'
    have htold := h.told d b' hd hne hb' (by simp [hs'])
    rw [target?_of_sink? hs, ← target?_of_sink? hs']
    exact htold.congr (book?_setSink none) rfl

/-- All has been told. -/
theorem settled (h : net.Passing root l c i after x) (hc : root ≤ c)
    (hx : x = after.fraction) (ho : after.completed = false) :
    (net.setBook c after).Settled root l := by
  have hset := h.setBook hc rfl ho
  refine ⟨hset.toTree, hset.running, ?_⟩
  intro d b' hd hb' hsome
  by_cases hne : d = c
  · subst hne
    obtain ⟨b₀, hb₀, -⟩ := h.same
    rw [book?_setBook_self (lt_of_book? hb₀)] at hb'
    cases hb'
    exact hx ▸ hset.own hsome
  · exact hset.told d b' hd hne hb' hsome

end Passing

/-- A composite with its sink in place is handed a report on a piece. -/
theorem Settled.passing (h : net.Settled root l) (hc : root ≤ c) (hb : net.book? c = some b)
    {p : Piece α} (hp : b.pieces[i]? = some p) (hfree : ∀ d, root ≤ d → net.target? d ≠ some (c, i))
    (report : Report α) : net.Passing root l c i (b.react i report).1 b.fraction where
  toTree := h.toTree
  running := h.running
  told d b' hd _ hb' hsome := h.told d b' hd hb' hsome
  free := hfree
  own hsome := h.told c b hc hb hsome
  same := by
    refine ⟨b, hb, fun j hj => ?_⟩
    rw [Bookkeeping.react_pieces hp, if_neg hj]

/-- The log that a tree reports to makes a note of a report. -/
theorem Settled.noted (h : net.Settled root l) (hs : net.sink? root = none) {report : Report α}
    {y : α} (hy : net.Told none y) (n : Note α) (hn : n.report? = some report) :
    (net.note n).Settled root l ∧ (net.note n).Told none (report.amount?.getD y) := by
  have hheard : (net.note n).heard = net.heard ++ [report] := by
    simp [heard, note, hn]
  constructor
  · refine ⟨h.toTree.steady (steady_note net n), h.running, ?_⟩
    intro d b hd hb hsome
    rcases Nat.eq_or_lt_of_le hd with rfl | hlt
    · have hsome' : (net.sink? root).isSome := hsome
      simp [hs] at hsome'
    · obtain ⟨t, ht, -⟩ := h.below d hlt hsome
      have htold := h.told d b hd hb hsome
      rw [ht] at htold
      have ht' : (net.note n).target? d = some t := ht
      rw [ht']
      exact htold.of_at? rfl
  · rw [Told, hheard, amounts, List.filterMap_append]
    cases ha : report.amount? with
    | none =>
      rw [List.filterMap_cons_none ha, List.filterMap_nil, List.append_nil]
      exact hy
    | some amount => simp [List.filterMap_cons_some ha]

/-! ### A report on a leaf -/

/-- No number is old after a report that is given to a leaf and ends no composite; `levels`
composites may be passed. -/
def Settles (root : Nat) (l : Log) (levels : Nat) (net : Network α) : Prop :=
  ∀ ⦃t : Nat × Nat⦄ ⦃report : Report α⦄, net.Leaf root t → t.1 < levels →
    (∀ b, net.book? t.1 = some b → (b.react t.2 report).1.completed = false) →
      (net.climb levels t.1 t.2 report).Settled root l

/-- What a report does to a leaf it also does through a sink that hands it on. -/
theorem Settled.of_climb {levels : Nat} {t : Nat × Nat} {report : Report α}
    (h : (net.climb levels t.1 t.2 report).Settled root l) {sink : Sink α}
    (ht : sink.target? = some t) : (sink.deliver (climb levels) report net).1.Settled root l := by
  have hbook := sink.book?_deliver (climb levels) report net
  have hheard := Sink.heard_deliver (climb levels) report net ht
  rw [ht] at hbook
  refine h.congr ?_ hbook hheard
  have hclimb := steady_climb levels t.1 t.2 report net
  exact hclimb.symm.trans (steady_deliver (steady_climb levels) report net sink)

/-- While the sink of `c` is out, the piece it hands its reports on to is a leaf. -/
theorem Passing.leaf (h : net.Passing root l c i after x) (hc : root ≤ c) {t : Nat × Nat}
    (ht : net.target? c = some t) {p : Piece α} (hp : net.at? t = some p) :
    (net.setSink c none).Leaf root t where
  above := (h.toTree.downward c t hc ht).1
  there := ⟨p, by simpa [at?] using hp⟩
  free d hd htd := by
    obtain ⟨sink, hs, hst⟩ := Option.bind_eq_some_iff.mp htd
    obtain ⟨hsd, hne⟩ := sink?_out hs
    exact hne (h.single d c t hd hc ((target?_of_sink? hsd).trans hst) ht)

omit [Quantity α] in
/-- A sink that does not hand its reports on is the log of the root. -/
theorem Tree.eq_root (h : net.Tree root l) (hc : root ≤ c) {sink : Sink α}
    (hs : net.sink? c = some sink) (ht : sink.target? = none) : c = root ∧ sink = .log l := by
  have heq : c = root := by
    by_contra hne
    obtain ⟨t, ht', -⟩ := h.below c (by omega) (by simp [hs])
    rw [target?_of_sink? hs, ht] at ht'
    cases ht'
  subst heq
  exact ⟨rfl, h.top sink hs⟩

/-- The sink of `c` is a part, directly or behind relays, and takes a report on the whole. -/
theorem Passing.deliver_part {levels : Nat} (h : net.Passing root l c i after x) (hc : root ≤ c)
    (hlevels : c < levels + 1) {sink : Sink α} (hs : net.sink? c = some sink) {t : Nat × Nat}
    (ht : sink.target? = some t) (ih : (net.setSink c none).Settles root l levels)
    {report : Report α} (hu : report.IsUpdate) :
    let net' := (sink.deliver (climb levels) report (net.setSink c none)).1
    net'.Settled root l ∧ net'.Told (some t) (report.amount?.getD x) ∧
      net'.book? c = net.book? c := by
  have htarget : net.target? c = some t := (target?_of_sink? hs).trans ht
  have hbelow : t.1 < c := (h.toTree.downward c t hc htarget).2
  have hown := h.own (by simp [hs])
  rw [htarget] at hown
  obtain ⟨p, hp, hone, hx⟩ := hown
  have hleaf := h.leaf hc htarget hp
  have hopen (b : Bookkeeping α) (hb : (net.setSink c none).book? t.1 = some b) :
      (b.react t.2 report).1.completed = false := by
    rw [b.completed_react t.2 (Report.isDone_of_isUpdate hu)]
    exact h.out.running t.1 b hleaf.above hb
  have hbook := sink.book?_deliver (climb levels) report (net.setSink c none)
  have hheard := Sink.heard_deliver (climb levels) report (net.setSink c none) ht
  rw [ht] at hbook
  refine ⟨(ih hleaf (by omega) hopen).of_climb ht, ?_, ?_⟩
  · -- the piece has taken the amount, and its total is what it was
    obtain ⟨levels, rfl⟩ := Nat.exists_eq_add_of_le' (show 1 ≤ levels by omega)
    have hp' : (net.setSink c none).at? t = some p := by simpa [at?] using hp
    obtain ⟨htotal, hworked⟩ := Piece.take_update (p := p) hu
    have htold : (climb (levels + 1) t.1 t.2 report (net.setSink c none)).Told (some t)
        (report.amount?.getD x) :=
      ⟨p.take report, at?_climb levels hp' report, htotal.trans hone, hx ▸ hworked⟩
    exact htold.congr hbook hheard
  · have hsame := book?_climb_of_lt h.out.toTree.downward levels t.2 report hleaf.above hbelow
    rw [hbook c]
    simpa using hsame

/-- What the sink of `c` does with a report on the whole. -/
theorem Passing.deliver {levels : Nat} (h : net.Passing root l c i after x) (hc : root ≤ c)
    (hlevels : c < levels + 1) {sink : Sink α} (hs : net.sink? c = some sink)
    (ih : (net.setSink c none).Settles root l levels) {report : Report α} (hu : report.IsUpdate) :
    let net' := (sink.deliver (climb levels) report (net.setSink c none)).1
    net'.Settled root l ∧ net'.Told sink.target? (report.amount?.getD x) ∧
      net'.book? c = net.book? c := by
  cases ht : sink.target? with
  | none =>
    obtain ⟨rfl, rfl⟩ := h.toTree.eq_root hc hs ht
    have hown := h.own (by simp [hs])
    rw [target?_of_sink? hs, ht] at hown
    have hnone : (net.setSink c none).sink? c = none := sink?_setSink_self (lt_of_sink? hs) none
    have hnoted := h.out.noted hnone (hown.congr (book?_setSink none) rfl)
      (.report l.name report (l.watch.map (net.setSink c none).lookAt)) rfl
    exact ⟨hnoted.1, hnoted.2, book?_setSink none c⟩
  | some t => exact h.deliver_part hc hlevels hs ht ih hu

/-- One report on the whole is passed on. -/
theorem Passing.emit {levels : Nat} (h : net.Passing root l c i after x) (hc : root ≤ c)
    (hlevels : c < levels + 1) (ih : ∀ net : Network α, net.Settled root l →
      net.Settles root l levels) {e : Emission α} (hp : e.seen.pieces = after.pieces)
    (ho : e.seen.completed = false) (hu : e.report.IsUpdate) :
    (emit (climb levels) c net e).Passing root l c i after (e.report.amount?.getD x) := by
  have hset := h.setBook hc hp ho
  cases hs : net.sink? c with
  | none =>
    rw [emit_of_none hs]
    refine { hset with own := fun hsome => ?_ }
    simp [hs] at hsome
  | some sink =>
    have hsteady := steady_emit (steady_climb levels) c net e
    have hdelivered := hset.deliver hc hlevels ((sink?_setBook e.seen c).trans hs)
      (ih _ hset.out) hu
    rw [emit_of_sink hs] at hsteady ⊢
    obtain ⟨hsettled, htold, hbook⟩ := hdelivered
    change Passing root l c i after _ (Network.setSink _ c (some _))
    change net.Steady (Network.setSink _ c (some _)) at hsteady
    rw [book?_setBook_self (lt_of_sink? hs)] at hbook
    constructor
    · exact h.toTree.steady hsteady
    · intro d b hd hb
      simp only [book?_setSink] at hb
      exact hsettled.running d b hd hb
    · intro d b hd hne hb hsome
      simp only [book?_setSink] at hb
      rw [sink?_setSink_of_ne (Ne.symm hne)] at hsome
      rw [target?, sink?_setSink_of_ne (Ne.symm hne)]
      exact (hsettled.told d b hd hb hsome).congr (book?_setSink _) rfl
    · intro d hd
      rw [hsteady.target?]
      exact h.free d hd
    · intro _
      rw [hsteady.target?, target?_of_sink? hs]
      exact htold.congr (book?_setSink _) rfl
    · exact ⟨e.seen, (book?_setSink _ c).trans hbook, fun j _ => by rw [hp]⟩

/-- All that is to be told of the whole is passed on. -/
theorem Passing.emitAll {levels : Nat} (h : net.Passing root l c i after x) (hc : root ≤ c)
    (hlevels : c < levels + 1) (ih : ∀ net : Network α, net.Settled root l →
      net.Settles root l levels) {es : List (Emission α)}
    (hes : ∀ e ∈ es, e.seen.pieces = after.pieces ∧ e.seen.completed = false ∧
      e.report.IsUpdate) :
    (es.foldl (Network.emit (climb levels) c) net).Passing root l c i after
      ((amounts (es.map Emission.report)).getLast?.getD x) := by
  induction es generalizing net x with
  | nil => exact h
  | cons e es ihe =>
    obtain ⟨⟨hp, ho, hu⟩, hrest⟩ := List.forall_mem_cons.mp hes
    have hnext := ihe (h.emit hc hlevels ih hp ho hu) hrest
    rw [List.foldl_cons, List.map_cons, amounts]
    cases ha : e.report.amount? with
    | none =>
      rw [ha] at hnext
      rw [List.filterMap_cons_none ha]
      exact hnext
    | some y =>
      rw [ha] at hnext
      rw [List.filterMap_cons_some ha, List.getLast?_cons]
      exact hnext

/-- **A report on a leaf leaves no old number behind**, unless it ends the whole it is a piece of.
The induction is on the number of composites that may be passed. -/
theorem Settled.settles (levels : Nat) {net : Network α} (h : net.Settled root l) :
    net.Settles root l levels := by
  intro t report hleaf hlevels hopen
  induction levels generalizing net t report with
  | zero => exact absurd hlevels (Nat.not_lt_zero _)
  | succ levels ih =>
    obtain ⟨p, hp⟩ := hleaf.there
    obtain ⟨b, hb, hp⟩ := Option.bind_eq_some_iff.mp hp
    obtain ⟨ho, hes⟩ := Bookkeeping.react_running (hopen b hb)
    have hpassing := h.passing hleaf.above hb hp hleaf.free report
    have hall := hpassing.emitAll hleaf.above hlevels
      (fun net h t report hleaf hlevels hopen => ih h hleaf hlevels hopen) hes
    rw [climb_succ hb]
    refine hall.settled hleaf.above ?_ (hopen b hb)
    rcases b.react_amounts ho t.2 report with hone | ⟨hnone, hpieces⟩
    · rw [hone]
      rfl
    · rw [hnone]
      exact Bookkeeping.fraction_congr hpieces.symm

/-- A sink that hands its reports on to a leaf takes one. -/
theorem Settled.deliver (h : net.Settled root l) {t : Nat × Nat} (hleaf : net.Leaf root t)
    {sink : Sink α} (ht : sink.target? = some t) (report : Report α)
    (hopen : ∀ b, net.book? t.1 = some b → (b.react t.2 report).1.completed = false) :
    (net.deliver report sink).1.Settled root l := by
  obtain ⟨p, hp⟩ := hleaf.there
  obtain ⟨b, hb, -⟩ := Option.bind_eq_some_iff.mp hp
  exact (h.settles net.composites.size hleaf (lt_of_book? hb) hopen).of_climb ht

end Network

end Estree.Progress
