import Estree.Proofs.Progress.Nesting
import Mathlib.Order.Interval.Finset.Nat

/-!
# How a tree of composites is built and used

A tree grows from a composite that reports to a log. Pieces are added to its composites, and pieces
that nobody reports on become the sinks of new composites; the others are the leaves, and whoever
does some work reports on one of them. `Network.Nested` says which networks come about in this way,
when no piece is added any more once something has been reported on a leaf.

A piece that is added later would change how much of the whole is done without a word. Before the
first report it does not, for nothing is done then: this is the only place where something has to be
known of the numbers.

## Main results

* `Network.Nested`: a tree that has been built and perhaps used;
* `Network.Nested.books`: what reports keep true of the bookkeeping holds in such a tree;
* `Network.Nested.settled`: as long as none of its composites is over, no number is old.
-/

namespace Estree.Progress

open Quantity

variable {α : Type}

/-! ### Nothing is done -/

/-- Nothing has been done of any piece. -/
def Bookkeeping.Idle [Quantity α] (b : Bookkeeping α) : Prop := ∀ p ∈ b.pieces, p.worked = zero

theorem Bookkeeping.idle_empty [Quantity α] : ({} : Bookkeeping α).Idle := by
  intro p hp
  exact absurd hp (Array.not_mem_empty p)

/-- The report leaves it at nothing having been done. -/
def Report.IsIdle [Quantity α] : Report α → Prop
  | .total _ | .title _ => True
  | .worked amount _ => amount = zero
  | .advance _ | .done => False

/-- Where nothing has been done, and this is what is reported, nothing else is told of the whole. -/
theorem Bookkeeping.idle_react [Quantity α]
    (hidle : ∀ b : Bookkeeping α, b.Idle → b.fraction = zero) {b : Bookkeeping α} {i : Nat}
    {report : Report α} (hb : b.Idle) (hr : report.IsIdle) :
    (b.react i report).1.Idle ∧ ∀ e ∈ (b.react i report).2, e.seen.Idle ∧ e.report.IsIdle := by
  have htake (p : Piece α) (hp : p.worked = zero) : (p.take report).worked = zero := by
    cases report with
    | total amount => exact hp
    | title text => exact hp
    | worked amount title => exact hr
    | advance amount => cases hr
    | done => cases hr
  obtain ⟨hafter, hseen⟩ := forall_react hb i htake
  refine ⟨hafter, ?_⟩
  intro e he
  refine ⟨hseen e he, ?_⟩
  have hzero : (b.react i report).1.fraction = zero := hidle _ hafter
  have hmem := List.mem_map_of_mem (f := Emission.report) he
  cases hc : b.completed with
  | true => simp [react_closed hc] at he
  | false =>
    cases hp : b.pieces[i]? with
    | none => simp [react, hp] at he
    | some p =>
      rw [react_open hp hc] at hmem
      generalize e.report = r at hmem
      cases report with
      | total amount =>
        obtain rfl := List.mem_singleton.mp hmem
        exact hzero
      | title text =>
        obtain rfl := List.mem_singleton.mp hmem
        trivial
      | worked amount title =>
        rcases List.mem_append.mp hmem with hmem | hmem
        · obtain ⟨text, -, rfl⟩ := Option.map_eq_some_iff.mp (Option.mem_toList.mp hmem)
          trivial
        · obtain rfl := List.mem_singleton.mp hmem
          exact hzero
      | advance amount => cases hr
      | done => cases hr

namespace Network

/-! ### A composite more -/

section Append

/-- A composite after all the others, which has no pieces. -/
def append (net : Network α) (sink : Sink α) : Network α :=
  { net with composites := net.composites.push { sink := some sink } }

variable {net : Network α} {root : Nat} {l : Log} {t : Nat × Nat} {sink : Sink α}

theorem composites_append (net : Network α) (sink : Sink α) (d : Nat) :
    (net.append sink).composites[d]? =
      if d = net.composites.size then some { sink := some sink } else net.composites[d]? :=
  Array.getElem?_push

theorem book?_append (net : Network α) (sink : Sink α) (d : Nat) :
    (net.append sink).book? d = if d = net.composites.size then some {} else net.book? d := by
  unfold book?
  rw [composites_append]
  split <;> rfl

theorem sink?_append (net : Network α) (sink : Sink α) (d : Nat) :
    (net.append sink).sink? d =
      if d = net.composites.size then some sink else net.sink? d := by
  unfold sink?
  rw [composites_append]
  split <;> rfl

theorem target?_append (net : Network α) (sink : Sink α) (d : Nat) :
    (net.append sink).target? d =
      if d = net.composites.size then sink.target? else net.target? d := by
  unfold target?
  rw [sink?_append]
  split <;> rfl

theorem at?_append (sink : Sink α) {p : Piece α} (h : net.at? t = some p) :
    (net.append sink).at? t = some p := by
  obtain ⟨b, hb, -⟩ := Option.bind_eq_some_iff.mp h
  rw [← h, at?, at?, book?_append, if_neg (Nat.ne_of_lt (lt_of_book? hb))]

theorem Leaf.lt (h : net.Leaf root t) : t.1 < net.composites.size := by
  obtain ⟨p, hp⟩ := h.there
  obtain ⟨b, hb, -⟩ := Option.bind_eq_some_iff.mp hp
  exact lt_of_book? hb

/-- A composite that reports on a leaf belongs to the tree. -/
theorem Tree.append (h : net.Tree root l) (hleaf : net.Leaf root t) (ht : sink.target? = some t) :
    (net.append sink).Tree root l where
  top sink' hs := by
    have hroot : root ≠ net.composites.size := by
      have habove := hleaf.above
      have hlt := hleaf.lt
      omega
    rw [sink?_append, if_neg hroot] at hs
    exact h.top sink' hs
  below d hd hsome := by
    rw [sink?_append] at hsome
    rw [target?_append]
    split at hsome
    · next hnew =>
      rw [if_pos hnew]
      exact ⟨t, ht, hleaf.above, hnew ▸ hleaf.lt⟩
    · next hold =>
      rw [if_neg hold]
      exact h.below d hd hsome
  single d d' t' hd hd' htd htd' := by
    rw [target?_append] at htd htd'
    split at htd <;> split at htd'
    · next hnew hnew' => exact hnew.trans hnew'.symm
    · cases ht.symm.trans htd
      exact absurd htd' (hleaf.free d' hd')
    · cases ht.symm.trans htd'
      exact absurd htd (hleaf.free d hd)
    · exact h.single d d' t' hd hd' htd htd'

theorem Books.append {Inv : Nat → Bookkeeping α → Prop} (h : net.Books root Inv)
    (hempty : ∀ c, Inv c {}) : (net.append sink).Books root Inv := by
  intro d b hd hb
  rw [book?_append] at hb
  split at hb
  · cases hb
    exact hempty d
  · exact h d b hd hb

theorem Books.of_append {Inv : Nat → Bookkeeping α → Prop} (h : (net.append sink).Books root Inv) :
    net.Books root Inv := by
  intro d b hd hb
  refine h d b hd ?_
  rw [book?_append, if_neg (Nat.ne_of_lt (lt_of_book? hb))]
  exact hb

end Append

variable [Quantity α] {net : Network α} {root c : Nat} {l : Log} {t : Nat × Nat} {sink : Sink α}

/-- A composite gets a leaf as its sink that says that nothing is done. -/
theorem Settled.append (h : net.Settled root l) (hleaf : net.Leaf root t)
    (ht : sink.target? = some t)
    (htold : net.Told (some t) (Bookkeeping.fraction ({} : Bookkeeping α))) :
    (net.append sink).Settled root l := by
  refine ⟨h.toTree.append hleaf ht, Books.append h.running (fun _ => rfl), ?_⟩
  intro d b hd hb hsome
  have hkeep {target : Option (Nat × Nat)} {x : α} (hx : net.Told target x) :
      (net.append sink).Told target x :=
    hx.mono (fun _ _ _ => at?_append sink) rfl
  rw [book?_append] at hb
  rw [sink?_append] at hsome
  rw [target?_append]
  split at hb
  · next hnew =>
    cases hb
    rw [if_pos hnew, ht]
    exact hkeep htold
  · next hold =>
    rw [if_neg hold] at hsome ⊢
    exact hkeep (h.told d b hd hb hsome)

/-! ### The first reports of a new composite -/

theorem steady_outside (net : Network α) (report : Report α) (sink : Sink α) :
    net.Steady (net.deliver report sink).1 :=
  steady_deliver (steady_climb _) report net sink

theorem Leaf.deliver (h : net.Leaf root t) (ht : sink.target? = some t) (report : Report α) :
    (net.deliver report sink).1.Leaf root t := by
  obtain ⟨p, hp⟩ := h.there
  constructor
  · exact h.above
  · exact ⟨_, at?_deliver ht hp report⟩
  · intro d hd
    rw [(steady_outside net report sink).target?]
    exact h.free d hd

theorem target?_of_core {sink sink' : Sink α} (h : sink'.core = sink.core) :
    sink'.target? = sink.target? := by
  rw [← Sink.target?_core, h, Sink.target?_core]

/-- How a composite is made whose sink hands its reports on to a leaf: the sink takes two reports,
and then the composite is there. -/
structure Making (root : Nat) (net : Network α) (sink : Sink α) (t : Nat × Nat)
    (net₁ : Network α) (sink₁ : Sink α) (net₂ : Network α) (sink₂ : Sink α) : Prop where
  total : net.deliver (.total one) sink = (net₁, sink₁)
  worked : net₁.deliver (.worked zero none) sink₁ = (net₂, sink₂)
  made : (net.addComposite sink).1 = net₂.append sink₂
  leaf₁ : net₁.Leaf root t
  target₁ : sink₁.target? = some t
  leaf₂ : net₂.Leaf root t
  target₂ : sink₂.target? = some t

theorem making (hleaf : net.Leaf root t) (ht : sink.target? = some t) :
    ∃ net₁ sink₁ net₂ sink₂, Making root net sink t net₁ sink₁ net₂ sink₂ := by
  have ht₁ : (net.deliver (.total one) sink).2.target? = some t :=
    (target?_of_core (core_deliver _ net sink)).trans ht
  have hleaf₁ := hleaf.deliver ht (.total one)
  exact ⟨_, _, _, _, rfl, rfl, rfl, hleaf₁, ht₁, hleaf₁.deliver ht₁ _,
    (target?_of_core (core_deliver _ _ _)).trans ht₁⟩

/-- What reports keep true of a network, they keep true of it until the composite is there. -/
theorem Making.keeps {net₁ net₂ : Network α} {sink₁ sink₂ : Sink α}
    (m : Making root net sink t net₁ sink₁ net₂ sink₂) {P : Network α → Prop} (h : P net)
    (hleaf : net.Leaf root t) (ht : sink.target? = some t)
    (hstep : ∀ net sink report, report = .total one ∨ report = .worked zero none → P net →
      net.Leaf root t → sink.target? = some t → P (net.deliver report sink).1) : P net₂ := by
  have h₁ := hstep net sink _ (.inl rfl) h hleaf ht
  rw [m.total] at h₁
  have h₂ := hstep net₁ sink₁ _ (.inr rfl) h₁ m.leaf₁ m.target₁
  rw [m.worked] at h₂
  exact h₂

/-- A new composite tells a leaf that nothing is done. -/
theorem Settled.addComposite (h : net.Settled root l) (hleaf : net.Leaf root t)
    (ht : sink.target? = some t) (hz : Bookkeeping.fraction ({} : Bookkeeping α) = zero) :
    (net.addComposite sink).1.Settled root l := by
  obtain ⟨net₁, sink₁, net₂, sink₂, m⟩ := making hleaf ht
  have h₂ : net₂.Settled root l := by
    apply m.keeps h hleaf ht
    intro net sink report hreport h hleaf ht
    apply h.deliver hleaf ht
    intro b hb
    have hdone : report.isDone = false := by rcases hreport with rfl | rfl <;> rfl
    rw [b.completed_react t.2 hdone]
    exact h.running t.1 b hleaf.above hb
  rw [m.made]
  apply h₂.append m.leaf₂ m.target₂
  obtain ⟨p, hp⟩ := hleaf.there
  have hp₁ := at?_deliver ht hp (.total one)
  rw [m.total] at hp₁
  have hp₂ := at?_deliver m.target₁ hp₁ (.worked zero none)
  rw [m.worked] at hp₂
  exact ⟨_, hp₂, rfl, hz.symm⟩

theorem eq_root_of_lt (hc : net.composites.size ≤ c)
    (hlt : c < (net.addComposite (.log l)).1.composites.size) : c = net.composites.size := by
  rw [(net.addComposite_wiring (.log l)).1] at hlt
  omega

/-- A composite that reports to a log is a tree by itself. -/
theorem settled_root (net : Network α) (l : Log)
    (hz : Bookkeeping.fraction ({} : Bookkeeping α) = zero) :
    (net.addComposite (.log l)).1.Settled net.composites.size l := by
  obtain ⟨hkeeps, hheard⟩ := keeps_addComposite net l
  have hlast {d : Nat} (hd : net.composites.size ≤ d)
      (hlt : d < (net.addComposite (.log l)).1.composites.size) : d = net.composites.size :=
    eq_root_of_lt hd hlt
  generalize (net.addComposite (.log l)).1 = net₁ at *
  generalize net.composites.size = root at *
  have hbook : net₁.book? root = some {} := by
    rw [book?, hkeeps]
    rfl
  have hsink : net₁.sink? root = some (.log l) := by
    rw [sink?, hkeeps]
    rfl
  have htarget {d : Nat} (hd : root ≤ d) : net₁.target? d = none := by
    cases hs : net₁.sink? d with
    | none => simp [target?, hs]
    | some sink =>
      obtain rfl := hlast hd (lt_of_sink? hs)
      cases hsink.symm.trans hs
      exact target?_of_sink? hsink
  have htree : net₁.Tree root l := by
    constructor
    · intro sink hs
      cases hsink.symm.trans hs
      rfl
    · intro d hd hsome
      obtain ⟨sink, hs⟩ := Option.isSome_iff_exists.mp hsome
      have heq := hlast hd.le (lt_of_sink? hs)
      omega
    · intro d _ t hd _ htd _
      simp [htarget hd] at htd
  refine ⟨htree, ?_, ?_⟩
  · intro d b hd hb
    obtain rfl := hlast hd (lt_of_book? hb)
    cases hbook.symm.trans hb
    rfl
  · intro d b hd hb _
    obtain rfl := hlast hd (lt_of_book? hb)
    cases hbook.symm.trans hb
    rw [htarget hd, Told, hheard, hz, amounts, List.filterMap_append]
    exact List.getLast?_concat

/-! ### A piece more -/

theorem book?_addPart (net : Network α) (c : Nat) (weight : α) (d : Nat) :
    (net.addPart c weight).1.book? d =
      if c = d then (net.book? d).map fun b => b.register weight else net.book? d := by
  unfold book? addPart
  rw [Array.getElem?_modify]
  split
  · simp [Function.comp_def]
  · rfl

theorem at?_addPart (c : Nat) (weight : α) {p : Piece α} (h : net.at? t = some p) :
    (net.addPart c weight).1.at? t = some p := by
  obtain ⟨b, hb, hp⟩ := Option.bind_eq_some_iff.mp h
  rw [at?, book?_addPart, hb]
  split
  · have hlt := (Array.getElem?_eq_some_iff.mp hp).1
    rw [Option.map_some, Option.bind_some, Bookkeeping.register, Array.getElem?_push_lt hlt,
      ← Array.getElem?_eq_getElem]
    exact hp
  · exact hp

theorem Books.addPart {Inv : Nat → Bookkeeping α → Prop} {weight : α} (h : net.Books root Inv)
    (hregister : ∀ d b, Inv d b → Inv d (b.register weight)) :
    (net.addPart c weight).1.Books root Inv := by
  intro d b hd hb
  rw [book?_addPart] at hb
  split at hb
  · obtain ⟨b', hb', rfl⟩ := Option.map_eq_some_iff.mp hb
    exact hregister d b' (h d b' hd hb')
  · exact h d b hd hb

/-- A piece may be added where this does not change how much is done. -/
theorem Settled.addPart (h : net.Settled root l) {weight : α}
    (hsame : ∀ b, net.book? c = some b → (b.register weight).fraction = b.fraction) :
    (net.addPart c weight).1.Settled root l := by
  have hs := Steady.addPart net c weight
  refine ⟨h.toTree.steady hs, Books.addPart h.running (fun _ _ hb => hb), ?_⟩
  intro d b hd hb hsome
  rw [hs.target?]
  rw [hs.isSome_sink?] at hsome
  refine Told.mono ?_ (fun _ _ _ => at?_addPart c weight) rfl
  rw [book?_addPart] at hb
  split at hb
  · next hcd =>
    obtain ⟨b', hb', rfl⟩ := Option.map_eq_some_iff.mp hb
    rw [hsame b' (hcd ▸ hb')]
    exact h.told d b' hd hb' hsome
  · exact h.told d b hd hb hsome

/-! ### Leaves -/

/-- The pieces of a composite. -/
def pieces (net : Network α) (c : Nat) : List (Piece α) :=
  (net.book? c).elim [] fun b => b.pieces.toList

/-- The pieces of the composites from `root` on, each as the index of its composite and its own. -/
def places (net : Network α) (root : Nat) : Finset (Nat × Nat) :=
  (Finset.Ico root net.composites.size).biUnion fun c =>
    (Finset.range (net.pieces c).length).image (Prod.mk c)

/-- The pieces of these composites that none of them reports on. -/
def leaves (net : Network α) (root : Nat) : Finset (Nat × Nat) :=
  (net.places root).filter fun t =>
    ∀ d ∈ Finset.Ico root net.composites.size, net.target? d ≠ some t

/-- A network that has come about from `net` by building and using a tree of composites which
reports to the log `l`; `begun` says whether something has been reported on a leaf. -/
inductive Nested (net : Network α) (l : Log) : Bool → Network α → Prop where
  /-- There is a composite without pieces. -/
  | root : Nested net l false (net.addComposite (.log l)).1
  /-- A piece is added to a composite. -/
  | add {net' : Network α} {c : Nat} (weight : α) (h : Nested net l false net')
      (hc : net.composites.size ≤ c) : Nested net l false (net'.addPart c weight).1
  /-- A composite is made that has a leaf as its sink, directly or behind relays. -/
  | nest {begun : Bool} {net' : Network α} {sink : Sink α} {t : Nat × Nat}
      (h : Nested net l begun net') (ht : sink.target? = some t)
      (hleaf : t ∈ net'.leaves net.composites.size) : Nested net l begun (net'.addComposite sink).1
  /-- Something is reported on a leaf. -/
  | report {begun : Bool} {net' : Network α} {sink : Sink α} {t : Nat × Nat} (report : Report α)
      (h : Nested net l begun net') (ht : sink.target? = some t)
      (hleaf : t ∈ net'.leaves net.composites.size) : Nested net l true (net'.deliver report sink).1

omit [Quantity α] in
theorem at?_eq (net : Network α) (t : Nat × Nat) : net.at? t = (net.pieces t.1)[t.2]? := by
  unfold at? pieces
  cases net.book? t.1 with
  | none => rfl
  | some b => exact Array.getElem?_toList.symm

omit [Quantity α] in
theorem mem_places_iff : t ∈ net.places root ↔
    t.1 ∈ Finset.Ico root net.composites.size ∧ t.2 ∈ Finset.range (net.pieces t.1).length := by
  simp only [places, Finset.mem_biUnion, Finset.mem_image]
  constructor
  · rintro ⟨c, hc, i, hi, rfl⟩
    exact ⟨hc, hi⟩
  · rintro ⟨hc, hi⟩
    exact ⟨t.1, hc, t.2, hi, rfl⟩

omit [Quantity α] in
theorem mem_places : t ∈ net.places root ↔ root ≤ t.1 ∧ ∃ p, net.at? t = some p := by
  rw [mem_places_iff, Finset.mem_Ico, Finset.mem_range, at?_eq]
  constructor
  · rintro ⟨⟨hroot, -⟩, hi⟩
    exact ⟨hroot, _, List.getElem?_eq_getElem hi⟩
  · rintro ⟨hroot, p, hp⟩
    refine ⟨⟨hroot, ?_⟩, (List.getElem?_eq_some_iff.mp hp).1⟩
    rw [← at?_eq] at hp
    obtain ⟨b, hb, -⟩ := Option.bind_eq_some_iff.mp hp
    exact lt_of_book? hb

omit [Quantity α] in
theorem mem_leaves : t ∈ net.leaves root ↔ net.Leaf root t := by
  rw [leaves, Finset.mem_filter, mem_places]
  constructor
  · rintro ⟨⟨hroot, hthere⟩, hfree⟩
    constructor
    · exact hroot
    · exact hthere
    · intro d hd htd
      obtain ⟨sink, hs, -⟩ := Option.bind_eq_some_iff.mp htd
      exact hfree d (Finset.mem_Ico.mpr ⟨hd, lt_of_sink? hs⟩) htd
  · intro h
    refine ⟨⟨h.above, h.there⟩, ?_⟩
    intro d hd
    exact h.free d (Finset.mem_Ico.mp hd).1

/-! ### What holds of a tree at any time -/

theorem Books.deliver {Inv : Nat → Bookkeeping α → Prop} {Fits : Nat → Report α → Prop}
    (hlasting : Lasting root Inv Fits) (h : net.Books root Inv) (hd : net.Downward root)
    (ht : sink.target? = some t) (hroot : root ≤ t.1) {report : Report α}
    (hfits : Fits t.1 report) : (net.deliver report sink).1.Books root Inv := by
  intro d b hdr hb
  have hbook := sink.book?_deliver (climb net.composites.size) report net d
  rw [ht] at hbook
  exact books_climb hlasting _ t.2 hd h hroot hfits d b hdr (hbook.symm.trans hb)

theorem Running.of_deliver {report : Report α} (hd : net.Downward root)
    (ht : sink.target? = some t) (hroot : root ≤ t.1)
    (h : (net.deliver report sink).1.Running root) : net.Running root := by
  intro c b hc hb
  have hsize := (steady_outside net report sink).size
  obtain ⟨b', hb'⟩ := exists_book? (hsize.symm ▸ lt_of_book? hb)
  have hopen := h c b' hc hb'
  have hbook := sink.book?_deliver (climb net.composites.size) report net c
  rw [ht] at hbook
  cases hover : b.completed with
  | false => rfl
  | true =>
    have hover' := completed_climb hd _ t.2 report hroot hc hb hover b' (hbook.symm.trans hb')
    rw [hopen] at hover'
    cases hover'

theorem Running.of_addPart {weight : α} (h : (net.addPart c weight).1.Running root) :
    net.Running root := by
  intro d b hd hb
  have hb' := book?_addPart net c weight d
  rw [hb] at hb'
  split at hb'
  · exact h d (b.register weight) hd hb'
  · exact h d b hd hb'

theorem Making.running {net₁ net₂ : Network α} {sink₁ sink₂ : Sink α}
    (m : Making root net sink t net₁ sink₁ net₂ sink₂) (hd : net.Downward root)
    (hleaf : net.Leaf root t) (ht : sink.target? = some t)
    (h : (net.addComposite sink).1.Running root) : net.Running root := by
  rw [m.made] at h
  have h₂ : (net₁.deliver (.worked zero none) sink₁).1.Running root := by
    rw [m.worked]
    exact Books.of_append h
  have hd₁ : net₁.Downward root := by
    have hs := steady_outside net (.total one) sink
    rw [m.total] at hs
    exact hd.steady hs
  have h₁ : (net.deliver (.total one) sink).1.Running root := by
    rw [m.total]
    exact h₂.of_deliver hd₁ m.target₁ hleaf.above
  exact h₁.of_deliver hd ht hleaf.above

variable {net₀ : Network α} {begun : Bool}

namespace Nested

theorem lt (h : net₀.Nested l begun net) : net₀.composites.size < net.composites.size := by
  induction h with
  | root =>
    have hsize := (net₀.addComposite_wiring (.log l)).1
    omega
  | @add net c weight h hc ih =>
    have hsize := (Steady.addPart net c weight).size
    omega
  | @nest begun net sink t h ht hleaf ih =>
    have hsize := (net.addComposite_wiring sink).1
    omega
  | @report begun net sink t report h ht hleaf ih =>
    have hsize := (steady_outside net report sink).size
    omega

/-- The composites form a tree. -/
theorem tree (h : net₀.Nested l begun net) (hz : Bookkeeping.fraction ({} : Bookkeeping α) = zero) :
    net.Tree net₀.composites.size l := by
  induction h with
  | root => exact (settled_root net₀ l hz).toTree
  | @add net c weight h hc ih => exact ih.steady (.addPart net c weight)
  | nest h ht hleaf ih =>
    have hleaf := mem_leaves.mp hleaf
    obtain ⟨net₁, sink₁, net₂, sink₂, m⟩ := making hleaf ht
    rw [m.made]
    refine Tree.append ?_ m.leaf₂ m.target₂
    exact m.keeps ih hleaf ht fun net sink report _ h _ _ =>
      h.steady (steady_outside net report sink)
  | report report h ht hleaf ih => exact ih.steady (steady_outside _ report _)

/-- Every composite has its sink. -/
theorem present (h : net₀.Nested l begun net) :
    ∀ c, net₀.composites.size ≤ c → c < net.composites.size → (net.sink? c).isSome := by
  have hsteady {net net' : Network α} (hs : net.Steady net')
      (h : ∀ c, net₀.composites.size ≤ c → c < net.composites.size → (net.sink? c).isSome) :
      ∀ c, net₀.composites.size ≤ c → c < net'.composites.size → (net'.sink? c).isSome := by
    intro c hc hlt
    rw [hs.isSome_sink?]
    exact h c hc (hs.size ▸ hlt)
  induction h with
  | root =>
    obtain ⟨-, -, -, -, ⟨sink', hs, -⟩, -⟩ := net₀.addComposite_wiring (.log l)
    intro c hc hlt
    rw [eq_root_of_lt hc hlt, hs]
    rfl
  | @add net c weight h hc ih => exact hsteady (.addPart net c weight) ih
  | nest h ht hleaf ih =>
    have hleaf := mem_leaves.mp hleaf
    obtain ⟨net₁, sink₁, net₂, sink₂, m⟩ := making hleaf ht
    rw [m.made]
    have h₂ := m.keeps ih hleaf ht fun net sink report _ h _ _ =>
      hsteady (steady_outside net report sink) h
    intro c hc hlt
    rw [sink?_append]
    split
    · rfl
    · next hne =>
      rw [append, Array.size_push] at hlt
      exact h₂ c hc (Nat.lt_of_le_of_ne (Nat.le_of_lt_succ hlt) hne)
  | report report h ht hleaf ih => exact hsteady (steady_outside _ report _) ih

/-- **What reports keep true of the bookkeeping holds in a tree**, if it holds where there are no
pieces, and where one is added. What is reported on leaves must be of the right kind. -/
theorem books (h : net₀.Nested l begun net) (hz : Bookkeeping.fraction ({} : Bookkeeping α) = zero)
    (Inv : Bookkeeping α → Prop) (Fits : Report α → Prop)
    (hlasting : ∀ b i report, Inv b → Fits report → Inv (b.react i report).1 ∧
      ∀ e ∈ (b.react i report).2, Inv e.seen ∧ Fits e.report)
    (hempty : Inv {}) (hregister : ∀ b weight, Inv b → Inv (b.register weight))
    (hfirst : Fits (.total one) ∧ Fits (.worked zero none))
    (hreports : begun = true → ∀ report, Fits report) :
    net.Books net₀.composites.size fun _ => Inv := by
  have hlast : Lasting net₀.composites.size (fun _ => Inv) (fun _ => Fits) := by
    intro c b i report _ hb hfits
    obtain ⟨hafter, hes⟩ := hlasting b i report hb hfits
    exact ⟨hafter, fun e he => ⟨(hes e he).1, fun _ _ _ => (hes e he).2⟩⟩
  induction h with
  | root =>
    intro c b hc hb
    obtain ⟨hkeeps, -⟩ := keeps_addComposite net₀ l
    rw [eq_root_of_lt hc (lt_of_book? hb), book?, hkeeps] at hb
    cases hb
    exact hempty
  | add weight h hc ih => exact Books.addPart (ih hreports) fun _ b => hregister b weight
  | nest h ht hleaf ih =>
    have hleaf := mem_leaves.mp hleaf
    obtain ⟨net₁, sink₁, net₂, sink₂, m⟩ := making hleaf ht
    rw [m.made]
    refine Books.append ?_ fun _ => hempty
    have hkeeps : net₂.Tree net₀.composites.size l ∧
        net₂.Books net₀.composites.size fun _ => Inv := by
      apply m.keeps ⟨h.tree hz, ih hreports⟩ hleaf ht
      rintro net sink report hreport ⟨htree, hbooks⟩ hleaf ht
      refine ⟨htree.steady (steady_outside net report sink), ?_⟩
      apply hbooks.deliver hlast htree.downward ht hleaf.above
      rcases hreport with rfl | rfl
      · exact hfirst.1
      · exact hfirst.2
    exact hkeeps.2
  | @report begun net sink t report h ht hleaf ih =>
    have hfits := hreports rfl
    refine Books.deliver hlast (ih fun _ => hfits) (h.tree hz).downward ht ?_ (hfits report)
    exact (mem_leaves.mp hleaf).above

/-- As long as nothing has been reported on a leaf, nothing is done of any piece. -/
theorem idle (h : net₀.Nested l false net)
    (hidle : ∀ b : Bookkeeping α, b.Idle → b.fraction = zero) :
    net.Books net₀.composites.size fun _ => Bookkeeping.Idle := by
  refine h.books (hidle _ Bookkeeping.idle_empty) Bookkeeping.Idle Report.IsIdle
    (fun b i report => Bookkeeping.idle_react hidle) Bookkeeping.idle_empty
    (fun b weight hb p hp => ?_) ⟨trivial, rfl⟩ (fun hbegun => ?_)
  · rcases Array.mem_push.mp hp with hp | rfl
    · exact hb p hp
    · rfl
  · cases hbegun

/-- **No number is old in a tree none of whose composites is over.** -/
theorem settled (h : net₀.Nested l begun net)
    (hidle : ∀ b : Bookkeeping α, b.Idle → b.fraction = zero)
    (hrunning : net.Running net₀.composites.size) : net.Settled net₀.composites.size l := by
  have hz : Bookkeeping.fraction ({} : Bookkeeping α) = zero := hidle _ Bookkeeping.idle_empty
  induction h with
  | root => exact settled_root net₀ l hz
  | @add net c weight h hc ih =>
    apply Settled.addPart (ih (Running.of_addPart hrunning))
    intro b hb
    have hafter := (Nested.add weight h hc).idle hidle c (b.register weight) hc (by
      rw [book?_addPart, if_pos rfl, hb]
      rfl)
    rw [hidle b (h.idle hidle c b hc hb), hidle _ hafter]
  | nest h ht hleaf ih =>
    have hleaf := mem_leaves.mp hleaf
    obtain ⟨net₁, sink₁, net₂, sink₂, m⟩ := making hleaf ht
    have hprev := m.running (h.tree hz).downward hleaf ht hrunning
    exact (ih hprev).addComposite hleaf ht hz
  | @report begun net sink t report h ht hleaf ih =>
    have hleaf := mem_leaves.mp hleaf
    have hprev := hrunning.of_deliver (h.tree hz).downward ht hleaf.above
    apply (ih hprev).deliver hleaf ht report
    intro b hb
    exact hrunning t.1 _ hleaf.above (book?_deliver_self ht hb report)

end Nested

end Network

end Estree.Progress
