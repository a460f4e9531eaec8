import Estree.Proofs.Progress.Completion
import Estree.Proofs.Progress.Wiring

/-!
# What the sink of a composite is told, and what it sees

A composite tells its sink how much of the whole is done each time something is reported on a piece.
While the sink takes such a report it may look at the composite, and at this moment the sink is out,
the bookkeeping has been changed already, and the next report may still be to come. The sink sees
what it is being told all the same.

The same holds where the sink is itself a part of another composite. There a report that is passed
on is a report on a piece again, made while the composite below is without its sink; `Offered` says
which reports are made in this way.

## Main results

* `Bookkeeping.react_open` and `Bookkeeping.react_closed`: what is passed on;
* `Bookkeeping.react_shows`: the bookkeeping that is shown with it;
* `Network.Offered.sinks`: a composite that is offered a report has its sink;
* `reports_consistent`: what a sink takes and what it sees meanwhile, and that the last amount it
  has taken stays the right one.
-/

namespace Estree.Progress

open Quantity

variable {α : Type}

/-- Does the report tell that the work is over? -/
def Report.isDone : Report α → Bool
  | .done => true
  | _ => false

/-- The amount done in all, if the report tells it. -/
def Report.amount? : Report α → Option α
  | .worked amount _ => some amount
  | _ => none

/-- The amounts that are told in some reports, the first one first. -/
def amounts (reports : List (Report α)) : List α := reports.filterMap Report.amount?

/-- What is shown with some reports has all the numbers of `after`, and says that the whole is over
if the report does. -/
def Bookkeeping.Shows (after : Bookkeeping α) (es : List (Emission α)) : Prop :=
  ∀ e ∈ es, e.seen.pieces = after.pieces ∧ e.seen.completed = e.report.isDone

variable [Quantity α]

/-- The piece after a report on it. -/
def Piece.take (p : Piece α) : Report α → Piece α
  | .total amount => { p with total := amount }
  | .title _ => p
  | .worked amount _ => { p with worked := amount }
  | .advance amount => { p with worked := add p.worked amount }
  | .done => if p.done then p else p.finish

/-! ### The bookkeeping -/

namespace Bookkeeping

/-- What is told of a whole that is not over when there is a report on piece `p`; `after` is the
bookkeeping with this report. -/
def forwards (after : Bookkeeping α) (p : Piece α) : Report α → List (Report α)
  | .title text => [.title text]
  | .worked _ title => (title.map Report.title).toList ++ [.worked after.fraction none]
  | .total _ | .advance _ => [.worked after.fraction none]
  | .done =>
    if p.done then []
    else .worked after.fraction none :: if after.completed then [.done] else []

theorem fraction_congr {b b' : Bookkeeping α} (h : b.pieces = b'.pieces) :
    b.fraction = b'.fraction := by
  unfold fraction
  rw [h]

variable {b : Bookkeeping α} {i : Nat} {p : Piece α}

omit [Quantity α] in
theorem getElem?_modify_pieces (hp : b.pieces[i]? = some p) (f : Piece α → Piece α) (j : Nat) :
    (b.modify i f).pieces[j]? = if j = i then some (f p) else b.pieces[j]? := by
  rw [modify, Array.getElem?_modify]
  by_cases h : i = j
  · subst h
    rw [if_pos rfl, if_pos rfl, hp]
    rfl
  · rw [if_neg h, if_neg (Ne.symm h)]

/-- A report changes the numbers of its piece, whether or not the whole is over. -/
theorem react_pieces (hp : b.pieces[i]? = some p) (report : Report α) (j : Nat) :
    (b.react i report).1.pieces[j]? = if j = i then some (p.take report) else b.pieces[j]? := by
  have hsame : b.pieces[j]? = if j = i then some p else b.pieces[j]? := by
    split
    · next h => rw [h, hp]
    · rfl
  cases report <;> simp only [react, hp, Piece.take]
  case total amount => exact getElem?_modify_pieces hp _ j
  case title text => exact hsame
  case worked amount title => exact getElem?_modify_pieces hp _ j
  case advance amount => exact getElem?_modify_pieces hp _ j
  case done =>
    unfold finishPiece
    split
    · exact hsame
    · dsimp only
      split <;> exact getElem?_modify_pieces hp Piece.finish j

theorem update_closed (hc : b.completed = true) : b.update = [] := if_pos hc

theorem update_open (ho : b.completed = false) : b.update = [⟨b, .worked b.fraction none⟩] :=
  if_neg (by simp [ho])

omit [Quantity α] in
theorem announce_closed (hc : b.completed = true) (title : String) : b.announce title = [] :=
  if_pos hc

omit [Quantity α] in
theorem announce_open (ho : b.completed = false) (title : String) :
    b.announce title = [⟨b, .title title⟩] :=
  if_neg (by simp [ho])

/-- The amount done of a piece of a whole that is not over is told, after the title. -/
theorem setWorked_open (ho : b.completed = false) (i : Nat) (amount : α) (title : Option String) :
    ∃ after, after.completed = false ∧ b.setWorked i amount title = (after,
      (title.map fun text => ⟨after, .title text⟩).toList ++
        [⟨after, .worked after.fraction none⟩]) := by
  refine ⟨b.modify i fun p => { p with worked := amount }, ho, ?_⟩
  rw [setWorked, update_open (b := b.modify i _) ho]
  cases title with
  | none => rfl
  | some title =>
    simp only [Option.map_some, Option.getD_some]
    rw [announce_open (b := b.modify i _) ho]
    rfl

/-- The end of a piece of a whole that is not over is told, and then perhaps the end of the
whole. -/
theorem finishPiece_open (ho : b.completed = false) (i : Nat) (hd : p.done = false) :
    ∃ finished : Bookkeeping α, finished.completed = false ∧
      (b.finishPiece i p = (finished, [⟨finished, .worked finished.fraction none⟩]) ∨
        b.finishPiece i p = ({ finished with completed := true },
          [⟨finished, .worked finished.fraction none⟩,
            ⟨{ finished with completed := true }, .done⟩])) := by
  refine ⟨{ b.modify i Piece.finish with doneCount := b.doneCount + 1 }, ho, ?_⟩
  rw [finishPiece, if_neg (by simp [hd])]
  dsimp only
  rw [update_open (b := { b.modify i Piece.finish with doneCount := b.doneCount + 1 }) ho]
  split
  · exact .inr rfl
  · exact .inl rfl

theorem setWorked_closed (hc : b.completed = true) (i : Nat) (amount : α)
    (title : Option String) : (b.setWorked i amount title).2 = [] := by
  have hc' : (b.modify i fun p => { p with worked := amount }).completed = true := hc
  rw [setWorked, update_closed hc']
  cases title with
  | none => rfl
  | some title => exact congrArg (· ++ []) (announce_closed hc' title)

/-- Of a whole that is over nothing is told. -/
theorem react_closed (hc : b.completed = true) (i : Nat) (report : Report α) :
    (b.react i report).2 = [] := by
  cases hp : b.pieces[i]? with
  | none => simp only [react, hp]
  | some p =>
    cases report <;> simp only [react, hp]
    case total amount => exact update_closed hc
    case title text => exact announce_closed hc text
    case worked amount title => exact setWorked_closed hc i amount title
    case advance amount => exact setWorked_closed hc i _ none
    case done =>
      unfold finishPiece
      split
      · rfl
      · dsimp only
        rw [if_neg (by simp [modify, hc])]
        exact update_closed hc

/-- **What is told of a whole that is not over**: the fraction after the report, each time but for a
title and for an end that has been reported before. -/
theorem react_open (hp : b.pieces[i]? = some p) (ho : b.completed = false) (report : Report α) :
    (b.react i report).2.map Emission.report = (b.react i report).1.forwards p report := by
  cases report <;> simp only [react, hp, forwards]
  case total amount =>
    rw [update_open (b := b.modify i _) ho]
    rfl
  case title text =>
    rw [announce_open ho]
    rfl
  case worked amount title =>
    obtain ⟨after, -, heq⟩ := setWorked_open ho i amount title
    rw [heq]
    cases title <;> rfl
  case advance amount =>
    obtain ⟨after, -, heq⟩ := setWorked_open ho i (add p.worked amount) none
    rw [heq]
    rfl
  case done =>
    cases hd : p.done with
    | true =>
      rw [finishPiece, if_pos hd]
      rfl
    | false =>
      obtain ⟨finished, hopen, heq | heq⟩ := finishPiece_open ho i hd
      · rw [heq, hopen]
        rfl
      · rw [heq]
        rfl

theorem setWorked_shows (ho : b.completed = false) (i : Nat) (amount : α) (title : Option String) :
    Shows (b.setWorked i amount title).1 (b.setWorked i amount title).2 := by
  obtain ⟨after, hopen, heq⟩ := setWorked_open ho i amount title
  rw [heq]
  cases title with
  | none => exact List.forall_mem_singleton.mpr ⟨rfl, hopen⟩
  | some title =>
    exact List.forall_mem_cons.mpr ⟨⟨rfl, hopen⟩, List.forall_mem_singleton.mpr ⟨rfl, hopen⟩⟩

theorem finishPiece_shows (ho : b.completed = false) (i : Nat) (p : Piece α) :
    Shows (b.finishPiece i p).1 (b.finishPiece i p).2 := by
  cases hd : p.done with
  | true =>
    rw [finishPiece, if_pos hd]
    exact List.forall_mem_nil _
  | false =>
    obtain ⟨finished, hopen, heq | heq⟩ := finishPiece_open ho i hd
    · rw [heq]
      exact List.forall_mem_singleton.mpr ⟨rfl, hopen⟩
    · rw [heq]
      exact List.forall_mem_cons.mpr ⟨⟨rfl, hopen⟩, List.forall_mem_singleton.mpr ⟨rfl, rfl⟩⟩

/-- **The bookkeeping that is shown with a report** is the one after it, but that the whole is not
over before this has been told. -/
theorem react_shows (b : Bookkeeping α) (i : Nat) (report : Report α) :
    Shows (b.react i report).1 (b.react i report).2 := by
  cases hc : b.completed with
  | true =>
    rw [react_closed hc]
    exact List.forall_mem_nil _
  | false =>
    cases hp : b.pieces[i]? with
    | none =>
      simp only [react, hp]
      exact List.forall_mem_nil _
    | some p =>
      cases report <;> simp only [react, hp]
      case total amount =>
        rw [update_open (b := b.modify i _) hc]
        exact List.forall_mem_singleton.mpr ⟨rfl, hc⟩
      case title text =>
        rw [announce_open hc]
        exact List.forall_mem_singleton.mpr ⟨rfl, hc⟩
      case worked amount title => exact setWorked_shows hc i amount title
      case advance amount => exact setWorked_shows hc i _ none
      case done => exact finishPiece_shows hc i p

/-- A report on a piece leads to one amount, which is right, or else changes no numbers. -/
theorem react_amounts (ho : b.completed = false) (i : Nat) (report : Report α) :
    amounts ((b.react i report).2.map Emission.report) = [(b.react i report).1.fraction] ∨
      amounts ((b.react i report).2.map Emission.report) = [] ∧
        (b.react i report).1.pieces = b.pieces := by
  cases hp : b.pieces[i]? with
  | none =>
    simp only [react, hp]
    exact .inr ⟨rfl, trivial⟩
  | some p =>
    rw [react_open hp ho]
    cases report with
    | total amount => exact .inl rfl
    | title text =>
      simp only [react, hp]
      exact .inr ⟨rfl, trivial⟩
    | worked amount title => cases title <;> exact .inl rfl
    | advance amount => exact .inl rfl
    | done =>
      simp only [react, hp, forwards]
      cases hd : p.done with
      | true =>
        rw [finishPiece, if_pos hd]
        exact .inr ⟨rfl, rfl⟩
      | false =>
        refine .inl ?_
        rw [if_neg (by simp)]
        split <;> rfl

end Bookkeeping

/-! ### The network -/

namespace Network

variable {climb : Nat → Nat → Report α → Network α → Network α} {net : Network α} {c : Nat}

/-- The network in which the sink of composite `c` takes what is emitted. -/
def during (c : Nat) (net : Network α) (e : Emission α) : Network α :=
  (net.setBook c e.seen).setSink c none

/-- What the sink of composite `c` takes while some emissions are delivered: the reports, each with
the network as it is then. -/
def takenOf (climb : Nat → Nat → Report α → Network α → Network α) (c : Nat) :
    Network α → List (Emission α) → List (Report α × Network α)
  | _, [] => []
  | net, e :: es => (e.report, net.during c e) :: takenOf climb c (emit climb c net e) es

/-- What the sink of composite `c` takes because of a report on piece `i`. -/
def taken : Nat → Nat → Nat → Report α → Network α → List (Report α × Network α)
  | 0, _, _, _, _ => []
  | levels + 1, c, i, report, net =>
    match net.composites[c]? with
    | none => []
    | some k => takenOf (Network.climb levels) c net (k.book.react i report).2

/-- Piece `i` of composite `c` is given a report in `net`, and there may be `levels` composites to
pass. Either the report is made from outside, or another composite has been given one, and this is
what its sink, which is a part of composite `c`, takes because of it. -/
inductive Offered : Nat → Nat → Nat → Report α → Network α → Prop where
  /-- The report is made from outside. -/
  | outside {net : Network α} {c i : Nat} {report : Report α} (h : net.Layered)
      (hc : c < net.composites.size) : Offered net.composites.size c i report net
  /-- The report is handed on. -/
  | inside {levels c i c' i' : Nat} {report : Report α} {net : Network α} {sink : Sink α}
      {t : Report α × Network α} (h : Offered (levels + 1) c i report net)
      (hs : net.sink? c = some sink) (htarget : sink.target? = some (c', i'))
      (ht : t ∈ net.taken (levels + 1) c i report) : Offered levels c' i' t.1 t.2

/-! ### What a sink takes -/

theorem emit_of_sink {e : Emission α} {sink : Sink α} (hs : net.sink? c = some sink) :
    emit climb c net e = (sink.deliver climb e.report (net.during c e)).1.setSink c
      (some (sink.deliver climb e.report (net.during c e)).2) := by
  have hs' : (net.setBook c e.seen).sink? c = some sink :=
    (sink?_modify (f := fun k => { k with book := e.seen }) (fun _ => rfl) net c c).trans hs
  unfold sink? at hs'
  simp only [emit, hs', during]

theorem map_takenOf (climb : Nat → Nat → Report α → Network α → Network α) (c : Nat)
    (net : Network α) (es : List (Emission α)) :
    (takenOf climb c net es).map Prod.fst = es.map Emission.report := by
  induction es generalizing net with
  | nil => rfl
  | cons e es ih => rw [takenOf, List.map_cons, List.map_cons, ih]

/-- While its sink is out, a composite shows the bookkeeping that comes with the report, and is not
canceled. -/
theorem look_during (hc : c < net.composites.size) (e : Emission α) :
    (net.during c e).look c =
      some ⟨e.seen.fraction, e.seen.pieces.size, e.seen.completed, false⟩ := by
  have hk : (net.during c e).composites[c]? = some { book := e.seen, sink := none } := by
    simp [during, setSink, setBook, Array.getElem_modify, hc]
  have hcanceled (levels : Nat) : (net.during c e).compositeCanceled levels c = false := by
    cases levels with
    | zero => rfl
    | succ levels => simp only [compositeCanceled, hk, Option.bind_some]
  rw [look, hk, Option.map_some, hcanceled]

omit [Quantity α] in
/-- The sinks of the other composites are where they were. -/
theorem sink?_during {c' : Nat} (hne : c' ≠ c) (e : Emission α) :
    (net.during c e).sink? c' = net.sink? c' := by
  rw [during, sink?_setSink_of_ne (Ne.symm hne)]
  exact sink?_modify (f := fun k => { k with book := e.seen }) (fun _ => rfl) net c c'

/-- What is so while the first emission is delivered, and does not depend on more than the wiring,
is so during all of them. -/
theorem forall_takenOf (hclimb : ∀ c i report net, Steady net (climb c i report net))
    {P : Emission α → Network α → Prop} {es : List (Emission α)}
    (hP : ∀ e ∈ es, ∀ net', net.Steady net' → P e (net'.during c e)) :
    ∀ t ∈ takenOf climb c net es, ∃ e ∈ es, t.1 = e.report ∧ P e t.2 := by
  induction es generalizing net with
  | nil => exact List.forall_mem_nil _
  | cons e es ih =>
    refine List.forall_mem_cons.mpr ⟨?_, fun t ht => ?_⟩
    · exact ⟨e, List.mem_cons_self, rfl, hP e List.mem_cons_self net (.refl net)⟩
    · have hsteady := steady_emit hclimb c net e
      obtain ⟨e', he', h⟩ := ih (fun e' he' net' h => hP e' (List.mem_cons_of_mem e he') net'
        (hsteady.trans h)) t ht
      exact ⟨e', List.mem_cons_of_mem e he', h⟩

/-- A log makes a note of what it takes, and of what it sees then. -/
theorem notes_emitAll {l : Log} (hs : net.sink? c = some (.log l)) (es : List (Emission α)) :
    (es.foldl (emit climb c) net).notes.toList = net.notes.toList ++
      (takenOf climb c net es).map fun t => .report l.name t.1 (l.watch.map t.2.lookAt) := by
  induction es generalizing net with
  | nil => exact (List.append_nil _).symm
  | cons e es ih =>
    have hemit : emit climb c net e = ((net.during c e).note (.report l.name e.report
        (l.watch.map (net.during c e).lookAt))).setSink c (some (.log l)) := emit_of_sink hs
    have hc : c < ((net.during c e).note
        (.report l.name e.report (l.watch.map (net.during c e).lookAt))).composites.size := by
      have hlt := lt_of_sink? hs
      simpa [note, during, setSink, setBook] using hlt
    have hs' : (emit climb c net e).sink? c = some (.log l) := by
      rw [hemit]
      exact sink?_setSink_self hc _
    have hnotes : (emit climb c net e).notes.toList = net.notes.toList ++
        [.report l.name e.report (l.watch.map (net.during c e).lookAt)] := by
      rw [hemit]
      exact Array.toList_push
    rw [List.foldl_cons, ih hs', hnotes, takenOf, List.map_cons, List.append_assoc]
    rfl

/-! ### Reports from outside and from below -/

/-- **A composite that is offered a report has its sink**, and so have those before it. -/
theorem Offered.sinks {levels i : Nat} {report : Report α} (h : Offered levels c i report net) :
    c < levels ∧ ∀ c' ≤ c, ∃ sink, net.sink? c' = some sink ∧ sink.Below c' := by
  induction h with
  | outside h hc => exact ⟨hc, fun c' hle => h c' (Nat.lt_of_le_of_lt hle hc)⟩
  | @inside levels c i c' i' report net sink t _ hs htarget ht ih =>
    obtain ⟨hlt, hsinks⟩ := ih
    obtain ⟨sink', hs', hbelow⟩ := hsinks c (Nat.le_refl c)
    obtain rfl := Option.some.inj (hs'.symm.trans hs)
    have hc' : c' < c := hbelow c' i' htarget
    refine ⟨Nat.lt_of_lt_of_le hc' (Nat.le_of_lt_succ hlt), fun c'' hle => ?_⟩
    have hne : c'' ≠ c := Nat.ne_of_lt (Nat.lt_of_le_of_lt hle hc')
    obtain ⟨sink'', hs'', hbelow''⟩ := hsinks c'' (Nat.le_of_lt (Nat.lt_of_le_of_lt hle hc'))
    obtain ⟨k, hk, -⟩ := Option.bind_eq_some_iff.mp hs
    simp only [taken, hk] at ht
    obtain ⟨-, -, -, hfound⟩ := forall_takenOf (steady_climb levels)
      (P := fun _ net => ∃ sink, net.sink? c'' = some sink ∧ sink.Below c'')
      (fun e _ net' hsteady => by
        obtain ⟨sink₁, hs₁, hcore⟩ := hsteady.sink? hs''
        exact ⟨sink₁, (sink?_during hne e).trans hs₁, Sink.below_of_core hcore hbelow''⟩) t ht
    exact hfound

/-- **While the sink of a composite takes something, it sees** the fraction after the report, that
the whole is over if and only if it is being told so, and that nobody asks for a stop. -/
theorem look_taken {levels i : Nat} {report : Report α} {k : Composite α}
    (hk : net.composites[c]? = some k) :
    ∀ t ∈ net.taken (levels + 1) c i report,
      t.2.look c = some ⟨(k.book.react i report).1.fraction,
        (k.book.react i report).1.pieces.size, t.1.isDone, false⟩ := by
  intro t ht
  have hc : c < net.composites.size := (Array.getElem?_eq_some_iff.mp hk).1
  simp only [taken, hk] at ht
  obtain ⟨e, he, hreport, hlook⟩ := forall_takenOf (steady_climb levels)
    (P := fun e net => net.look c =
      some ⟨e.seen.fraction, e.seen.pieces.size, e.seen.completed, false⟩)
    (fun e _ net' hsteady => look_during (Nat.lt_of_lt_of_eq hc hsteady.size.symm) e) t ht
  obtain ⟨hpieces, hdone⟩ := Bookkeeping.react_shows k.book i report e he
  rw [hlook, Bookkeeping.fraction_congr hpieces, hpieces, hdone, hreport]

/-- A composite that has been given a report has the bookkeeping after it in the end. -/
theorem book_climb (levels : Nat) {i : Nat} {report : Report α} {k : Composite α}
    (hk : net.composites[c]? = some k) :
    ((net.climb (levels + 1) c i report).composites[c]?).map Composite.book =
      some (k.book.react i report).1 := by
  have hc : c < net.composites.size := (Array.getElem?_eq_some_iff.mp hk).1
  have hsize := (net.steady_climb (levels + 1) c i report).size
  rw [Network.climb, hk] at hsize ⊢
  simp only [setBook, Array.size_modify] at hsize ⊢
  rw [Array.getElem?_modify, if_pos rfl, Array.getElem?_eq_getElem (hsize ▸ hc)]
  rfl

theorem addPart_eq {k : Composite α} (hk : net.composites[c]? = some k) (weight : α) :
    (net.addPart c weight).1 = net.setBook c (k.book.register weight) := by
  refine congrArg (fun composites => { net with composites }) (Array.ext_getElem? fun j => ?_)
  rw [Array.getElem?_modify, Array.getElem?_modify]
  by_cases h : c = j
  · subst h
    rw [if_pos rfl, if_pos rfl, hk]
    rfl
  · rw [if_neg h, if_neg h]

/-! ### The last amount -/

/-- The last amount the log has noted is how much of the whole is done. -/
def Current (net : Network α) (l : Log) (ops : List (Operation α)) : Prop :=
  (amounts (net.sessionLog l ops)).getLast? = some (net.sessionBook l ops).fraction

variable {l : Log} {ops : List (Operation α)}

theorem session_open {later : List (Operation α)}
    (ho : (net.sessionBook l (ops ++ later)).completed = false) :
    (net.sessionBook l ops).completed = false := by
  cases hc : (net.sessionBook l ops).completed with
  | false => rfl
  | true =>
    obtain ⟨pre, hpre, hall⟩ := (sessionBook_completed_iff net l ops).mp hc
    have hlater := (sessionBook_completed_iff net l (ops ++ later)).mpr
      ⟨pre, hpre.trans (List.prefix_append ops later), hall⟩
    rw [ho] at hlater
    cases hlater

/-- Where no piece is added, the last amount is right after an operation, or it has stayed the last
one and no number has changed. -/
theorem current_step {op : Operation α} (hop : ∀ weight, op ≠ .register weight)
    (ho : (net.sessionBook l (ops ++ [op])).completed = false) :
    net.Current l (ops ++ [op]) ∨
      amounts (net.sessionLog l (ops ++ [op])) = amounts (net.sessionLog l ops) ∧
        (net.sessionBook l (ops ++ [op])).pieces = (net.sessionBook l ops).pieces := by
  have hopen := session_open ho
  obtain ⟨hb, hlog⟩ := session_operate net l ops op
  have hamounts : amounts (net.sessionLog l (ops ++ [op])) =
      amounts (net.sessionLog l ops) ++ amounts ((net.sessionBook l ops).operate op).2 := by
    rw [hlog]
    exact List.filterMap_append
  cases op with
  | register weight => exact absurd rfl (hop weight)
  | report i report =>
    rcases Bookkeeping.react_amounts hopen i report with hone | ⟨hnone, hpieces⟩
    · refine .inl ?_
      rw [Current, hamounts, hb]
      exact (congrArg (fun xs => (amounts (net.sessionLog l ops) ++ xs).getLast?) hone).trans
        List.getLast?_concat
    · refine .inr ⟨?_, hb ▸ hpieces⟩
      rw [hamounts]
      exact (congrArg (amounts (net.sessionLog l ops) ++ ·) hnone).trans (List.append_nil _)

/-- A right amount stays right as long as no piece is added and the whole is not over. -/
theorem Current.append (h : net.Current l ops) {later : List (Operation α)}
    (hlater : ∀ op ∈ later, ∀ weight, op ≠ .register weight)
    (ho : (net.sessionBook l (ops ++ later)).completed = false) : net.Current l (ops ++ later) := by
  induction later using List.reverseRecOn with
  | nil => exact (List.append_nil ops).symm ▸ h
  | append_singleton later op ih =>
    rw [← List.append_assoc] at ho ⊢
    have hprev := ih (fun op' hop' => hlater op' (List.mem_append_left [op] hop')) (session_open ho)
    have hop := hlater op (List.mem_append_right later List.mem_cons_self)
    rcases current_step hop ho with hcurrent | ⟨hamounts, hpieces⟩
    · exact hcurrent
    · rw [Current, hamounts, Bookkeeping.fraction_congr hpieces]
      exact hprev

end Network

open Network

/-- **What the sink of a composite takes, and what it sees meanwhile.** A report on a piece may be
made from outside or by a composite below.

The numbers of the piece change in any case. If the whole is over, that is all. Otherwise the sink
is told the fraction there is now, once, with a title before it if the report has one, and with the
end after it if this is the end; it is told a title as such, and nothing if the end of the piece is
repeated. If the sink looks at the composite meanwhile, it always sees the fraction it is being told
or about to be told, that the whole is over if and only if it is being told so, and that nobody asks
for a stop. To add a piece changes the bookkeeping and nothing else.

So from when an amount is told until a piece is added or the whole is over, the amount that was told
last is right. -/
theorem reports_consistent :
    (∀ actions : List (Action α), (Session.after actions).network.Layered) ∧
    (∀ {levels c i : Nat} {report : Report α} {net : Network α} {k : Composite α} {p : Piece α},
      Offered levels c i report net → net.composites[c]? = some k → k.book.pieces[i]? = some p →
      let after := (k.book.react i report).1
      let sent := net.taken levels c i report
      ((climb levels c i report net).composites[c]?).map Composite.book = some after ∧
      (∀ j, after.pieces[j]? = if j = i then some (p.take report) else k.book.pieces[j]?) ∧
      (k.book.completed = true → sent = []) ∧
      (k.book.completed = false → sent.map Prod.fst = after.forwards p report) ∧
      (∀ t ∈ sent,
        t.2.look c = some ⟨after.fraction, after.pieces.size, t.1.isDone, false⟩) ∧
      ∀ l, net.sink? c = some (.log l) →
        (climb levels c i report net).notes.toList = net.notes.toList ++
          sent.map fun t => .report l.name t.1 (l.watch.map t.2.lookAt)) ∧
    (∀ {net : Network α} {c : Nat} {k : Composite α} (weight : α),
      net.composites[c]? = some k →
        (net.addPart c weight).1 = net.setBook c (k.book.register weight)) ∧
    ∀ (net : Network α) (l : Log),
      (isZero (zero : α) = true → net.Current l []) ∧
      (∀ ops op, (net.sessionBook l (ops ++ [op])).completed = false →
        amounts (net.sessionLog l (ops ++ [op])) ≠ amounts (net.sessionLog l ops) →
          net.Current l (ops ++ [op])) ∧
      ∀ ops later, net.Current l ops → (∀ op ∈ later, ∀ weight, op ≠ .register weight) →
        (net.sessionBook l (ops ++ later)).completed = false → net.Current l (ops ++ later) := by
  refine ⟨Session.layered_after, fun {levels c i report net k p} ho hk hp => ?_,
    fun weight hk => addPart_eq hk weight, fun net l => ⟨?_, fun ops op ho hne => ?_,
    fun ops later h hlater ho => h.append hlater ho⟩⟩
  · obtain ⟨hlevels, hsinks⟩ := ho.sinks
    obtain ⟨levels, rfl⟩ := Nat.exists_eq_add_of_le' (Nat.zero_lt_of_lt hlevels)
    have hsent : net.taken (levels + 1) c i report =
        takenOf (climb levels) c net (k.book.react i report).2 := by
      rw [taken, hk]
    refine ⟨book_climb levels hk, Bookkeeping.react_pieces hp report, fun hover => ?_,
      fun hopen => ?_, look_taken hk, fun l hs => ?_⟩
    · rw [hsent, Bookkeeping.react_closed hover]
      rfl
    · rw [hsent, map_takenOf, Bookkeeping.react_open hp hopen]
    · rw [hsent, ← notes_emitAll hs, climb, hk]
      rfl
  · intro hz
    obtain ⟨hb, hlog⟩ := session_nil net l
    have hfraction : Bookkeeping.fraction ({} : Bookkeeping α) = zero := if_pos hz
    rw [Current, hb, hlog, hfraction]
    rfl
  · cases op with
    | register weight =>
      refine absurd ?_ hne
      rw [(session_operate net l ops (.register weight)).2]
      exact congrArg amounts (List.append_nil _)
    | report i report =>
      rcases current_step (fun _ h => by cases h) ho with hcurrent | ⟨hsame, -⟩
      · exact hcurrent
      · exact absurd hsame hne

/-- A composite with one piece, which reports to a log that watches it, and one that is this piece
and has a piece itself. -/
def nested : Network Float where
  composites :=
    #[{ book := Bookkeeping.register {} 1, sink := some (.log ⟨"root", none, some "a"⟩) },
      { book := Bookkeeping.register {} 1, sink := some (.part 0 0) }]
  names := [("a", 0)]

theorem nested_consistent :
    nested.Layered ∧ ∃ t ∈ nested.taken 2 1 0 (.worked 1 none),
      Offered 1 0 0 t.1 t.2 ∧ t.2.taken 1 0 0 t.1 ≠ [] ∧ ∀ t' ∈ t.2.taken 1 0 0 t.1,
        (t'.2.look 0).map Look.isDone = some t'.1.isDone ∧
          (t'.2.look 0).map Look.isCanceled = some false := by
  have hlayered : nested.Layered := by
    intro c hc
    match c, hc with
    | 0, _ => exact ⟨_, rfl, by rintro _ _ ⟨⟩⟩
    | 1, _ => exact ⟨_, rfl, by rintro _ _ ⟨⟩; exact Nat.one_pos⟩
  have hbelow : Offered 2 1 0 (.worked 1 none) nested := .outside hlayered Nat.one_lt_two
  refine ⟨hlayered, _, List.mem_cons_self, ?_⟩
  have habove := Offered.inside hbelow rfl rfl List.mem_cons_self
  refine ⟨habove, List.cons_ne_nil _ _, fun t' ht' => ?_⟩
  obtain ⟨-, hreports, -⟩ := reports_consistent (α := Float)
  obtain ⟨-, -, -, -, hlook, -⟩ := hreports habove rfl rfl
  rw [hlook t' ht']
  exact ⟨rfl, rfl⟩

end Estree.Progress
