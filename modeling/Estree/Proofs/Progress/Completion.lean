import Estree.Progress.Network
import Mathlib.Data.List.Induction

/-!
# When a composite is over

A composite tells its sink how much of the whole is done, and in the end that the whole is over. It
does so by counting: the end of a piece is counted once, and when the count has reached the number
of pieces the whole is over. Pieces may be added at any time, also afterwards.

This module says what the sink is told over any sequence of operations, of any kind and in any
order, with the sink being a log that makes a note of every report.

* `Bookkeeping.operate_effect`: all that an operation can do to the marks on the pieces, to the
  count and to the completion of the whole, and what it reports.
* `Tally`: what holds of the bookkeeping and of the reports so far; every operation keeps it.
* `Network.Keeps.operate`: an operation on a composite in a network is that operation on its
  bookkeeping, and the log notes its reports.
* `completion_protocol`: the reports on a whole, from the first one on.
-/

namespace Estree.Progress

open Quantity

variable {α : Type}

/-- Something that is done with a composite. -/
inductive Operation (α : Type) where
  /-- Add a piece of the given weight. -/
  | register (weight : α)
  /-- Report on the piece with the given index. -/
  | report (i : Nat) (report : Report α)

/-- A report on the course of the work: an amount without a title, or a title. -/
def Report.IsUpdate : Report α → Prop
  | .worked _ none | .title _ => True
  | _ => False

namespace Bookkeeping

/-- Which of the pieces are over. -/
def marks (b : Bookkeeping α) : List Bool := b.pieces.toList.map Piece.done

/-- There is a piece, and all the pieces are over. -/
def AllDone (b : Bookkeeping α) : Prop := 0 < b.pieces.size ∧ ∀ p ∈ b.pieces, p.done = true

theorem count_marks (b : Bookkeeping α) : b.marks.count true = b.pieces.countP Piece.done := by
  rw [marks, List.count_eq_countP, List.countP_map, ← Array.countP_toList]
  congr 1
  funext p
  simp

theorem length_marks (b : Bookkeeping α) : b.marks.length = b.pieces.size := by simp [marks]

theorem allDone_iff (b : Bookkeeping α) :
    b.AllDone ↔ 0 < b.marks.length ∧ b.marks.count true = b.marks.length := by
  rw [AllDone, ← length_marks, List.count_eq_length]
  simp [marks]

theorem marks_modify {f : Piece α → Piece α} (hf : ∀ p, (f p).done = p.done) (b : Bookkeeping α)
    (i : Nat) : (b.modify i f).marks = b.marks := by
  refine List.ext_getElem? fun j => ?_
  simp only [marks, modify, List.getElem?_map, Array.getElem?_toList, Array.getElem?_modify]
  by_cases h : i = j <;> simp [h, Option.map_map, Function.comp_def, hf]

theorem marks_finish {b : Bookkeeping α} {i : Nat} (hi : i < b.pieces.size) :
    (b.modify i Piece.finish).marks = b.marks.set i true := by
  refine List.ext_getElem? fun j => ?_
  simp only [marks, modify, List.getElem?_map, Array.getElem?_toList, Array.getElem?_modify,
    List.getElem?_set, List.length_map, Array.length_toList]
  by_cases h : i = j
  · subst h
    simp [hi, Piece.finish]
  · simp [h]

/-- The reports tell of the course of the work, and once the whole is over there are none. -/
def Tells (b : Bookkeeping α) (reports : List (Report α)) : Prop :=
  (∀ r ∈ reports, r.IsUpdate) ∧ (b.completed → reports = [])

theorem Tells.append {b : Bookkeeping α} {rs₁ rs₂ : List (Report α)} (h₁ : b.Tells rs₁)
    (h₂ : b.Tells rs₂) : b.Tells (rs₁ ++ rs₂) := by
  refine ⟨fun r hr => ?_, fun hc => by rw [h₁.2 hc, h₂.2 hc]; rfl⟩
  rcases List.mem_append.mp hr with hr | hr
  · exact h₁.1 r hr
  · exact h₂.1 r hr

theorem tells_nil (b : Bookkeeping α) : b.Tells [] := ⟨by simp, fun _ => rfl⟩

theorem tells_announce (b : Bookkeeping α) (title : String) :
    b.Tells ((b.announce title).map Emission.report) := by
  unfold announce Tells
  split <;> simp_all [Report.IsUpdate]

/-- All that an operation can do, as far as the end of the whole is concerned. -/
inductive Effect (b : Bookkeeping α) : Bookkeeping α × List (Report α) → Prop where
  /-- A piece is added, of which nothing is reported. -/
  | added {b' : Bookkeeping α} (hm : b'.marks = b.marks ++ [false])
      (hn : b'.doneCount = b.doneCount) (hc : b'.completed = b.completed) : Effect b (b', [])
  /-- There may be something to tell of the course of the work. -/
  | told {b' : Bookkeeping α} {reports : List (Report α)} (hm : b'.marks = b.marks)
      (hn : b'.doneCount = b.doneCount) (hc : b'.completed = b.completed)
      (hr : b.Tells reports) : Effect b (b', reports)
  /-- A piece is over, and the whole is not over by that. -/
  | ended {b' : Bookkeeping α} {reports : List (Report α)} {i : Nat} (hi : b.marks[i]? = some false)
      (hm : b'.marks = b.marks.set i true) (hn : b'.doneCount = b.doneCount + 1)
      (hc : b'.completed = b.completed) (hs : b.completed ∨ b'.doneCount ≠ b'.marks.length)
      (hr : b.Tells reports) : Effect b (b', reports)
  /-- The last piece is over, and so is the whole. -/
  | closed {b' : Bookkeeping α} {amount : α} {i : Nat} (hi : b.marks[i]? = some false)
      (hm : b'.marks = b.marks.set i true) (hn : b'.doneCount = b.doneCount + 1)
      (hc : b.completed = false) (hc' : b'.completed) (hs : b'.doneCount = b'.marks.length) :
      Effect b (b', [.worked amount none, .done])

variable [Quantity α]

/-- What an operation does to the bookkeeping, and the reports it leads to. -/
def operate (b : Bookkeeping α) : Operation α → Bookkeeping α × List (Report α)
  | .register weight => (b.register weight, [])
  | .report i report => ((b.react i report).1, (b.react i report).2.map Emission.report)

theorem tells_update (b : Bookkeeping α) : b.Tells (b.update.map Emission.report) := by
  unfold update Tells
  split <;> simp_all [Report.IsUpdate]

/-- A report on the amount done tells of the course of the work. -/
theorem setWorked_effect (b : Bookkeeping α) (i : Nat) (amount : α) (title : Option String) :
    b.Effect ((b.setWorked i amount title).1,
      (b.setWorked i amount title).2.map Emission.report) := by
  have hm := marks_modify (f := fun p => { p with worked := amount }) (fun _ => rfl) b i
  refine .told hm rfl rfl ?_
  rw [setWorked, List.map_append]
  refine Tells.append ?_ (tells_update (b.modify i fun p => { p with worked := amount }))
  cases title with
  | none => exact tells_nil b
  | some title => exact tells_announce (b.modify i fun p => { p with worked := amount }) title

/-- The first report on the end of a piece ends the piece, and the whole with the last piece. -/
theorem finishPiece_effect (b : Bookkeeping α) {i : Nat} {p : Piece α}
    (hp : b.pieces[i]? = some p) :
    b.Effect ((b.finishPiece i p).1, (b.finishPiece i p).2.map Emission.report) := by
  obtain ⟨hi, -⟩ := Array.getElem?_eq_some_iff.mp hp
  have hmark : b.marks[i]? = some p.done := by simp [marks, hp]
  unfold finishPiece
  split
  · exact .told rfl rfl rfl (tells_nil b)
  · next hd =>
    rw [Bool.not_eq_true] at hd
    rw [hd] at hmark
    generalize hf : ({ b.modify i Piece.finish with doneCount := b.doneCount + 1 } :
      Bookkeeping α) = finished
    have hm : finished.marks = b.marks.set i true := hf ▸ marks_finish hi
    have hn : finished.doneCount = b.doneCount + 1 := hf ▸ rfl
    have hc : finished.completed = b.completed := hf ▸ rfl
    have ht := tells_update finished
    dsimp only
    split
    · next hall =>
      simp only [Bool.and_eq_true, decide_eq_true_eq, Bool.not_eq_true'] at hall
      obtain ⟨hsize, hopen⟩ := hall
      rw [update, if_neg (by simp [hopen])]
      exact .closed hmark hm hn (hc ▸ hopen) rfl (hsize.trans (length_marks finished).symm)
    · next hall =>
      refine .ended hmark hm hn hc ?_ ⟨ht.1, fun h => ht.2 (hc ▸ h)⟩
      rw [length_marks, ← hc]
      by_cases h : finished.doneCount = finished.pieces.size
      · left; simpa [h] using hall
      · exact Or.inr h

theorem operate_effect (b : Bookkeeping α) (op : Operation α) : b.Effect (b.operate op) := by
  cases op with
  | register weight => exact .added (by simp [marks, register, Piece.fresh]) rfl rfl
  | report i report =>
    cases hp : b.pieces[i]? with
    | none =>
      simp only [operate, react, hp]
      exact .told rfl rfl rfl (tells_nil b)
    | some p =>
      cases report <;> simp only [operate, react, hp]
      case total amount =>
        have hm := marks_modify (f := fun p => { p with total := amount }) (fun _ => rfl) b i
        exact .told hm rfl rfl (tells_update (b.modify i fun p => { p with total := amount }))
      case title text => exact .told rfl rfl rfl (tells_announce b text)
      case worked amount title => exact setWorked_effect b i amount title
      case advance amount => exact setWorked_effect b i _ none
      case done => exact finishPiece_effect b hp

end Bookkeeping

open Bookkeeping

/-! ### The reports so far -/

/-- What holds of the bookkeeping on a whole and of what has been reported on it since it was
made. -/
structure Tally (b : Bookkeeping α) (log : List (Report α)) : Prop where
  /-- The count is the number of pieces that are over. -/
  count : b.doneCount = b.marks.count true
  /-- As long as the whole is not over, only its course is reported. -/
  running : b.completed = false → ∀ r ∈ log, r.IsUpdate
  /-- The end of the whole was the last thing reported, right after an amount. -/
  closing : b.completed → ∃ updates amount, (∀ r ∈ updates, Report.IsUpdate r) ∧
    log = updates ++ [.worked amount none, .done]
  /-- Where all the pieces are over, so is the whole. -/
  all : b.AllDone → b.completed

theorem tally_empty : Tally ({} : Bookkeeping α) [] where
  count := rfl
  running := by simp
  closing h := absurd h (by simp)
  all h := absurd h.1 (by simp)

theorem Tally.completed_iff_mem {b : Bookkeeping α} {log : List (Report α)} (ht : Tally b log) :
    b.completed ↔ .done ∈ log := by
  constructor
  · intro hc
    obtain ⟨updates, amount, -, rfl⟩ := ht.closing hc
    simp
  · intro hd
    by_contra hc
    exact ht.running (Bool.not_eq_true _ ▸ hc) _ hd

theorem count_set_true {marks : List Bool} {i : Nat} (h : marks[i]? = some false) :
    (marks.set i true).count true = marks.count true + 1 := by
  obtain ⟨hi, h⟩ := List.getElem?_eq_some_iff.mp h
  rw [List.count_set hi, h]
  simp

variable {b b' : Bookkeeping α} {log reports : List (Report α)}

theorem Bookkeeping.Effect.count (h : b.Effect (b', reports))
    (hb : b.doneCount = b.marks.count true) : b'.doneCount = b'.marks.count true := by
  cases h with
  | added hm hn hc => rw [hm, hn, hb]; simp
  | told hm hn hc hr => rw [hm, hn, hb]
  | ended hi hm hn hc hs hr => rw [hm, hn, hb, count_set_true hi]
  | closed hi hm hn hc hc' hs => rw [hm, hn, hb, count_set_true hi]

/-- **The whole is over from the first operation on after which all the pieces are.** -/
theorem Tally.completed_iff (ht : Tally b log) (h : b.Effect (b', reports)) :
    b'.completed ↔ b.completed ∨ b'.AllDone := by
  have hcount := h.count ht.count
  cases h with
  | added hm hn hc =>
    have : ¬ b'.AllDone := by
      rw [allDone_iff, hm, List.count_eq_length]
      simp
    simp [hc, this]
  | told hm hn hc hr =>
    have : b'.AllDone → b.completed := by
      rw [allDone_iff, hm, ← allDone_iff]
      exact ht.all
    rw [hc]
    exact ⟨Or.inl, fun h => h.elim id this⟩
  | ended hi hm hn hc hs hr =>
    have : b'.AllDone → b.completed := by
      rw [allDone_iff, ← hcount]
      rintro ⟨-, hall⟩
      exact hs.resolve_right (not_not_intro hall)
    rw [hc]
    exact ⟨Or.inl, fun h => h.elim id this⟩
  | closed hi hm hn hc hc' hs =>
    have : b'.AllDone := by
      rw [allDone_iff, ← hcount]
      exact ⟨by omega, hs⟩
    simp [hc', this]

/-- The end of the whole is reported by the operation that brings it about. -/
theorem Bookkeeping.Effect.done_mem_iff (h : b.Effect (b', reports)) :
    .done ∈ reports ↔ b'.completed ∧ ¬ b.completed := by
  cases h with
  | added hm hn hc => simp [hc]
  | told hm hn hc hr =>
    have : Report.done ∉ reports := fun hd => hr.1 _ hd
    simp [hc, this]
  | ended hi hm hn hc hs hr =>
    have : Report.done ∉ reports := fun hd => hr.1 _ hd
    simp [hc, this]
  | closed hi hm hn hc hc' hs => simp [hc, hc']

/-- **Every operation keeps the tally.** -/
theorem Tally.step (ht : Tally b log) (h : b.Effect (b', reports)) : Tally b' (log ++ reports) := by
  have hcount := h.count ht.count
  have hall : b'.AllDone → b'.completed := fun hall => (ht.completed_iff h).mpr (.inr hall)
  have hsame (hc : b'.completed = b.completed) (hr : b.Tells reports) :
      Tally b' (log ++ reports) := by
    refine ⟨hcount, fun ho r hr' => ?_, fun hd => ?_, hall⟩
    · rcases List.mem_append.mp hr' with hr' | hr'
      · exact ht.running (hc ▸ ho) r hr'
      · exact hr.1 r hr'
    · rw [hr.2 (hc ▸ hd), List.append_nil]
      exact ht.closing (hc ▸ hd)
  cases h with
  | added hm hn hc => exact hsame hc (tells_nil b)
  | told hm hn hc hr => exact hsame hc hr
  | ended hi hm hn hc hs hr => exact hsame hc hr
  | @closed b' amount i hi hm hn hc hc' hs =>
    exact ⟨hcount, fun ho => absurd hc' (by simp [ho]), fun _ => ⟨log, amount, ht.running hc, rfl⟩,
      hall⟩

/-! ### In a network -/

/-- The report that a note is about. -/
def Note.report? : Note α → Option (Report α)
  | report _ r _ => some r
  | callback _ _ => none

namespace Network

/-- The reports that have been noted, the first one first. -/
def heard (net : Network α) : List (Report α) := net.notes.toList.filterMap Note.report?

/-- Composite `c` has the bookkeeping `b` and reports to the log `l`. -/
def Keeps (net : Network α) (c : Nat) (l : Log) (b : Bookkeeping α) : Prop :=
  net.composites[c]? = some { book := b, sink := some (.log l) }

theorem Keeps.unique {net : Network α} {c : Nat} {l : Log} {b b' : Bookkeeping α}
    (h : net.Keeps c l b) (h' : net.Keeps c l b') : b = b' := by
  have heq := Option.some.inj (h.symm.trans h')
  exact congrArg Composite.book heq

theorem Keeps.setBook {net : Network α} {c : Nat} {l : Log} {b : Bookkeeping α}
    (h : net.Keeps c l b) (b' : Bookkeeping α) : (net.setBook c b').Keeps c l b' := by
  unfold Keeps at *
  simp [Network.setBook, Array.getElem?_modify, h]

variable [Quantity α]

/-- An operation on composite `c`. -/
def operate (c : Nat) (net : Network α) : Operation α → Network α
  | .register weight => (net.addPart c weight).1
  | .report i report => (net.deliver report (.part c i)).1

variable {net : Network α} {c : Nat} {l : Log} {b : Bookkeeping α}

/-- The log notes what is emitted. -/
theorem Keeps.emit (h : net.Keeps c l b) (climb : Nat → Nat → Report α → Network α → Network α)
    (e : Emission α) :
    (emit climb c net e).Keeps c l e.seen ∧
      (emit climb c net e).heard = net.heard ++ [e.report] := by
  have h' := h.setBook e.seen
  unfold Keeps at h'
  simp only [Network.emit, h', Option.bind_some, Sink.deliver]
  constructor
  · simp [Keeps, setSink, note, Array.getElem?_modify, h']
  · simp [heard, setSink, note, Network.setBook, Note.report?]

theorem Keeps.emitAll (h : net.Keeps c l b) (climb : Nat → Nat → Report α → Network α → Network α)
    (es : List (Emission α)) :
    ∃ b', (es.foldl (Network.emit climb c) net).Keeps c l b' ∧
      (es.foldl (Network.emit climb c) net).heard = net.heard ++ es.map Emission.report := by
  induction es generalizing net b with
  | nil => exact ⟨b, h, by simp⟩
  | cons e es ih =>
    obtain ⟨hk, hh⟩ := h.emit climb e
    obtain ⟨b', hk', hh'⟩ := ih hk
    exact ⟨b', hk', by rw [List.foldl_cons, hh', hh, List.append_assoc]; rfl⟩

/-- **An operation on a composite is that operation on its bookkeeping**, and the log notes the
reports it leads to. -/
theorem Keeps.operate (h : net.Keeps c l b) (op : Operation α) :
    (net.operate c op).Keeps c l (b.operate op).1 ∧
      (net.operate c op).heard = net.heard ++ (b.operate op).2 := by
  cases op with
  | register weight =>
    unfold Keeps at *
    simp [Network.operate, addPart, Array.getElem?_modify, h, Bookkeeping.operate, heard]
  | report i report =>
    obtain ⟨levels, hl⟩ : ∃ levels, net.composites.size = levels + 1 := by
      obtain ⟨hc, -⟩ := Array.getElem?_eq_some_iff.mp h
      exact Nat.exists_eq_add_one.mpr (by omega)
    obtain ⟨b', hk, hh⟩ := h.emitAll (climb levels) (b.react i report).2
    unfold Keeps at h
    simp only [Network.operate, deliver, Sink.deliver, hl, climb, h]
    exact ⟨hk.setBook _, hh⟩

/-- A composite that reports to a log is made. -/
theorem keeps_addComposite (net : Network α) (l : Log) :
    (net.addComposite (.log l)).1.Keeps net.composites.size l {} ∧
      (net.addComposite (.log l)).1.heard = net.heard ++ [.total one, .worked zero none] := by
  constructor
  · simp [Keeps, addComposite, deliverAll, deliver, Sink.deliver, note]
  · simp [heard, addComposite, deliverAll, deliver, Sink.deliver, note, Note.report?]

/-- The network after a composite that reports to a log has been made and some operations have been
done with it. -/
def session (net : Network α) (l : Log) (ops : List (Operation α)) : Network α :=
  ops.foldl (operate net.composites.size) (net.addComposite (.log l)).1

/-- The bookkeeping of that composite. -/
def sessionBook (net : Network α) (l : Log) (ops : List (Operation α)) : Bookkeeping α :=
  (((net.session l ops).composites[net.composites.size]?).map Composite.book).getD {}

/-- Does that composite say that the whole is over? -/
def sessionDone (net : Network α) (l : Log) (ops : List (Operation α)) : Bool :=
  ((net.session l ops).look net.composites.size).any Look.isDone

/-- The reports that the log has noted in the meantime. -/
def sessionLog (net : Network α) (l : Log) (ops : List (Operation α)) : List (Report α) :=
  (net.session l ops).heard.drop net.heard.length

/-! ### Sessions -/

variable (net : Network α) (l : Log)

theorem session_append (ops later : List (Operation α)) :
    net.session l (ops ++ later) = later.foldl (operate net.composites.size) (net.session l ops) :=
  List.foldl_append

theorem keeps_session (ops : List (Operation α)) :
    (net.session l ops).Keeps net.composites.size l (net.sessionBook l ops) ∧
      (net.session l ops).heard = net.heard ++ net.sessionLog l ops := by
  have hgoal : ∃ b log, (net.session l ops).Keeps net.composites.size l b ∧
      (net.session l ops).heard = net.heard ++ log := by
    induction ops using List.reverseRecOn with
    | nil => exact ⟨{}, _, keeps_addComposite net l⟩
    | append_singleton ops op ih =>
      obtain ⟨b, log, hk, hh⟩ := ih
      obtain ⟨hk', hh'⟩ := hk.operate op
      rw [session_append]
      exact ⟨_, log ++ (b.operate op).2, hk', by rw [← List.append_assoc, ← hh]; exact hh'⟩
  obtain ⟨b, log, hk, hh⟩ := hgoal
  have hb : net.sessionBook l ops = b := by
    unfold Keeps at hk
    simp [sessionBook, hk]
  have hlog : net.sessionLog l ops = log := by rw [sessionLog, hh, List.drop_left]
  exact ⟨hb ▸ hk, hlog ▸ hh⟩

/-- The composite says that the whole is over when its bookkeeping does. -/
theorem sessionDone_eq (ops : List (Operation α)) :
    net.sessionDone l ops = (net.sessionBook l ops).completed := by
  obtain ⟨hk, -⟩ := keeps_session net l ops
  unfold Keeps at hk
  simp [sessionDone, look, hk]

/-- An operation of a session is an operation on the bookkeeping. -/
theorem session_operate (ops : List (Operation α)) (op : Operation α) :
    net.sessionBook l (ops ++ [op]) = ((net.sessionBook l ops).operate op).1 ∧
      net.sessionLog l (ops ++ [op]) =
        net.sessionLog l ops ++ ((net.sessionBook l ops).operate op).2 := by
  obtain ⟨hk, hh⟩ := keeps_session net l ops
  obtain ⟨hk', hh'⟩ := hk.operate op
  obtain ⟨hk₁, hh₁⟩ := keeps_session net l (ops ++ [op])
  have hsnoc : net.session l (ops ++ [op]) = (net.session l ops).operate net.composites.size op :=
    session_append net l ops [op]
  rw [← hsnoc] at hk' hh'
  refine ⟨hk₁.unique hk', ?_⟩
  rw [hh, hh₁, List.append_assoc] at hh'
  exact List.append_cancel_left hh'

theorem session_step (ops : List (Operation α)) (op : Operation α) :
    ∃ reports, (net.sessionBook l ops).Effect (net.sessionBook l (ops ++ [op]), reports) ∧
      net.sessionLog l (ops ++ [op]) = net.sessionLog l ops ++ reports := by
  obtain ⟨hb, hlog⟩ := session_operate net l ops op
  exact ⟨_, hb ▸ operate_effect _ op, hlog⟩

/-- Before the first operation there are no pieces, and the log knows the total. -/
theorem session_nil :
    net.sessionBook l [] = {} ∧ net.sessionLog l [] = [.total one, .worked zero none] := by
  obtain ⟨hk, hh⟩ := keeps_addComposite net l
  unfold Keeps at hk
  constructor
  · simp [sessionBook, session, hk]
  · simp [sessionLog, session, hh]

/-- What holds of the bookkeeping and of the reports after any operations. -/
theorem session_tally (ops : List (Operation α)) :
    ∃ log, Tally (net.sessionBook l ops) log ∧
      net.sessionLog l ops = .total one :: .worked zero none :: log := by
  induction ops using List.reverseRecOn with
  | nil =>
    obtain ⟨hb, hlog⟩ := session_nil net l
    exact ⟨[], hb ▸ tally_empty, hlog⟩
  | append_singleton ops op ih =>
    obtain ⟨log, ht, hlog⟩ := ih
    obtain ⟨reports, he, hlog'⟩ := session_step net l ops op
    exact ⟨log ++ reports, ht.step he, by rw [hlog', hlog]; rfl⟩

/-- The whole is over if and only if all the pieces there were have been over at some time. -/
theorem sessionBook_completed_iff (ops : List (Operation α)) :
    (net.sessionBook l ops).completed ↔ ∃ pre, pre <+: ops ∧ (net.sessionBook l pre).AllDone := by
  induction ops using List.reverseRecOn with
  | nil =>
    obtain ⟨hb, -⟩ := session_nil net l
    simp [hb, AllDone]
  | append_singleton ops op ih =>
    obtain ⟨log, ht, -⟩ := session_tally net l ops
    obtain ⟨reports, he, -⟩ := session_step net l ops op
    rw [ht.completed_iff he, ih]
    constructor
    · rintro (⟨pre, hpre, hall⟩ | hall)
      · exact ⟨pre, hpre.trans (List.prefix_append ops [op]), hall⟩
      · exact ⟨ops ++ [op], List.prefix_refl _, hall⟩
    · rintro ⟨pre, hpre, hall⟩
      rcases List.prefix_concat_iff.mp hpre with rfl | hpre
      · exact Or.inr hall
      · exact Or.inl ⟨pre, hpre, hall⟩

/-- The reports on a whole: its total is one and nothing is done, then follows the course of the
work, and perhaps a last amount and the end. -/
def Orderly (log : List (Report α)) : Prop :=
  ∃ updates, (∀ r ∈ updates, Report.IsUpdate r) ∧
    (log = .total one :: .worked zero none :: updates ∨
      ∃ amount, log = .total one :: .worked zero none :: (updates ++ [.worked amount none, .done]))

/-- **How a composite reports on a whole**, whatever is done with it and its pieces, and in whatever
order.

The reports are orderly. The end is reported by the first operation after which there is a piece
and all the pieces are over, and by no other one. The count of the pieces that are over is right,
and the composite says that the whole is over if and only if this has been reported; it says so for
good, even if pieces are added. -/
theorem completion_protocol (ops : List (Operation α)) :
    Orderly (net.sessionLog l ops) ∧
    (∀ op, ∃ reports, net.sessionLog l (ops ++ [op]) = net.sessionLog l ops ++ reports ∧
      (.done ∈ reports ↔ (net.sessionBook l (ops ++ [op])).AllDone ∧
        ∀ pre, pre <+: ops → ¬ (net.sessionBook l pre).AllDone)) ∧
    (net.sessionBook l ops).doneCount = (net.sessionBook l ops).pieces.countP Piece.done ∧
    (net.sessionDone l ops ↔ .done ∈ net.sessionLog l ops) ∧
    ∀ later, net.sessionDone l ops → net.sessionDone l (ops ++ later) := by
  obtain ⟨log, ht, hlog⟩ := session_tally net l ops
  refine ⟨?_, fun op => ?_, by rw [ht.count, count_marks], ?_, fun later => ?_⟩
  · cases hc : (net.sessionBook l ops).completed with
    | false => exact ⟨log, ht.running hc, .inl hlog⟩
    | true =>
      obtain ⟨updates, amount, hu, hlog'⟩ := ht.closing hc
      exact ⟨updates, hu, .inr ⟨amount, hlog' ▸ hlog⟩⟩
  · obtain ⟨reports, he, hlog'⟩ := session_step net l ops op
    refine ⟨reports, hlog', ?_⟩
    have hopen : (∀ pre, pre <+: ops → ¬ (net.sessionBook l pre).AllDone) ↔
        ¬ (net.sessionBook l ops).completed := by
      rw [sessionBook_completed_iff]
      exact ⟨fun h ⟨pre, hpre, hall⟩ => h pre hpre hall, fun h pre hpre hall => h ⟨pre, hpre, hall⟩⟩
    rw [he.done_mem_iff, ht.completed_iff he, hopen]
    exact ⟨fun ⟨h, ho⟩ => ⟨h.resolve_left ho, ho⟩, fun ⟨h, ho⟩ => ⟨.inr h, ho⟩⟩
  · rw [sessionDone_eq, ht.completed_iff_mem, hlog]
    simp
  · rw [sessionDone_eq, sessionDone_eq, sessionBook_completed_iff, sessionBook_completed_iff]
    rintro ⟨pre, hpre, hall⟩
    exact ⟨pre, hpre.trans (List.prefix_append ops later), hall⟩

end Network

end Estree.Progress
