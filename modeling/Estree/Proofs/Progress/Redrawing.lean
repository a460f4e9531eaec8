import Estree.Proofs.Progress.Order
import Estree.Proofs.Progress.Row
import Estree.Proofs.Styled

/-!
# A bar on a terminal that fails

Whatever a bar is drawn on may refuse to take something, at any moment and for a while only. The
rest of the frame is given up then, and the next one is tried as if nothing had happened: the bar
goes by what it has tried to draw, not by what can be seen. So the bar itself does not notice any
failure, and neither does the number of frames.

* `Writer`: something that takes strokes or refuses them;
* `Terminal`: a bar on a writer, step by step;
* `Bar.receive_eq_attempts`, `Terminal.receive_eq`: what a report does to a bar, and what is tried;
* `Terminal.deliverAll_screen`: a bar among other sinks is a terminal whose writer is its screen;
* `Bar.Redrawn`: what has been tried in all, which each report preserves;
* `terminal_redraws`: a session of reports.
-/

namespace Estree

/-! ### Writers -/

namespace Progress

/-- What a terminal is asked for at one time. -/
inductive Stroke where
  /-- Write a text. -/
  | text (text : String)
  /-- Switch a style on. -/
  | style (style : Style)
  /-- Switch all styles off. -/
  | reset
  /-- Show what has been written. -/
  | flush
  deriving DecidableEq, Repr

end Progress

/-- How a span is written. -/
def Span.strokes : Span → List Progress.Stroke
  | plain text => [.text text]
  | styled style text => [.style style, .text text, .reset]

namespace Progress

/-- Something with states `δ` that takes strokes, and tells whether it has taken one. What becomes
of a stroke that it has not taken is left open. -/
structure Writer (δ : Type) where
  /-- Take a stroke. -/
  take : Stroke → δ → δ × Bool

/-- Ask for some strokes until one is not taken; tells whether all have been taken. -/
def Writer.write {δ : Type} (w : Writer δ) : List Stroke → δ → δ × Bool
  | [], out => (out, true)
  | stroke :: strokes, out =>
    let (out, taken) := w.take stroke out
    if taken then w.write strokes out else (out, false)

/-- What a bar tries to write. -/
inductive Attempt where
  /-- The line of a percentage and a title. -/
  | frame (percent : Nat) (title : String)
  /-- The end of the line. -/
  | ending
  deriving DecidableEq, Repr

namespace Attempt

/-- The text of an attempt. -/
def text : Attempt → Styled
  | frame percent title => Bar.drawing percent title
  | ending => Bar.lineEnd

/-- The strokes of an attempt. A line is to be seen at once. -/
def strokes : Attempt → List Stroke
  | frame percent title => (Bar.drawing percent title).flatMap Span.strokes ++ [.flush]
  | ending => Bar.lineEnd.flatMap Span.strokes

end Attempt

/-- Try to write; nobody asks whether it was possible. -/
def Writer.attempt {δ : Type} (w : Writer δ) (out : δ) (a : Attempt) : δ :=
  (w.write a.strokes out).1

/-! ### Lines -/

namespace Bar

/-- The digits of a text. -/
def digits (text : String) : List Char := text.toList.filter Char.isDigit

/-- The cells of the bar. -/
def gauge (percent : Nat) : List Char :=
  List.replicate (percent * cells / 100) '#' ++ List.replicate (cells - percent * cells / 100) '.'

/-- The bar always has all its cells: no more are filled than there are. -/
theorem length_gauge {percent : Nat} (h : percent ≤ 100) : (gauge percent).length = cells := by
  rw [gauge, List.length_append, List.length_replicate, List.length_replicate]
  unfold cells
  omega

/-- The line behind the title: the bar with its cells, and the percentage. -/
def scale (percent : Nat) : String :=
  "[" ++ String.ofList (gauge percent) ++ "] " ++
    String.ofList (List.replicate (3 - (toString percent).length) ' ') ++ toString percent ++ "%"

theorem drawing_eq (percent : Nat) (title : String) :
    drawing percent title =
      .plain "\r" ::
        (if title.isEmpty then [] else [.styled { color := some .cyan } (title ++ " ")]) ++
      [.plain (scale percent)] := rfl

/-- The percentage can be read on the line. -/
theorem digits_scale (percent : Nat) : digits (scale percent) = Nat.toDigits 10 percent := by
  have hnumber : (toString percent).toList = Nat.toDigits 10 percent := by simp
  have hdigits : (Nat.toDigits 10 percent).filter Char.isDigit = Nat.toDigits 10 percent :=
    List.filter_eq_self.mpr fun _ => Nat.isDigit_of_mem_toDigits (by decide) (by decide)
  have hopen : digits "[" = [] := by decide
  have hclose : digits "] " = [] := by decide
  have hsign : digits "%" = [] := by decide
  have hfilled : Char.isDigit '#' = false := by decide
  have hfree : Char.isDigit '.' = false := by decide
  have hblank : Char.isDigit ' ' = false := by decide
  unfold digits at *
  simp only [scale, gauge, String.toList_append, String.toList_ofList, List.filter_append,
    List.filter_replicate, hopen, hclose, hsign, hfilled, hfree, hblank, hnumber, hdigits,
    List.nil_append, List.append_nil, Bool.false_eq_true, if_false]

/-- Different percentages and titles have different lines. -/
theorem drawing_injective {p q : Nat} {title other : String}
    (h : drawing p title = drawing q other) : p = q ∧ title = other := by
  rw [drawing_eq, drawing_eq] at h
  obtain ⟨hfront, hback⟩ := List.append_inj' h rfl
  constructor
  · have hscale : scale p = scale q := Span.plain.inj (List.cons.inj hback).1
    have hdigits : Nat.toDigits 10 p = Nat.toDigits 10 q := by
      rw [← digits_scale, ← digits_scale, hscale]
    rw [← Nat.ofDigitChars_toDigits (b := 10) (n := p) (by decide) (by decide), hdigits,
      Nat.ofDigitChars_toDigits (by decide) (by decide)]
  · obtain ⟨-, htitles⟩ := List.cons.inj hfront
    split at htitles <;> split at htitles
    · next htitle hother => rw [String.isEmpty_iff.mp htitle, String.isEmpty_iff.mp hother]
    · cases htitles
    · cases htitles
    · obtain ⟨-, hblank⟩ := Span.styled.inj (List.cons.inj htitles).1
      have hlists := congrArg String.toList hblank
      rw [String.toList_append, String.toList_append] at hlists
      exact String.toList_injective (List.append_cancel_right hlists)

end Bar

/-! ### Terminals -/

variable {α δ : Type} [Quantity α]

/-- A bar on a writer. -/
structure Terminal (α δ : Type) where
  /-- What the bar has been told and has tried to show. -/
  bar : Bar α
  /-- What it is drawn on. -/
  out : δ

namespace Terminal

/-- Draw the line; tells whether it has been drawn. -/
def draw (w : Writer δ) (percent : Nat) (t : Terminal α δ) : Terminal α δ × Bool :=
  let (out, taken) := w.write (Attempt.frame percent t.bar.title).strokes t.out
  ({ t with out }, taken)

/-- Draw the line if it has changed. It counts as drawn even if it could not be. -/
def redraw (w : Writer δ) (t : Terminal α δ) : Terminal α δ :=
  if t.bar.finished then t
  else
    let current := (t.bar.percent, t.bar.title)
    if t.bar.lastDrawn = some current then t
    else
      let (t, _) := t.draw w current.1
      { t with bar := { t.bar with lastDrawn := some current } }

/-- Take a report. -/
def receive (w : Writer δ) (t : Terminal α δ) : Report α → Terminal α δ
  | .total amount => redraw w { t with bar := { t.bar with total := amount } }
  | .title text => redraw w { t with bar := { t.bar with title := text } }
  | .worked amount title =>
    redraw w { t with bar := { t.bar with worked := amount, title := title.getD t.bar.title } }
  | .advance amount =>
    redraw w { t with bar := { t.bar with worked := Quantity.add t.bar.worked amount } }
  | .done =>
    if t.bar.finished then t
    else
      let t := redraw w { t with bar := { t.bar with worked := t.bar.total } }
      let (out, _) := w.write Attempt.ending.strokes t.out
      { t with bar := { t.bar with finished := true }, out }

/-- A new bar takes some reports. -/
def run (w : Writer δ) (out : δ) (reports : List (Report α)) : Terminal α δ :=
  reports.foldl (receive w) ⟨.fresh, out⟩

end Terminal

/-! ### One report -/

namespace Bar

/-- The percentage and the title. -/
def reading (b : Bar α) : Nat × String := (b.percent, b.title)

/-- What a report says has been noted, and nothing has been drawn yet. -/
def noted (b : Bar α) (r : Report α) : Bar α :=
  if r.isDone && !b.finished then { b with worked := b.total } else b.heed r

/-- What is tried if the line may have changed. -/
def frames (b : Bar α) : List Attempt :=
  if b.finished ∨ b.lastDrawn = some b.reading then [] else [.frame b.percent b.title]

/-- What is tried when a report has come. -/
def attempts (b : Bar α) (r : Report α) : List Attempt :=
  (b.noted r).frames ++ if r.isDone && !b.finished then [.ending] else []

/-- The bar after a report. -/
def next (b : Bar α) (r : Report α) : Bar α :=
  { b.noted r with
    lastDrawn := if b.finished then b.lastDrawn else some (b.noted r).reading
    finished := b.finished || r.isDone }

theorem noted_of_ne {r : Report α} (h : r ≠ .done) (b : Bar α) : b.noted r = b.heed r := by
  cases r with
  | done => exact absurd rfl h
  | _ => rfl

theorem noted_finished (b : Bar α) (r : Report α) : (b.noted r).finished = b.finished := by
  unfold noted
  split
  · rfl
  · cases r <;> rfl

theorem noted_lastDrawn (b : Bar α) (r : Report α) : (b.noted r).lastDrawn = b.lastDrawn := by
  unfold noted
  split
  · rfl
  · cases r <;> rfl

theorem frames_of_finished {b : Bar α} (h : b.finished = true) : b.frames = [] := if_pos (.inl h)

theorem frames_of_same {b : Bar α} (h : b.lastDrawn = some b.reading) : b.frames = [] :=
  if_pos (.inr h)

theorem frames_of_changed {b : Bar α} (h : b.finished = false)
    (hchanged : b.lastDrawn ≠ some b.reading) : b.frames = [.frame b.percent b.title] :=
  if_neg (not_or.mpr ⟨Bool.eq_false_iff.mp h, hchanged⟩)

theorem redraw_eq (b : Bar α) :
    b.redraw = ({ b with lastDrawn := if b.finished then b.lastDrawn else some b.reading },
      b.frames.map Attempt.text) := by
  cases hfinished : b.finished with
  | true =>
    rw [frames_of_finished hfinished, redraw, hfinished, Bool.true_or]
    simp only [if_true, ← hfinished, List.map_nil]
  | false =>
    refine Prod.ext ?_ ?_
    · simp only [redraw_fst hfinished, reading, Bool.false_eq_true, if_false, hfinished]
    · by_cases hsame : b.lastDrawn = some b.reading
      · rw [frames_of_same hsame, redraw, if_pos]
        · rfl
        · exact Bool.or_eq_true_iff.mpr (.inr (decide_eq_true hsame))
      · rw [frames_of_changed hfinished hsame, redraw, if_neg]
        · rfl
        · rw [hfinished, Bool.false_or, decide_eq_true_iff]
          exact hsame

/-- The work is over, and this is said for the first time. -/
theorem noted_done {b : Bar α} (h : b.finished = false) :
    b.noted .done = { b with worked := b.total } := by
  rw [noted, h]
  rfl

omit [Quantity α] in
theorem isDone_of_ne {r : Report α} (h : r ≠ .done) : r.isDone = false :=
  Bool.eq_false_iff.mpr (mt (isDone_iff r).mp h)

theorem attempts_of_ne {r : Report α} (h : r ≠ .done) (b : Bar α) :
    b.attempts r = (b.noted r).frames := by
  rw [attempts, isDone_of_ne h, Bool.false_and, if_neg Bool.false_ne_true, List.append_nil]

/-- **What a report does to a bar**, and what it tries to write. -/
theorem receive_eq_attempts (b : Bar α) (r : Report α) :
    b.receive r = (b.next r, (b.attempts r).map Attempt.text) := by
  by_cases hr : r = .done
  · subst hr
    obtain ⟨total, worked, title, lastDrawn, finished⟩ := b
    cases finished with
    | true => rfl
    | false =>
      have hreceive : receive .done ⟨total, worked, title, lastDrawn, false⟩ =
          ({ (redraw ⟨total, total, title, lastDrawn, false⟩).1 with finished := true },
            (redraw ⟨total, total, title, lastDrawn, false⟩).2 ++ [lineEnd]) := rfl
      rw [hreceive, redraw_eq, attempts, List.map_append]
      rfl
  · rw [receive_eq hr, ← noted_of_ne hr, redraw_eq, attempts_of_ne hr, next, isDone_of_ne hr,
      noted_finished, noted_lastDrawn, Bool.or_false, ← noted_finished b r]

end Bar

namespace Terminal

variable (w : Writer δ) (t : Terminal α δ)

theorem redraw_eq :
    t.redraw w = ⟨t.bar.redraw.1, t.bar.frames.foldl w.attempt t.out⟩ := by
  obtain ⟨⟨total, worked, title, lastDrawn, finished⟩, out⟩ := t
  cases finished with
  | true => rfl
  | false =>
    set b : Bar α := ⟨total, worked, title, lastDrawn, false⟩ with hb
    have hredraw : redraw w ⟨b, out⟩ = if lastDrawn = some b.reading then ⟨b, out⟩ else
        ⟨{ b with lastDrawn := some b.reading }, w.attempt out (.frame b.percent b.title)⟩ := rfl
    rw [hredraw, Bar.redraw_fst rfl]
    by_cases hsame : lastDrawn = some b.reading
    · rw [if_pos hsame, Bar.frames_of_same hsame, ← Bar.reading, ← hsame]
      rfl
    · rw [if_neg hsame, Bar.frames_of_changed rfl hsame]
      rfl

/-- **A terminal takes a report as its bar does**, and tries what the bar wants to write. -/
theorem receive_eq (r : Report α) :
    t.receive w r = ⟨t.bar.next r, (t.bar.attempts r).foldl w.attempt t.out⟩ := by
  have hbar : t.bar.next r = (t.bar.receive r).1 := by rw [Bar.receive_eq_attempts]
  by_cases hr : r = .done
  · subst hr
    obtain ⟨⟨total, worked, title, lastDrawn, finished⟩, out⟩ := t
    cases finished with
    | true => rfl
    | false =>
      have hreceive : receive w ⟨⟨total, worked, title, lastDrawn, false⟩, out⟩ .done =
          let t := redraw w ⟨⟨total, total, title, lastDrawn, false⟩, out⟩
          ⟨{ t.bar with finished := true }, w.attempt t.out .ending⟩ := rfl
      rw [hreceive, redraw_eq, hbar, Bar.attempts, List.foldl_append]
      rfl
  · have hreceive : t.receive w r = redraw w ⟨t.bar.heed r, t.out⟩ := by
      cases r with
      | done => exact absurd rfl hr
      | _ => rfl
    rw [hreceive, redraw_eq, hbar, Bar.receive_eq hr, Bar.attempts_of_ne hr, Bar.noted_of_ne hr]

end Terminal

/-! ### Many reports -/

namespace Bar

/-- What is tried during some reports. -/
def tried (b : Bar α) : List (Report α) → List Attempt
  | [] => []
  | r :: reports => b.attempts r ++ (b.next r).tried reports

/-- What has been tried are the frames that are listed, and the end of the line if it has come. No
line was tried twice in a row, and the last frame is remembered. The bar on each has its cells, if
no share has more than a hundred hundredths. -/
structure Redrawn (drawn : List (Nat × String)) (log : List Attempt) (b : Bar α) : Prop where
  log : log = drawn.map (fun d => .frame d.1 d.2) ++ if b.finished then [.ending] else []
  differ : (drawn.map fun d => drawing d.1 d.2).IsChain (· ≠ ·)
  last : drawn.getLast? = b.lastDrawn
  filled : (∀ x : α, hundredths x ≤ 100) → ∀ d ∈ drawn, (gauge d.1).length = 24

variable {b : Bar α} {drawn : List (Nat × String)} {log : List Attempt}

/-- **One report** adds a frame if the line has changed, and then the end of the line if the work is
over. -/
theorem Redrawn.next (h : b.Redrawn drawn log) (r : Report α) :
    ∃ drawn', (b.next r).Redrawn drawn' (log ++ b.attempts r) := by
  obtain ⟨hlog, hdiffer, hlast, hfilled⟩ := h
  have hnoted := noted_finished b r
  cases hfinished : b.finished with
  | true =>
    rw [hfinished] at hlog hnoted
    refine ⟨drawn, ?_, hdiffer, ?_, hfilled⟩
    · rw [attempts, frames_of_finished hnoted, hlog, Bar.next, hfinished]
      simp
    · simp [Bar.next, hfinished, hlast]
  | false =>
    rw [hfinished] at hlog hnoted
    have hend : (if r.isDone && !b.finished then [Attempt.ending] else []) =
        if (b.next r).finished then [Attempt.ending] else [] := by
      simp [Bar.next, hfinished]
    have hremembered : (b.next r).lastDrawn = some (b.noted r).reading := by
      simp [Bar.next, hfinished]
    by_cases hsame : (b.noted r).lastDrawn = some (b.noted r).reading
    · refine ⟨drawn, ?_, hdiffer, ?_, hfilled⟩
      · rw [attempts, frames_of_same hsame, hend, hlog]
        simp
      · rw [hlast, hremembered, ← hsame, noted_lastDrawn]
    · refine ⟨drawn ++ [(b.noted r).reading], ?_, ?_, ?_, ?_⟩
      · rw [attempts, frames_of_changed hnoted hsame, hend, hlog, List.map_append]
        simp [reading]
      · rw [List.map_append]
        refine hdiffer.append (List.isChain_singleton _) ?_
        intro text htext text' htext' heq
        rw [List.getLast?_map, hlast, ← noted_lastDrawn b r] at htext
        obtain ⟨d, hd, rfl⟩ := Option.map_eq_some_iff.mp htext
        obtain rfl : drawing _ _ = text' := Option.some.inj htext'
        exact hsame (hd.trans (congrArg some (Prod.ext_iff.mpr (drawing_injective heq))))
      · rw [List.getLast?_concat, hremembered]
      · intro hle
        refine List.forall_mem_append.mpr ⟨hfilled hle, List.forall_mem_singleton.mpr ?_⟩
        exact length_gauge (percent_le hle _)

/-- **All reports.** -/
theorem Redrawn.tried (h : b.Redrawn drawn log) (reports : List (Report α)) :
    ∃ drawn', (reports.foldl Bar.next b).Redrawn drawn' (log ++ b.tried reports) := by
  induction reports generalizing b drawn log with
  | nil => exact ⟨drawn, by rw [Bar.tried, List.append_nil]; exact h⟩
  | cons r reports ih =>
    obtain ⟨drawn', h'⟩ := h.next r
    obtain ⟨drawn'', h''⟩ := ih h'
    refine ⟨drawn'', ?_⟩
    rw [Bar.tried, ← List.append_assoc]
    exact h''

/-- The line has been ended if the work was said to be over. -/
theorem finished_foldl_next (b : Bar α) (reports : List (Report α)) :
    (reports.foldl next b).finished = true ↔ b.finished = true ∨ .done ∈ reports := by
  induction reports generalizing b with
  | nil => simp
  | cons r reports ih =>
    rw [List.foldl_cons, ih, next, Bool.or_eq_true, isDone_iff, List.mem_cons, or_assoc,
      eq_comm (a := r)]

end Bar

/-! ### Amounts -/

open Quantity

/-- What a bar needs to know of amounts to be full in the end. Zero is not positive, and what is
positive has a hundred hundredths of itself. Infinity need not: nothing has any hundredths of it,
and neither has what is no number. -/
structure Proportional (α : Type) [Quantity α] : Prop where
  zero : isPositive (zero : α) = false
  whole : ∀ x : α, isPositive x = true →
    hundredths (div x x) = 100 ∨ ∀ y, hundredths (div y x) = 0

theorem proportional_rat : Proportional ℚ where
  zero := by decide
  whole x hx := by
    have hne : x ≠ 0 := ne_of_gt (of_decide_eq_true hx)
    have hone : div x x = (1 : ℚ) := div_self hne
    left
    rw [hone]
    decide +kernel

namespace Bar

variable {b : Bar α}

/-- If there is work, the frame that is drawn when it is over is that of a hundred percent. -/
theorem frames_done (h : Proportional α) (hpos : isPositive b.total = true)
    (hgoing : b.finished = false) (hlast : b.lastDrawn = some b.reading) :
    (b.noted .done).frames ⊆ [.frame 100 b.title] := by
  rw [noted_done hgoing]
  rcases h.whole b.total hpos with hwhole | hnone
  · have hpercent : percent { b with worked := b.total } = 100 := by
      rw [percent, if_pos hpos, hwhole]
    rw [frames, hpercent]
    split
    · exact List.nil_subset _
    · exact List.Subset.refl _
  · have hsame : b.lastDrawn = some (reading { b with worked := b.total }) := by
      rw [hlast, reading, reading, percent, percent, if_pos hpos, if_pos hpos, hnone, hnone]
    rw [frames_of_same hsame]
    exact List.nil_subset _

end Bar

/-! ### Screens -/

/-- What a stroke writes. -/
def Stroke.render (colored : Bool) : Stroke → String
  | .text words => words
  | .style look => if colored then look.sequence else ""
  | .reset => if colored then resetSequence else ""
  | .flush => ""

/-- A screen as a writer. -/
def Screen.writer : Writer Screen where
  take stroke s :=
    if s.broken then (s, false)
    else ({ s with written := s.written ++ stroke.render s.colored }, true)

theorem Screen.write_broken {s : Screen} (h : s.broken = true) (strokes : List Stroke) :
    (Screen.writer.write strokes s).1 = s := by
  cases strokes with
  | nil => rfl
  | cons stroke strokes => simp [Writer.write, writer, h]

theorem Screen.write_working {s : Screen} (h : s.broken = false) (strokes : List Stroke) :
    (Screen.writer.write strokes s).1 = { s with
      written := s.written ++ String.join (strokes.map (Stroke.render s.colored)) } := by
  induction strokes generalizing s with
  | nil => simp [Writer.write]
  | cons stroke strokes ih =>
    have htake : Screen.writer.take stroke s =
        ({ s with written := s.written ++ stroke.render s.colored }, true) := by
      simp [writer, h]
    rw [Writer.write, htake]
    rw [List.map_cons, String.join_cons, ← String.append_assoc]
    exact ih h

/-- The strokes of a text write the text. -/
theorem render_eq_strokes (colored : Bool) (text : Styled) :
    text.render colored =
      String.join ((text.flatMap Span.strokes).map (Stroke.render colored)) := by
  have hspan (span : Span) : String.join (span.strokes.map (Stroke.render colored)) =
      if colored then span.colored else span.words := by
    cases span <;> cases colored <;>
      simp [Span.strokes, Stroke.render, Span.colored, Span.words, String.append_assoc]
  rw [Styled.render_eq_join]
  induction text with
  | nil => rfl
  | cons span text ih =>
    rw [List.map_cons, String.join_cons, List.flatMap_cons, List.map_append, String.join_append,
      hspan, ih]

/-- To try to write on a screen is to write there, if it is not broken. -/
theorem Screen.attempt_writer (s : Screen) (a : Attempt) :
    Screen.writer.attempt s a = s.show a.text := by
  have hstrokes :
      String.join (a.strokes.map (Stroke.render s.colored)) = a.text.render s.colored := by
    rw [render_eq_strokes]
    cases a with
    | frame percent title =>
      have hflush : String.join ([Stroke.flush].map (Stroke.render s.colored)) = "" := rfl
      rw [Attempt.strokes, List.map_append, String.join_append, hflush, String.append_empty]
      rfl
    | ending => rfl
  cases hbroken : s.broken with
  | true => rw [Writer.attempt, write_broken hbroken, Screen.show, if_pos hbroken]
  | false => rw [Writer.attempt, write_working hbroken, hstrokes, Screen.show, hbroken]; rfl

/-- On a screen, a terminal is a bar that is drawn there. -/
theorem Terminal.receive_screen (t : Terminal α Screen) (r : Report α) :
    t.receive Screen.writer r =
      ⟨(t.bar.receive r).1, (t.bar.receive r).2.foldl Screen.show t.out⟩ := by
  rw [receive_eq, Bar.receive_eq_attempts, List.foldl_map]
  exact congrArg _ (List.foldl_ext _ _ _ fun s a _ => s.attempt_writer a)

/-- **A bar in a network is a terminal** whose writer is the screen that the bar is drawn on. -/
theorem Terminal.deliverAll_screen {net : Network α} {screen : Nat} {t : Terminal α Screen}
    (hs : net.screens[screen]? = some t.out) (flag : Nat) (reports : List (Report α)) :
    let t' := reports.foldl (receive Screen.writer) t
    (net.deliverAll reports (.bar t.bar screen flag)).2 = .bar t'.bar screen flag ∧
    (net.deliverAll reports (.bar t.bar screen flag)).1.screens[screen]? = some t'.out := by
  induction reports generalizing net t with
  | nil => exact ⟨rfl, hs⟩
  | cons r reports ih =>
    have hall : net.deliverAll (r :: reports) (.bar t.bar screen flag) =
        (net.draw screen (t.bar.receive r).2).deliverAll reports
          (.bar (t.bar.receive r).1 screen flag) :=
      congrArg (fun next => Network.deliverAll next.1 reports next.2)
        (net.deliver_bar r t.bar screen flag)
    rw [hall, List.foldl_cons, receive_screen]
    exact ih (t := ⟨_, _⟩) (Network.screens_draw hs _)

/-! ### Sessions -/

/-- What some reports do to a terminal. -/
theorem Terminal.run_eq (w : Writer δ) (out : δ) (reports : List (Report α)) :
    run w out reports =
      ⟨reports.foldl Bar.next .fresh, (Bar.fresh.tried reports).foldl w.attempt out⟩ := by
  have hall (t : Terminal α δ) : reports.foldl (receive w) t =
      ⟨reports.foldl Bar.next t.bar, (t.bar.tried reports).foldl w.attempt t.out⟩ := by
    induction reports generalizing t with
    | nil => rfl
    | cons r reports ih =>
      rw [List.foldl_cons, ih, receive_eq, Bar.tried, List.foldl_append]
      rfl
  exact hall _

/-- Until the line has been ended, the last frame that was tried is the current one. -/
theorem Bar.lastDrawn_foldl_next {reports : List (Report α)} (h : reports ≠ [])
    (hgoing : (reports.foldl next (fresh : Bar α)).finished = false) :
    (reports.foldl next fresh).lastDrawn = some (reports.foldl next (fresh : Bar α)).reading := by
  induction reports using List.reverseRecOn with
  | nil => exact absurd rfl h
  | append_singleton reports r _ =>
    rw [List.foldl_append, List.foldl_cons, List.foldl_nil] at *
    obtain ⟨hbefore, -⟩ := Bool.or_eq_false_iff.mp hgoing
    rw [next, hbefore, if_neg Bool.false_ne_true]
    rfl

/-- What a report leads to that comes to the terminal `t` and leaves it as `t'`. -/
structure Terminal.Redraws (w : Writer δ) (t : Terminal α δ) (r : Report α) (t' : Terminal α δ) :
    Prop where
  /-- A frame is tried if the line has changed and not been ended; and then the end of the line, if
  the work is over now. -/
  out : t'.out = List.foldl w.attempt t.out
    ((if t.bar.finished = false ∧ t.bar.lastDrawn ≠ some t'.bar.reading then
      [.frame t'.bar.percent t'.bar.title] else []) ++
    if t.bar.finished = false ∧ r.isDone then [.ending] else [])
  /-- If there was work, the frame that is tried when it is over is that of a hundred percent. -/
  whole : Proportional α → t.bar.finished = false → r.isDone → isPositive t.bar.total = true →
    t.bar.lastDrawn ≠ some t'.bar.reading → t'.bar.percent = 100

/-- **One report**, if the bar shows what is current unless there is no work. -/
theorem Terminal.redraws (w : Writer δ) (t : Terminal α δ) (r : Report α)
    (hlast : Proportional α → t.bar.finished = false → isPositive t.bar.total = true →
      t.bar.lastDrawn = some t.bar.reading) : t.Redraws w r (t.receive w r) := by
  have hsame : (t.bar.next r).reading = (t.bar.noted r).reading := rfl
  rw [receive_eq]
  refine ⟨?_, fun h hgoing hdone hpos hchanged => ?_⟩
  · have hframes : (t.bar.noted r).frames =
        if t.bar.finished = false ∧ t.bar.lastDrawn ≠ some (t.bar.next r).reading then
          [.frame (t.bar.next r).percent (t.bar.next r).title] else [] := by
      rw [Bar.frames, Bar.noted_finished, Bar.noted_lastDrawn, hsame]
      by_cases hquiet : t.bar.finished ∨ t.bar.lastDrawn = some (t.bar.noted r).reading
      · rw [if_pos hquiet, if_neg]
        rintro ⟨hgoing, hchanged⟩
        exact hquiet.elim (Bool.eq_false_iff.mp hgoing) hchanged
      · obtain ⟨hgoing, hchanged⟩ := not_or.mp hquiet
        rw [if_neg hquiet, if_pos ⟨Bool.eq_false_iff.mpr hgoing, hchanged⟩]
        rfl
    have hending : (if r.isDone && !t.bar.finished then [Attempt.ending] else []) =
        if t.bar.finished = false ∧ r.isDone then [.ending] else [] := by
      simp only [Bool.and_eq_true, Bool.not_eq_true', and_comm]
    rw [Bar.attempts, hframes, hending]
  · obtain rfl := (isDone_iff r).mp hdone
    have hframes := Bar.frames_done h hpos hgoing (hlast h hgoing hpos)
    rw [Bar.frames_of_changed ((Bar.noted_finished _ _).trans hgoing)
      (by rw [Bar.noted_lastDrawn]; exact hchanged)] at hframes
    exact (Attempt.frame.inj (List.mem_singleton.mp (hframes List.mem_cons_self))).1

/-- **A bar on a terminal draws what has changed, and failures change nothing.** Whatever the writer
refuses, the bar is the one that would be there with any other writer. It is also the bar that takes
the reports in a network, where the screen takes the strokes. What has been tried in all are frames,
each with another line than the one before, and the end of the line once the work is over. The last
frame is the current one until then. -/
theorem terminal_redraws (w : Writer δ) (out : δ) (reports : List (Report α)) :
    let t := Terminal.run w out reports
    t.bar = reports.foldl (fun b r => (b.receive r).1) .fresh ∧
    (∀ {δ' : Type} (w' : Writer δ') (out' : δ'), (Terminal.run w' out' reports).bar = t.bar) ∧
    (∀ (net : Network α) {screen : Nat} {s : Screen}, net.screens[screen]? = some s → ∀ flag,
      (net.deliverAll reports (.bar .fresh screen flag)).2 = .bar t.bar screen flag ∧
      (net.deliverAll reports (.bar .fresh screen flag)).1.screens[screen]? =
        some (Terminal.run Screen.writer s reports).out) ∧
    (∃ drawn log, t.out = log.foldl w.attempt out ∧ t.bar.Redrawn drawn log) ∧
    (t.bar.finished = true ↔ .done ∈ reports) ∧
    (t.bar.finished = false → reports ≠ [] → t.bar.lastDrawn = some t.bar.reading) ∧
    ∀ r, t.Redraws w r (t.receive w r) := by
  intro t
  have ht : t = ⟨reports.foldl Bar.next .fresh, (Bar.fresh.tried reports).foldl w.attempt out⟩ :=
    Terminal.run_eq w out reports
  have hbar : t.bar = reports.foldl Bar.next .fresh := congrArg Terminal.bar ht
  have hcurrent : t.bar.finished = false → reports ≠ [] → t.bar.lastDrawn = some t.bar.reading := by
    rw [hbar]
    exact fun hgoing hne => Bar.lastDrawn_foldl_next hne hgoing
  have hany {δ' : Type} (w' : Writer δ') (out' : δ') :
      (Terminal.run w' out' reports).bar = t.bar := by
    rw [hbar, Terminal.run_eq]
  refine ⟨?_, hany, fun net screen s hs flag => ?_, ?_, ?_, hcurrent, fun r => ?_⟩
  · rw [hbar]
    exact List.foldl_ext _ _ _ fun b r _ => by rw [Bar.receive_eq_attempts]
  · rw [← hany Screen.writer s]
    exact Terminal.deliverAll_screen (t := ⟨.fresh, s⟩) hs flag reports
  · have hfresh : (Bar.fresh : Bar α).Redrawn [] [] :=
      ⟨rfl, .nil, rfl, fun _ => List.forall_mem_nil _⟩
    obtain ⟨drawn, hdrawn⟩ := hfresh.tried reports
    exact ⟨drawn, _, congrArg Terminal.out ht, hbar ▸ hdrawn⟩
  · rw [hbar, Bar.finished_foldl_next]
    exact or_iff_right Bool.false_ne_true
  · refine Terminal.redraws w t r fun h hgoing hpos => hcurrent hgoing ?_
    -- without a report there is no work
    rintro rfl
    exact absurd (h.zero.symm.trans hpos) Bool.false_ne_true

/-- A writer that refuses every third stroke. It keeps what it has taken. -/
def flaky : Writer (Nat × String) where
  take stroke out :=
    if out.1 % 3 = 2 then ((out.1 + 1, out.2), false)
    else ((out.1 + 1, out.2 ++ stroke.render false), true)

/-- The titles are lost, and the bar takes no notice: it is the one that is drawn on a screen. It is
full in the end, and left alone then. -/
theorem flaky_redraws :
    let reports : List (Report ℚ) := [.total 4, .worked 1 (some "a")]
    let t := Terminal.run flaky (0, "") reports
    let t' := Terminal.run flaky (0, "") (reports ++ [.done])
    t.bar.lastDrawn = some (25, "a") ∧ t'.bar.percent = 100 ∧ t'.bar.finished = true ∧
    (∃ drawn : List (Nat × String), drawn.getLast? = t'.bar.lastDrawn ∧
      ∀ d ∈ drawn, (Bar.gauge d.1).length = 24) ∧
    (oneScreen.deliverAll (reports ++ [.done]) (.bar .fresh 0 0)).2 = .bar t'.bar 0 0 ∧
    t'.out.2 = "\r[........................]   0%\r\r\n" ∧
    (t'.receive flaky (.advance 1)).out = t'.out := by
  intro reports t t'
  obtain ⟨-, -, -, -, -, -, hdone⟩ := terminal_redraws flaky (0, "") reports
  obtain ⟨-, -, hnetwork, ⟨drawn, _, -, hdrawn⟩, hfinished, -, hnext⟩ :=
    terminal_redraws flaky (0, "") (reports ++ [.done])
  have hlast : t.bar.lastDrawn = some (25, "a") := by decide +kernel
  have hframes : drawn.getLast? = t'.bar.lastDrawn ∧ ∀ d ∈ drawn, (Bar.gauge d.1).length = 24 :=
    ⟨hdrawn.last, hdrawn.filled hundredths_le⟩
  have hscreen : oneScreen.screens[0]? = some ⟨"screen", false, false, ""⟩ := rfl
  obtain ⟨hbar, -⟩ := hnetwork oneScreen hscreen 0
  refine ⟨hlast, ?_, hfinished.mpr ?_, ⟨drawn, hframes⟩, hbar, by decide +kernel, ?_⟩
  · refine (hdone .done).whole proportional_rat (by decide +kernel) rfl (by decide +kernel) ?_
    rw [hlast]
    decide +kernel
  · exact List.mem_append_right _ (List.mem_singleton.mpr rfl)
  · rw [(hnext (.advance 1)).out]
    decide +kernel

end Progress

end Estree
