import Estree.Proofs.Progress.Flattening
import Mathlib.Data.List.DropRight
import Mathlib.Tactic.Linarith

/-!
# A bar on a terminal

A terminal keeps a row of cells and a cursor. A carriage return takes the cursor back to the first
cell; any other character goes into the cell at the cursor, in the place of what was there, and the
cursor moves on. Nothing ever empties a cell.

A bar draws its line when it has changed, after a carriage return. So the row begins with the right
line after every report. Behind it there is what is left of longer lines that were drawn before, for
a line is drawn over the one before and not instead of it. All lines end with a percent sign, so
what is left over is never blank.

So the row shows nothing but the line if and only if no earlier line was longer. As long as no share
has more than a hundred hundredths, the number on a line has always the same width; then a line is
longer than another one just if its title is.

* `Row`: a row of cells, and what writing does to it;
* `Bar.Shows.receive`: the row after a report;
* `bar_row`: the row after a session of reports.
-/

namespace Estree.Progress

open Quantity

/-! ### A row of cells -/

/-- A row of cells. All cells that are not listed are blank. -/
structure Row where
  /-- The cells before the cursor. -/
  behind : List Char := []
  /-- The cells from the cursor on. -/
  ahead : List Char := []
  deriving DecidableEq, Repr

namespace Row

/-- All cells. -/
def content (row : Row) : List Char := row.behind ++ row.ahead

/-- What is to be seen: the cells without the blanks at the end. -/
def visible (row : Row) : List Char := row.content.rdropWhile (· = ' ')

/-- Write a character. -/
def put (row : Row) (c : Char) : Row :=
  if c = '\r' then ⟨[], row.content⟩ else ⟨row.behind ++ [c], row.ahead.tail⟩

/-- Write a text. -/
def write (row : Row) (text : List Char) : Row := text.foldl put row

variable (row : Row)

theorem write_append (text later : List Char) :
    row.write (text ++ later) = (row.write text).write later := List.foldl_append

/-- A text without carriage returns goes over as many cells as it has characters. -/
theorem write_eq {text : List Char} (h : '\r' ∉ text) :
    row.write text = ⟨row.behind ++ text, row.ahead.drop text.length⟩ := by
  induction text generalizing row with
  | nil => simp [write]
  | cons c text ih =>
    obtain ⟨hc, htext⟩ := not_or.mp (mt List.mem_cons.mpr h)
    have hput : row.put c = ⟨row.behind ++ [c], row.ahead.tail⟩ := if_neg (Ne.symm hc)
    have hwrite : row.write (c :: text) = (row.put c).write text := rfl
    rw [hwrite, ih (row.put c) htext, hput, List.append_assoc, List.length_cons, ← List.drop_one,
      List.drop_drop, Nat.add_comm 1, List.singleton_append]

/-- A line that is drawn from the start leaves what is behind it alone. -/
theorem write_line {text : List Char} (h : '\r' ∉ text) :
    row.write ('\r' :: text) = ⟨text, row.content.drop text.length⟩ := by
  have hwrite : row.write ('\r' :: text) = Row.write ⟨[], row.content⟩ text := rfl
  rw [hwrite, write_eq _ h]
  rfl

/-- A row that does not end with a blank is seen as it is. -/
theorem visible_eq {c : Char} (hlast : row.content.getLast? = some c) (hc : c ≠ ' ') :
    row.visible = row.content := by
  rw [visible, List.rdropWhile_eq_self_iff]
  intro hne
  rw [List.getLast?_eq_getLast_of_ne_nil hne] at hlast
  simp [Option.some.inj hlast, hc]

end Row

/-! ### The line of a bar -/

namespace Bar

/-- The line of a percentage and a title: the title and a blank if there is a title, the bar, and
the number with at least three places. -/
def line (percent : Nat) (title : String) : List Char :=
  (if title.isEmpty then [] else title.toList ++ [' ']) ++
    ('[' :: (List.replicate (percent * cells / 100) '#' ++
      List.replicate (cells - percent * cells / 100) '.') ++ [']', ' ']) ++
    (List.replicate (3 - (toString percent).length) ' ' ++ (toString percent).toList) ++ ['%']

theorem render_drawing (percent : Nat) (title : String) :
    ((drawing percent title).render false).toList = '\r' :: line percent title := by
  rw [drawing, line]
  by_cases h : title.isEmpty
  · simp [h, Styled.render, Span.words]
  · simp [h, Styled.render, Span.words]

/-- How many cells a line takes. -/
theorem length_line {percent : Nat} (h : percent ≤ 100) (title : String) :
    (line percent title).length = cells + 7 + if title.isEmpty then 0 else title.length + 1 := by
  have hfilled : percent * cells / 100 ≤ cells := by
    unfold cells
    omega
  have hdigits : (toString percent).length ≤ 3 :=
    (Nat.length_repr_le_iff (by decide)).mpr (Nat.lt_of_le_of_lt h (by decide))
  have htitle : (if title.isEmpty then [] else title.toList ++ [' ']).length =
      if title.isEmpty then 0 else title.length + 1 := by
    split
    · rfl
    · simp [String.length_toList]
  simp only [line, List.length_append, List.length_cons, List.length_replicate, List.length_nil,
    String.length_toList, htitle]
  omega

/-- A line is longer than another one just if its title is. -/
theorem length_line_le_iff {p q : Nat} (hp : p ≤ 100) (hq : q ≤ 100) (title other : String) :
    (line p title).length ≤ (line q other).length ↔ title.length ≤ other.length := by
  have hempty (t : String) : t.isEmpty ↔ t.length = 0 := by simp [String.isEmpty_iff]
  rw [length_line hp, length_line hq]
  split_ifs with h h' h' <;> rw [hempty] at h h' <;> omega

theorem getLast?_line (percent : Nat) (title : String) :
    (line percent title).getLast? = some '%' := List.getLast?_concat

theorem return_not_mem_line {percent : Nat} {title : String} (h : '\r' ∉ title.toList) :
    '\r' ∉ line percent title := by
  have hdigits : '\r' ∉ Nat.toDigits 10 percent := fun hmem =>
    absurd (Nat.isDigit_of_mem_toDigits (by decide) (by decide) hmem) (by decide)
  simp [line, h, hdigits]

end Bar

/-! ### Percentages -/

variable {α : Type}

/-- If no share has more than a hundred hundredths, no bar has more than a hundred percent. -/
theorem Bar.percent_le [Quantity α] (h : ∀ x : α, hundredths x ≤ 100) (b : Bar α) :
    b.percent ≤ 100 := by
  rw [percent]
  split
  · exact h _
  · exact Nat.zero_le _

/-- No rational has more than a hundred hundredths, for it is cut down to one. -/
theorem hundredths_le (x : ℚ) : hundredths x ≤ 100 := by
  have hclamp : clamp x ≤ 1 := by
    rw [clamp_eq]
    exact max_le zero_le_one (min_le_left _ _)
  have hfloor : ((clamp x * (100 : Nat)).floor : ℚ) ≤ (100 : Int) :=
    (Rat.floor_le _).trans (by
      push_cast
      linarith)
  exact Int.toNat_le.mpr (Int.cast_le.mp hfloor)

/-! ### Reports -/

/-- The title, if the report tells it. -/
def Report.title? : Report α → Option String
  | .title text => some text
  | .worked _ text => text
  | _ => none

namespace Bar

variable [Quantity α]

/-- A bar that has been told what a report says and has not been drawn since. -/
def heed (b : Bar α) : Report α → Bar α
  | .total amount => { b with total := amount }
  | .title text => { b with title := text }
  | .worked amount title => { b with worked := amount, title := title.getD b.title }
  | .advance amount => { b with worked := add b.worked amount }
  | .done => b

/-- A bar that has been told what some reports say and has never been drawn. -/
def told (reports : List (Report α)) : Bar α := reports.foldl heed fresh

theorem told_concat (reports : List (Report α)) (r : Report α) :
    told (reports ++ [r]) = (told reports).heed r := List.foldl_append

/-- A title that was never told is the empty one. -/
theorem told_title_not_mem {c : Char} {reports : List (Report α)}
    (h : ∀ r ∈ reports, ∀ title ∈ r.title?, c ∉ title.toList) :
    c ∉ (told reports).title.toList := by
  induction reports using List.reverseRecOn with
  | nil => exact List.not_mem_nil
  | append_singleton reports r ih =>
    obtain ⟨hreports, hr⟩ := List.forall_mem_append.mp h
    have hlast := List.forall_mem_singleton.mp hr
    have hbefore := ih hreports
    rw [told_concat]
    cases r with
    | title text => exact hlast text rfl
    | worked amount title =>
      cases title with
      | none => exact hbefore
      | some text => exact hlast text rfl
    | _ => exact hbefore

/-- The line that the bar has to show. -/
def current (b : Bar α) : List Char := line b.percent b.title

/-- The characters of what is written to a screen without colours. -/
def wording (texts : List Styled) : List Char := texts.flatMap fun t => (t.render false).toList

/-- The line has not been ended, and the row begins with what was drawn last. -/
structure Shows (b : Bar α) (row : Row) : Prop where
  going : b.finished = false
  drawn : ∀ d ∈ b.lastDrawn, row.behind = line d.1 d.2

variable {b : Bar α} {row : Row}

theorem Shows.heed (h : b.Shows row) (r : Report α) : (b.heed r).Shows row := by
  cases r <;> exact ⟨h.going, h.drawn⟩

/-- A bar that is drawn, or has been before, remembers what it shows. -/
theorem redraw_fst (h : b.finished = false) :
    b.redraw.1 = { b with lastDrawn := some (b.percent, b.title) } := by
  rw [redraw, h, Bool.false_or]
  split
  · next hsame =>
    dsimp only
    rw [← of_decide_eq_true hsame, ← h]
  · rfl

/-- **Whether or not anything is drawn**, the row begins with the line of the bar, and behind it
there is what was there. -/
theorem Shows.write_redraw (h : b.Shows row) (htitle : '\r' ∉ b.title.toList) :
    row.write (wording b.redraw.2) = ⟨b.current, row.content.drop b.current.length⟩ := by
  rw [redraw, h.going, Bool.false_or]
  split
  · next hsame =>
    -- nothing is written, for the line is there
    have hbehind : row.behind = b.current := h.drawn _ (of_decide_eq_true hsame)
    rw [Row.content, hbehind, List.drop_left, ← hbehind]
    rfl
  · have hwording : wording [drawing b.percent b.title] = '\r' :: b.current := by
      rw [wording, List.flatMap_singleton, render_drawing, current]
    have hline : '\r' ∉ b.current := return_not_mem_line htitle
    rw [hwording, row.write_line hline]

/-- The bar shows its line after it has been drawn. -/
theorem Shows.redraw (h : b.Shows row) (htitle : '\r' ∉ b.title.toList) :
    b.redraw.1.Shows (row.write (wording b.redraw.2)) := by
  rw [redraw_fst h.going, h.write_redraw htitle]
  refine ⟨h.going, fun d hd => ?_⟩
  rw [← Option.some.inj hd]
  rfl

theorem receive_eq {r : Report α} (h : r ≠ .done) (b : Bar α) :
    b.receive r = (b.heed r).redraw := by
  cases r with
  | done => exact absurd rfl h
  | _ => rfl

theorem heed_lastDrawn (b : Bar α) (drawn : Option (Nat × String)) (r : Report α) :
    { b with lastDrawn := drawn }.heed r = { b.heed r with lastDrawn := drawn } := by
  cases r <;> rfl

end Bar

/-! ### Sessions -/

/-- What is written to the screen can be read there, and there are no colours. -/
structure Screen.Plain (s : Screen) : Prop where
  colored : s.colored = false
  broken : s.broken = false

theorem Screen.Plain.show {s : Screen} (h : s.Plain) (texts : List Styled) :
    (texts.foldl Screen.show s).Plain ∧
      (texts.foldl Screen.show s).written.toList = s.written.toList ++ Bar.wording texts := by
  induction texts generalizing s with
  | nil => exact ⟨h, (List.append_nil _).symm⟩
  | cons text texts ih =>
    have hone : s.show text = { s with written := s.written ++ text.render false } := by
      rw [Screen.show, h.broken, h.colored]
      rfl
    obtain ⟨hplain, hwritten⟩ := ih (s := s.show text) (by rw [hone]; exact ⟨h.colored, h.broken⟩)
    refine ⟨hplain, ?_⟩
    rw [List.foldl_cons, hwritten, hone, String.toList_append, List.append_assoc]
    rfl

namespace Network

/-- What is written to a screen, as a row of cells. -/
def row (net : Network α) (screen : Nat) : Row :=
  Row.write {} (((net.screens[screen]?).map Screen.written).getD "").toList

/-- The screen after a drawing. -/
theorem screens_draw {net : Network α} {screen : Nat} {s : Screen}
    (hs : net.screens[screen]? = some s) (texts : List Styled) :
    (net.draw screen texts).screens[screen]? = some (texts.foldl Screen.show s) := by
  simp [draw, Array.getElem?_modify, hs]

/-- What is drawn is written to the row. -/
theorem row_draw {net : Network α} {screen : Nat} {s : Screen}
    (hs : net.screens[screen]? = some s) (h : s.Plain) (texts : List Styled) :
    (∃ s', (net.draw screen texts).screens[screen]? = some s' ∧ s'.Plain) ∧
      (net.draw screen texts).row screen = (net.row screen).write (Bar.wording texts) := by
  obtain ⟨hplain, hwritten⟩ := h.show texts
  have hafter := screens_draw hs texts
  refine ⟨⟨_, hafter, hplain⟩, ?_⟩
  rw [row, row, hafter, hs, Option.map_some, Option.map_some, Option.getD_some, Option.getD_some,
    hwritten, Row.write_append]

variable [Quantity α]

/-- A bar takes a report, and what it gives is drawn. -/
theorem deliver_bar (net : Network α) (r : Report α) (b : Bar α) (screen flag : Nat) :
    net.deliver r (.bar b screen flag) =
      (net.draw screen (b.receive r).2, .bar (b.receive r).1 screen flag) := rfl

/-- The sink is a bar that has been told these reports, and it shows them on a plain screen. -/
structure Draws (net : Network α) (screen flag : Nat) (reports : List (Report α)) (sink : Sink α) :
    Prop where
  plain : ∃ s, net.screens[screen]? = some s ∧ s.Plain
  bar : ∃ drawn, sink = .bar { Bar.told reports with lastDrawn := drawn } screen flag ∧
    Bar.Shows { Bar.told reports with lastDrawn := drawn } (net.row screen)

variable {net : Network α} {screen flag : Nat} {reports : List (Report α)} {sink : Sink α}

/-- **The row after a report**: the line of the bar as it is now, and behind it what was there. -/
theorem Draws.deliver (h : net.Draws screen flag reports sink) {r : Report α} (hr : r ≠ .done)
    (htitle : '\r' ∉ (Bar.told (reports ++ [r])).title.toList) :
    (net.deliver r sink).1.Draws screen flag (reports ++ [r]) (net.deliver r sink).2 ∧
      (net.deliver r sink).1.row screen = ⟨(Bar.told (reports ++ [r])).current,
        (net.row screen).content.drop (Bar.told (reports ++ [r])).current.length⟩ := by
  obtain ⟨⟨s, hs, hplain⟩, drawn, rfl, hshows⟩ := h
  have hbar := hshows.heed r
  rw [Bar.heed_lastDrawn, ← Bar.told_concat] at hbar
  have hreceive : Bar.receive r { Bar.told reports with lastDrawn := drawn } =
      Bar.redraw { Bar.told (reports ++ [r]) with lastDrawn := drawn } := by
    rw [Bar.receive_eq hr, Bar.heed_lastDrawn, ← Bar.told_concat]
  have hdeliver : net.deliver r (.bar { Bar.told reports with lastDrawn := drawn } screen flag) =
      (net.draw screen (Bar.redraw { Bar.told (reports ++ [r]) with lastDrawn := drawn }).2,
        .bar (Bar.redraw { Bar.told (reports ++ [r]) with lastDrawn := drawn }).1 screen flag) := by
    rw [← hreceive, deliver_bar]
  obtain ⟨hscreen, hrow⟩ := row_draw hs hplain
    (Bar.redraw { Bar.told (reports ++ [r]) with lastDrawn := drawn }).2
  rw [hdeliver]
  refine ⟨⟨hscreen, _, congrArg (Sink.bar · screen flag) (Bar.redraw_fst hbar.going), ?_⟩, ?_⟩
  · rw [hrow, ← Bar.redraw_fst hbar.going]
    exact hbar.redraw htitle
  · exact hrow.trans (hbar.write_redraw htitle)

/-- No report tells the end, or a title with a carriage return. -/
def Legible (reports : List (Report α)) : Prop :=
  ∀ r ∈ reports, r ≠ .done ∧ ∀ title ∈ r.title?, '\r' ∉ title.toList

variable (flag)

/-- A session in which reports are made to a bar that nothing was reported to before. -/
theorem draws_deliverAll {s : Screen} (hs : net.screens[screen]? = some s) (hplain : s.Plain)
    (h : Legible reports) :
    (net.deliverAll reports (.bar .fresh screen flag)).1.Draws screen flag reports
      (net.deliverAll reports (.bar .fresh screen flag)).2 := by
  induction reports using List.reverseRecOn with
  | nil => exact ⟨⟨s, hs, hplain⟩, none, rfl, rfl, fun d hd => nomatch hd⟩
  | append_singleton reports r ih =>
    have htitle : '\r' ∉ (Bar.told (reports ++ [r])).title.toList :=
      Bar.told_title_not_mem fun r hr => (h r hr).2
    obtain ⟨hreports, hr⟩ := List.forall_mem_append.mp h
    obtain ⟨hdone, -⟩ := List.forall_mem_singleton.mp hr
    rw [deliverAll, List.foldl_append]
    exact ((ih hreports).deliver hdone htitle).1

/-- The cells of the row after some reports. -/
theorem content_deliverAll {s : Screen} (hs : net.screens[screen]? = some s) (hplain : s.Plain)
    {r : Report α} (h : Legible (reports ++ [r])) :
    ((net.deliverAll (reports ++ [r]) (.bar .fresh screen flag)).1.row screen).content =
      (Bar.told (reports ++ [r])).current ++
        ((net.deliverAll reports (.bar .fresh screen flag)).1.row screen).content.drop
          (Bar.told (reports ++ [r])).current.length := by
  have htitle : '\r' ∉ (Bar.told (reports ++ [r])).title.toList :=
    Bar.told_title_not_mem fun r hr => (h r hr).2
  obtain ⟨hreports, hr⟩ := List.forall_mem_append.mp h
  obtain ⟨hdone, -⟩ := List.forall_mem_singleton.mp hr
  obtain ⟨-, hrow⟩ := (draws_deliverAll flag hs hplain hreports).deliver hdone htitle
  rw [deliverAll, List.foldl_append]
  exact congrArg Row.content hrow

/-- The row is as long as the longest line that was drawn, and ends with a percent sign. -/
theorem length_content_deliverAll {s : Screen} (hs : net.screens[screen]? = some s)
    (hplain : s.Plain) (hnew : s.written = "") (h : Legible reports) :
    let content := ((net.deliverAll reports (.bar .fresh screen flag)).1.row screen).content
    (content ≠ [] → content.getLast? = some '%') ∧
    ∀ n, content.length ≤ n ↔ ∀ earlier, earlier ≠ [] → earlier <+: reports →
      (Bar.told earlier).current.length ≤ n := by
  induction reports using List.reverseRecOn with
  | nil =>
    have hempty : net.row screen = {} := by
      rw [row, hs, Option.map_some, Option.getD_some, hnew]
      rfl
    have hcontent : (net.row screen).content = [] := congrArg Row.content hempty
    refine ⟨fun hne => absurd hcontent hne, fun n => ⟨fun _ earlier hne hbegins => ?_, fun _ => ?_⟩⟩
    · exact absurd (List.prefix_nil.mp hbegins) hne
    · exact (congrArg List.length hcontent).trans_le (Nat.zero_le n)
  | append_singleton reports r ih =>
    obtain ⟨hlast, hlength⟩ := ih (List.forall_mem_append.mp h).1
    intro content
    have hcontent : content = _ := content_deliverAll flag hs hplain h
    have hmax (n : Nat) : content.length ≤ n ↔
        (Bar.told (reports ++ [r])).current.length ≤ n ∧
          ((net.deliverAll reports (.bar .fresh screen flag)).1.row screen).content.length ≤ n := by
      rw [hcontent, List.length_append, List.length_drop]
      omega
    refine ⟨fun _ => ?_, fun n => ?_⟩
    · rw [hcontent, List.getLast?_append, List.getLast?_drop, Bar.current, Bar.getLast?_line]
      split
      · rfl
      · next hlong =>
        rw [hlast (List.ne_nil_of_length_pos (Nat.zero_lt_of_lt (Nat.lt_of_not_le hlong)))]
        rfl
    · rw [hmax, hlength]
      constructor
      · rintro ⟨hnow, hbefore⟩ earlier hne hbegins
        rcases List.prefix_concat_iff.mp hbegins with rfl | hbegins
        · exact hnow
        · exact hbefore earlier hne hbegins
      · intro hall
        refine ⟨hall _ (by simp) (List.prefix_refl _), fun earlier hne hbegins => ?_⟩
        exact hall earlier hne (hbegins.trans (List.prefix_append _ _))

/-- The row shows the line and nothing else if and only if no line before was longer. -/
theorem visible_deliverAll_iff {s : Screen} (hs : net.screens[screen]? = some s)
    (hplain : s.Plain) (hnew : s.written = "") {r : Report α} (h : Legible (reports ++ [r])) :
    ((net.deliverAll (reports ++ [r]) (.bar .fresh screen flag)).1.row screen).visible =
        (Bar.told (reports ++ [r])).current ↔
      ∀ earlier, earlier ≠ [] → earlier <+: reports →
        (Bar.told earlier).current.length ≤ (Bar.told (reports ++ [r])).current.length := by
  obtain ⟨-, hlength⟩ := length_content_deliverAll flag hs hplain hnew
    (List.forall_mem_append.mp h).1
  obtain ⟨hlast, -⟩ := length_content_deliverAll flag hs hplain hnew h
  have hcontent := content_deliverAll flag hs hplain h
  have hne : ((net.deliverAll (reports ++ [r]) (.bar .fresh screen flag)).1.row screen).content ≠
      [] := by
    rw [hcontent, Bar.current, Bar.line]
    simp
  rw [Row.visible_eq _ (hlast hne) (by decide), hcontent, List.append_right_eq_self,
    List.drop_eq_nil_iff, hlength]

end Network

open Network

/-- **The row of a bar.** Reports are made to a bar on an empty screen without colours, of any kind
but the end, and without carriage returns in their titles.

After each report the row begins with the line of the title and the percentage that there are now,
and behind the line is what was in the row before. It shows nothing but the line if and only if no
line that there was after an earlier report is longer. As long as no share has more than a hundred
hundredths, this is so if and only if no title that there was is longer than the title there is
now. -/
theorem bar_row (net : Network α) [Quantity α] {screen : Nat} {s : Screen}
    (hs : net.screens[screen]? = some s) (hplain : s.Plain) (hnew : s.written = "") (flag : Nat)
    (reports : List (Report α)) (r : Report α) (h : Legible (reports ++ [r])) :
    let row (reports : List (Report α)) : Row :=
      (net.deliverAll reports (.bar .fresh screen flag)).1.row screen
    let now := Bar.told (reports ++ [r])
    let line := Bar.line now.percent now.title
    (∃ drawn, (net.deliverAll (reports ++ [r]) (.bar .fresh screen flag)).2 =
      .bar { now with lastDrawn := drawn } screen flag) ∧
    (row (reports ++ [r])).content = line ++ (row reports).content.drop line.length ∧
    ((row (reports ++ [r])).visible = line ↔ ∀ earlier, earlier ≠ [] → earlier <+: reports →
      (Bar.told earlier).current.length ≤ line.length) ∧
    ((∀ x : α, hundredths x ≤ 100) →
      ((row (reports ++ [r])).visible = line ↔ ∀ earlier, earlier ≠ [] → earlier <+: reports →
        (Bar.told earlier).title.length ≤ now.title.length)) := by
  intro row now line
  obtain ⟨-, drawn, hbar, -⟩ := draws_deliverAll flag hs hplain h
  have hvisible := visible_deliverAll_iff flag hs hplain hnew h
  refine ⟨⟨drawn, hbar⟩, content_deliverAll flag hs hplain h, hvisible, fun hle => ?_⟩
  refine hvisible.trans (forall_congr' fun earlier => ?_)
  refine imp_congr_right fun _ => imp_congr_right fun _ => ?_
  exact Bar.length_line_le_iff (Bar.percent_le hle _) (Bar.percent_le hle _) _ _

/-- A network with an empty screen. -/
def oneScreen : Network ℚ := { screens := #[⟨"screen", false, false, ""⟩] }

/-- A quarter of the work is done under a title, and then a longer one is told. -/
theorem longerTitle_row :
    Legible [.total (4 : ℚ), .worked 1 (some "abc"), .title "abcd"] ∧
    ((oneScreen.deliverAll [.total 4, .worked 1 (some "abc"), .title "abcd"]
      (.bar .fresh 0 0)).1.row 0).visible = "abcd [######..................]  25%".toList := by
  have hlegible : Legible [.total (4 : ℚ), .worked 1 (some "abc"), .title "abcd"] := by
    simp [Legible, Report.title?]
  have hscreen : oneScreen.screens[0]? = some ⟨"screen", false, false, ""⟩ := rfl
  obtain ⟨-, -, -, hvisible⟩ := bar_row oneScreen hscreen ⟨rfl, rfl⟩ rfl 0
    [.total 4, .worked 1 (some "abc")] (.title "abcd") hlegible
  refine ⟨hlegible, ((hvisible hundredths_le).mpr fun earlier hne hbegins => ?_).trans
    (by decide +kernel)⟩
  obtain rfl | ⟨later, rfl, hlater⟩ := List.prefix_cons_iff.mp hbegins
  · exact absurd rfl hne
  · obtain rfl | ⟨rest, rfl, hrest⟩ := List.prefix_cons_iff.mp hlater
    · decide +kernel
    · obtain rfl := List.prefix_nil.mp hrest
      decide +kernel

/-- **What is left of a longer line stays to be seen.** The line after the second title is not the
one that the bar has to show. -/
theorem shorterTitle_leaves_rest :
    let row := (oneScreen.deliverAll [.title "abc", .title "a"] (.bar .fresh 0 0)).1.row 0
    let now : Bar ℚ := Bar.told [.title "abc", .title "a"]
    row.visible = "a [........................]   0%0%".toList ∧
    Bar.line now.percent now.title = "a [........................]   0%".toList := by
  decide +kernel

end Estree.Progress
