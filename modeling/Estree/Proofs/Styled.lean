import Estree.Outline.Text
import Estree.Search
import Mathlib.Data.List.Basic
import Mathlib.Data.String.Basic

/-!
# Text with and without colours

A terminal takes the sequences that begin with an escape character out of a text and shows the rest.
`glyphs` reads a text in this way. If the words of a styled text have no escape character, what is
read from its coloured form is its words, and in between the sequences that its styles stand for.
Behind each piece with a style all styles are undone, so nothing is left of them at the end.

* `glyphs_sequence` and `glyphs_words`: what a sequence and what words are read as;
* `Styled.glyphs_render`: what is read from a coloured text;
* `Found.render_lines`: the plain text of what a search has found;
* `colored_plain_agree`: outlines and finds, coloured and plain.
-/

namespace Estree

/-! ### Reading a text as a terminal does -/

/-- A piece of a text for a terminal. -/
inductive Glyph where
  /-- A character that is shown. -/
  | char (c : Char)
  /-- A sequence that changes how characters look. -/
  | color (parameter : List Char)
  deriving DecidableEq, Repr

/-- The parameter of the colour sequence that a text begins with: an escape character, a bracket,
digits and the letter `m`. -/
def colorParameter? : List Char → Option (List Char)
  | '\x1b' :: '[' :: rest =>
    let digits := rest.takeWhile Char.isDigit
    if !digits.isEmpty && (rest.drop digits.length).head? = some 'm' then some digits else none
  | _ => none

/-- The pieces of a text; the first `skip` characters belong to a sequence that has been read. -/
def glyphs (skip : Nat) : List Char → List Glyph
  | [] => []
  | c :: rest =>
    match skip with
    | skip + 1 => glyphs skip rest
    | 0 =>
      match colorParameter? (c :: rest) with
      | some digits => .color digits :: glyphs (digits.length + 2) rest
      | none => .char c :: glyphs 0 rest

/-- The character that a piece shows. -/
def Glyph.char? : Glyph → Option Char
  | char c => some c
  | color _ => none

/-- The parameter of a piece that changes how characters look. -/
def Glyph.color? : Glyph → Option (List Char)
  | char _ => none
  | color parameter => some parameter

/-- A text without its colour sequences. -/
def withoutColors (text : String) : String :=
  String.ofList ((glyphs 0 text.toList).filterMap Glyph.char?)

/-- The parameters of the colour sequences of a text. -/
def colorParameters (text : String) : List (List Char) :=
  (glyphs 0 text.toList).filterMap Glyph.color?

/-- The last colour sequence of a text, if there is one, is the one that undoes all others. -/
def EndsReset (text : String) : Prop :=
  ∀ parameter ∈ (colorParameters text).getLast?, parameter = ['0']

instance (text : String) : Decidable (EndsReset text) :=
  inferInstanceAs (Decidable (∀ parameter ∈ (colorParameters text).getLast?, parameter = ['0']))

/-- A text has no escape character. -/
def EscapeFree (text : String) : Prop := '\x1b' ∉ text.toList

instance (text : String) : Decidable (EscapeFree text) :=
  inferInstanceAs (Decidable ('\x1b' ∉ text.toList))

theorem glyphs_skip (read rest : List Char) :
    glyphs read.length (read ++ rest) = glyphs 0 rest := by
  induction read with
  | nil => rfl
  | cons c read ih => exact ih

/-- A sequence is read as such. -/
theorem glyphs_sequence {parameter : String} (hne : parameter.toList ≠ [])
    (hdigits : ∀ c ∈ parameter.toList, c.isDigit) (rest : List Char) :
    glyphs 0 ((escapeSequence parameter).toList ++ rest) =
      .color parameter.toList :: glyphs 0 rest := by
  have hlist : (escapeSequence parameter).toList ++ rest =
      '\x1b' :: '[' :: (parameter.toList ++ 'm' :: rest) := by
    simp [escapeSequence]
  have htake : (parameter.toList ++ 'm' :: rest).takeWhile Char.isDigit = parameter.toList := by
    rw [List.takeWhile_append_of_pos hdigits]
    simp
  have hread : colorParameter? ('\x1b' :: '[' :: (parameter.toList ++ 'm' :: rest)) =
      some parameter.toList := by
    simp [colorParameter?, htake, hne]
  have hskip := glyphs_skip ('[' :: parameter.toList ++ ['m']) rest
  rw [hlist, glyphs, hread]
  simpa using hskip

/-- Words without an escape character are shown. -/
theorem glyphs_words {words : List Char} (h : '\x1b' ∉ words) (rest : List Char) :
    glyphs 0 (words ++ rest) = words.map Glyph.char ++ glyphs 0 rest := by
  induction words with
  | nil => rfl
  | cons c words ih =>
    have hc := List.ne_of_not_mem_cons h
    have hwords := List.not_mem_of_not_mem_cons h
    have hplain : colorParameter? (c :: (words ++ rest)) = none := by
      unfold colorParameter?
      split
      · next heq => exact absurd (List.cons.inj heq).1.symm hc
      · rfl
    rw [List.cons_append, glyphs, hplain, ih hwords]
    rfl

/-! ### Styled texts -/

/-- The parameters of the sequences that switch a style on. -/
def Style.parameters (s : Style) : List String :=
  ["0"] ++ (if s.bold then ["1"] else []) ++ (if s.dimmed then ["2"] else []) ++
    (s.color.map Color.code).toList

theorem Style.sequence_eq_join (s : Style) :
    s.sequence = String.join (s.parameters.map escapeSequence) := by
  obtain ⟨color, bold, dimmed⟩ := s
  cases color <;> cases bold <;> cases dimmed <;>
    simp [sequence, parameters, resetSequence, String.append_assoc]

/-- The parameters are numbers. -/
theorem Style.isDigit_parameters (s : Style) :
    ∀ parameter ∈ s.parameters, parameter.toList ≠ [] ∧ ∀ c ∈ parameter.toList, c.isDigit := by
  obtain ⟨color, bold, dimmed⟩ := s
  simp only [parameters, List.forall_mem_append]
  refine ⟨⟨⟨by simp, ?_⟩, ?_⟩, ?_⟩
  · cases bold <;> simp
  · cases dimmed <;> simp
  · cases color with
    | none => exact List.forall_mem_nil _
    | some color => cases color <;> simp [Color.code]

/-- What is read from a piece of a text with colours. -/
def Span.glyphs : Span → List Glyph
  | plain text => text.toList.map .char
  | styled style text =>
    style.parameters.map (fun parameter => .color parameter.toList) ++
      text.toList.map .char ++ [.color ['0']]

theorem glyphs_sequences {parameters : List String}
    (h : ∀ parameter ∈ parameters, parameter.toList ≠ [] ∧ ∀ c ∈ parameter.toList, c.isDigit)
    (rest : List Char) :
    glyphs 0 ((String.join (parameters.map escapeSequence)).toList ++ rest) =
      parameters.map (fun parameter => .color parameter.toList) ++ glyphs 0 rest := by
  induction parameters with
  | nil => rfl
  | cons parameter parameters ih =>
    obtain ⟨⟨hne, hdigits⟩, hrest⟩ := List.forall_mem_cons.mp h
    rw [List.map_cons, String.join_cons, String.toList_append, List.append_assoc,
      glyphs_sequence hne hdigits, ih hrest]
    rfl

theorem Span.glyphs_colored {span : Span} (h : EscapeFree span.words) (rest : List Char) :
    Estree.glyphs 0 (span.colored.toList ++ rest) = span.glyphs ++ Estree.glyphs 0 rest := by
  cases span with
  | plain text => exact glyphs_words h rest
  | styled style text =>
    have hreset : Estree.glyphs 0 (resetSequence.toList ++ rest) =
        .color ['0'] :: Estree.glyphs 0 rest :=
      glyphs_sequence (by simp) (by simp) rest
    have hwords := glyphs_words (show '\x1b' ∉ text.toList from h) (resetSequence.toList ++ rest)
    rw [colored, String.toList_append, String.toList_append, List.append_assoc, List.append_assoc,
      style.sequence_eq_join, glyphs_sequences style.isDigit_parameters, hwords, hreset, glyphs]
    simp

namespace Styled

theorem render_eq_join (colored : Bool) (t : Styled) :
    t.render colored =
      String.join (t.map fun span => if colored then span.colored else span.words) := by
  rw [String.join, List.foldl_map]
  rfl

theorem render_plain (t : Styled) : t.render false = String.join (t.map Span.words) :=
  render_eq_join false t

theorem render_append (colored : Bool) (t u : Styled) :
    Styled.render colored (t ++ u) = t.render colored ++ u.render colored := by
  rw [render_eq_join, render_eq_join, render_eq_join, List.map_append, String.join_append]

/-- **What is read from a coloured text.** -/
theorem glyphs_render {t : Styled} (h : ∀ span ∈ t, EscapeFree span.words) :
    glyphs 0 (t.render true).toList = t.flatMap Span.glyphs := by
  rw [render_eq_join]
  induction t with
  | nil => rfl
  | cons span t ih =>
    obtain ⟨hspan, ht⟩ := List.forall_mem_cons.mp h
    rw [List.map_cons, String.join_cons, String.toList_append, if_pos rfl,
      Span.glyphs_colored hspan, ih ht, List.flatMap_cons]

/-- Without its colours a coloured text is the plain one. -/
theorem withoutColors_render {t : Styled} (h : ∀ span ∈ t, EscapeFree span.words) :
    withoutColors (t.render true) = t.render false := by
  have hspan (span : Span) : span.glyphs.filterMap Glyph.char? = span.words.toList := by
    cases span <;> simp [Span.glyphs, Span.words, List.filterMap_append, Glyph.char?,
      Function.comp_def]
  rw [withoutColors, glyphs_render h, render_plain, List.filterMap_flatMap, String.ofList_eq,
    String.toList_join, List.flatMap_map]
  exact List.flatMap_congr fun span _ => hspan span

/-- At the end of a coloured text no style is left. -/
theorem endsReset_render {t : Styled} (h : ∀ span ∈ t, EscapeFree span.words) :
    EndsReset (t.render true) := by
  have hspan (span : Span) : span.glyphs.filterMap Glyph.color? = [] ∨
      ∃ more, span.glyphs.filterMap Glyph.color? = more ++ [['0']] := by
    cases span with
    | plain text => exact .inl (by simp [Span.glyphs, Glyph.color?, Function.comp_def])
    | styled style text =>
      exact .inr ⟨_, by rw [Span.glyphs, List.filterMap_append]; rfl⟩
  unfold EndsReset colorParameters
  rw [glyphs_render h, List.filterMap_flatMap]
  clear h
  induction t with
  | nil => simp
  | cons span t ih =>
    rw [List.flatMap_cons, List.getLast?_append]
    intro parameter hmem
    rcases Option.or_eq_some_iff.mp hmem with hlast | ⟨-, hlast⟩
    · exact ih parameter hlast
    · rcases hspan span with hnone | ⟨more, hmore⟩
      · rw [hnone] at hlast
        cases hlast
      · rw [hmore, List.getLast?_concat] at hlast
        exact (Option.some.inj hlast).symm

end Styled

/-! ### Outlines -/

theorem EscapeFree.append {s t : String} (hs : EscapeFree s) (ht : EscapeFree t) :
    EscapeFree (s ++ t) := by
  rw [EscapeFree, String.toList_append, List.mem_append]
  exact not_or.mpr ⟨hs, ht⟩

theorem escapeFree_toString (n : Nat) : EscapeFree (toString n) := by
  intro hmem
  have hdigits : '\x1b' ∈ Nat.toDigits 10 n := Nat.toList_repr ▸ hmem
  exact absurd (Nat.isDigit_of_mem_toDigits (by decide) (by decide) hdigits) (by decide)

namespace Outline

/-- The kind and the label of an entry have no escape character. -/
def Entry.EscapeFree (e : Entry) : Prop :=
  Estree.EscapeFree e.kind.name ∧ ∀ label ∈ e.label, Estree.EscapeFree label

instance (e : Entry) : Decidable e.EscapeFree :=
  inferInstanceAs (Decidable (Estree.EscapeFree e.kind.name ∧
    ∀ label ∈ e.label, Estree.EscapeFree label))

theorem Entry.escapeFree_rails (e : Entry) : Estree.EscapeFree e.rails := by
  rw [rails]
  induction e.ancestorsLast with
  | nil => exact List.not_mem_nil
  | cons last rest ih =>
    refine ih.append ?_
    cases last <;> decide

theorem Entry.EscapeFree.spans {e : Entry} (h : e.EscapeFree) (counts : Bool) :
    ∀ span ∈ e.spans counts, Estree.EscapeFree span.words := by
  obtain ⟨hkind, hlabel⟩ := h
  have hconnector : Estree.EscapeFree e.connector := by
    rw [connector]
    split <;> decide
  have hhidden : Estree.EscapeFree (" (+" ++ toString e.hidden ++ " hidden)") :=
    .append (.append (by decide) (escapeFree_toString _)) (by decide)
  simp only [Entry.spans, List.forall_mem_append]
  refine ⟨⟨⟨⟨?_, ?_⟩, ?_⟩, ?_⟩, ?_⟩
  · split
    · exact List.forall_mem_singleton.mpr (e.escapeFree_rails.append hconnector)
    · exact List.forall_mem_nil _
  · exact List.forall_mem_singleton.mpr hkind
  · cases hl : e.label with
    | none => exact List.forall_mem_nil _
    | some label => exact List.forall_mem_singleton.mpr (.append (by decide) (hlabel label hl))
  · split
    · exact List.forall_mem_singleton.mpr hhidden
    · exact List.forall_mem_nil _
  · exact List.forall_mem_singleton.mpr (by decide)

theorem escapeFree_spans {o : Outline} (h : ∀ e ∈ o.entries, e.EscapeFree) (counts : Bool) :
    ∀ span ∈ o.spans counts, EscapeFree span.words := by
  rw [spans, List.forall_mem_append]
  constructor
  · intro span hspan
    obtain ⟨e, he, hmem⟩ := List.mem_flatMap.mp hspan
    exact (h e (Array.mem_toList_iff.mp he)).spans counts span hmem
  · split
    · exact List.forall_mem_singleton.mpr (by decide)
    · exact List.forall_mem_nil _

end Outline

/-! ### What a search has found -/

namespace Found

/-- The kinds and the label of a find have no escape character. -/
def EscapeFree (f : Found) : Prop :=
  Estree.EscapeFree f.kind.name ∧ Estree.EscapeFree f.label ∧
    ∀ kind ∈ f.path, Estree.EscapeFree kind.name

instance (f : Found) : Decidable f.EscapeFree :=
  inferInstanceAs (Decidable (Estree.EscapeFree f.kind.name ∧ Estree.EscapeFree f.label ∧
    ∀ kind ∈ f.path, Estree.EscapeFree kind.name))

theorem EscapeFree.spans {path : String} (hpath : Estree.EscapeFree path) {f : Found}
    (h : f.EscapeFree) : ∀ span ∈ f.spans path, Estree.EscapeFree span.words := by
  obtain ⟨hkind, hlabel, hkinds⟩ := h
  simp only [Found.spans, List.forall_mem_append, List.forall_mem_map]
  refine ⟨⟨?_, fun kind hmem => (hkinds kind hmem).append (by decide)⟩, ?_⟩
  · exact List.forall_mem_cons.mpr ⟨hpath, List.forall_mem_singleton.mpr (by decide)⟩
  · refine List.forall_mem_cons.mpr ⟨hkind, List.forall_mem_cons.mpr ⟨?_, ?_⟩⟩
    · exact .append (by decide) hlabel
    · exact List.forall_mem_singleton.mpr (by decide)

/-- Separators stand behind all texts but the last one. -/
theorem intercalate_concat (separator last : String) (texts : List String) :
    separator.intercalate (texts ++ [last]) =
      String.join (texts.map (· ++ separator)) ++ last := by
  induction texts with
  | nil => exact (String.empty_append (s := last)).symm
  | cons text texts ih =>
    rw [List.cons_append, String.intercalate_cons_of_ne_nil (by simp), ih, List.map_cons,
      String.join_cons]
    simp only [String.append_assoc]

/-- The plain line of a find is its path from the root of the file, with its end. -/
theorem render_spans (path : String) (f : Found) :
    Styled.render false (f.spans path) = path ++ ": " ++ f.displayPath ++ "\n" := by
  have hkinds : Styled.render false (f.path.map fun kind => .plain (kind.name ++ " > ")) =
      String.join ((f.path.map Kind.name).map (· ++ " > ")) := by
    rw [Styled.render_plain, List.map_map, List.map_map]
    rfl
  rw [Found.spans, Styled.render_append, Styled.render_append, hkinds, displayPath,
    intercalate_concat]
  simp [Styled.render, Span.words, String.append_assoc]

/-- **The plain text of what a search has found.** -/
theorem render_lines (path : String) (found : List Found) :
    Styled.render false (found.flatMap (Found.spans path)) =
      String.join (found.map fun f => path ++ ": " ++ f.displayPath ++ "\n") := by
  induction found with
  | nil => rfl
  | cons f found ih =>
    rw [List.flatMap_cons, Styled.render_append, render_spans, ih, List.map_cons, String.join_cons]

theorem escapeFree_lines {path : String} (hpath : Estree.EscapeFree path) {found : List Found}
    (h : ∀ f ∈ found, f.EscapeFree) :
    ∀ span ∈ found.flatMap (Found.spans path), Estree.EscapeFree span.words := by
  intro span hspan
  obtain ⟨f, hf, hmem⟩ := List.mem_flatMap.mp hspan
  exact (h f hf).spans hpath span hmem

end Found

/-- **Outlines and finds say the same with colours and without.** If no kind, no label and no path
has an escape character, the coloured text without its colour sequences is the plain one, and no
style is left at its end. The plain text of finds has a line for each of them. -/
theorem colored_plain_agree (o : Outline) (counts : Bool) (path : String) (found : List Found)
    (houtline : ∀ e ∈ o.entries, e.EscapeFree) (hpath : EscapeFree path)
    (hfound : ∀ f ∈ found, f.EscapeFree) :
    let text : Styled := o.spans counts
    let lines : Styled := found.flatMap (Found.spans path)
    withoutColors (text.render true) = text.render false ∧ EndsReset (text.render true) ∧
    withoutColors (lines.render true) = lines.render false ∧ EndsReset (lines.render true) ∧
    lines.render false =
      String.join (found.map fun f => path ++ ": " ++ f.displayPath ++ "\n") := by
  intro text lines
  have htext := Outline.escapeFree_spans houtline counts
  have hlines := Found.escapeFree_lines hpath hfound
  exact ⟨Styled.withoutColors_render htext, Styled.endsReset_render htext,
    Styled.withoutColors_render hlines, Styled.endsReset_render hlines,
    Found.render_lines path found⟩

/-- An outline that was stopped; one of its entries has a label that looks like the end of a colour
sequence, and the other one stands for an absent child. -/
def bracketOutline : Outline where
  entries := #[
    { depth := 0, kind := .program, label := some "[31m", ancestorsLast := [], isLast := true,
      hidden := 12, synthetic := false },
    { depth := 1, kind := .literal, label := none, ancestorsLast := [], isLast := true,
      hidden := 0, synthetic := true }]
  walk := { visited := 2, synthesized := 1 }
  canceled := true

/-- A name in a call. -/
def calledName : Found := ⟨.identifier, "log", [.program, .callExpression]⟩

theorem bracketOutline_agrees :
    (∀ e ∈ bracketOutline.entries, e.EscapeFree) ∧ EscapeFree "app.json" ∧
    (∀ f ∈ [calledName], f.EscapeFree) ∧
    withoutColors ((bracketOutline.spans true).render true) =
      "Program [31m (+12 hidden)\n└── Literal\n(walk canceled)\n" ∧
    EndsReset ((bracketOutline.spans true).render true) ∧
    withoutColors (Styled.render true ([calledName].flatMap (Found.spans "app.json"))) =
      "app.json: Program > CallExpression > Identifier log\n" := by
  have houtline : ∀ e ∈ bracketOutline.entries, e.EscapeFree := by decide
  have hpath : EscapeFree "app.json" := by decide
  have hfound : ∀ f ∈ [calledName], f.EscapeFree := by decide
  obtain ⟨htext, hreset, hlines, -, hplain⟩ :=
    colored_plain_agree bracketOutline true "app.json" [calledName] houtline hpath hfound
  refine ⟨houtline, hpath, hfound, ?_, hreset, ?_⟩
  · rw [htext]
    decide +kernel
  · rw [hlines, hplain]
    decide +kernel

end Estree
