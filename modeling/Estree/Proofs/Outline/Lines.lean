import Estree.Outline.Text
import Estree.Proofs.Outline.Cancellation
import Estree.Proofs.Outline.Reports
import Estree.Proofs.Styled

/-!
# The lines of an outline

The text of an outline is made of its entries, each of them ended by a newline. It would be easy to
read if no entry had a newline of its own, and many programs take it that way. But kinds and labels
are taken from the document as they stand there. The text of a template may well go over several
lines, and its entry does then, too.

So the text of an outline has a line for each entry, and one more for each newline in a kind or in a
label. Nothing else that is written has a newline in it: neither rails and connectors nor the number
of hidden children.

* `Outline.text_eq_lines`: the text is made of what is written for each entry;
* `Outline.splitOn_text_iff`: it can be split into this again if and only if no kind and no label
  has a newline;
* `outline_text_lines`: the text of the outline of a document.
-/

namespace Estree

open Progress (Quantity Receiver)

/-! ### Lists of lines -/

section Lists

variable {α : Type} [BEq α] [LawfulBEq α] (x : α) (lines : List (List α))

omit [LawfulBEq α] in
/-- A list is split into one part more than it has separators. -/
theorem length_splitOn (xs : List α) : (xs.splitOn x).length = xs.count x + 1 := by
  rw [List.splitOn_eq_splitOnP]
  induction xs with
  | nil => simp [List.splitOnP_nil]
  | cons y ys ih =>
    rw [List.splitOnP_cons_eq_if_modifyHead, List.count_cons]
    split
    · rw [List.length_cons, ih]
    · rw [List.length_modifyHead, ih, Nat.add_zero]

/-- Lines that are each ended by a separator have these separators and their own. -/
theorem count_ended : (lines.flatMap fun line => line ++ [x]).count x =
    lines.length + (lines.map (List.count x)).sum := by
  induction lines with
  | nil => rfl
  | cons line lines ih =>
    rw [List.flatMap_cons, List.count_append, List.count_append, List.count_singleton_self, ih,
      List.length_cons, List.map_cons, List.sum_cons]
    omega

omit [BEq α] [LawfulBEq α] in
theorem ended_eq_intercalate :
    (lines.flatMap fun line => line ++ [x]) = [x].intercalate (lines ++ [[]]) := by
  induction lines with
  | nil => rfl
  | cons line lines ih =>
    rw [List.flatMap_cons, ih, List.cons_append]
    cases lines with
    | nil => simp [List.intercalate_cons_cons]
    | cons next lines => rw [List.cons_append, List.intercalate_cons_cons]

/-- They are split into themselves if and only if none of them has a separator of its own. -/
theorem splitOn_ended_iff :
    (lines.flatMap fun line => line ++ [x]).splitOn x = lines ++ [[]] ↔
      ∀ line ∈ lines, x ∉ line := by
  constructor
  · intro heq line hline hx
    -- there are as many parts as lines, so there are no separators but those at the ends
    have hlength := congrArg List.length heq
    rw [length_splitOn, count_ended, List.length_append, List.length_singleton] at hlength
    have hpos : 0 < (lines.map (List.count x)).sum :=
      Nat.lt_of_lt_of_le (List.count_pos_iff.mpr hx)
        (List.le_sum_of_mem (List.mem_map_of_mem hline))
    omega
  · intro h
    rw [ended_eq_intercalate]
    refine List.splitOn_intercalate x (fun line hline => ?_) (by simp)
    rcases List.mem_append.mp hline with hline | hline
    · exact h line hline
    · rw [List.mem_singleton.mp hline]
      exact List.not_mem_nil

end Lists

/-! ### What is written for an entry -/

/-- The newlines of a text. -/
def newlines (text : String) : Nat := text.toList.count '\n'

namespace Outline

/-- The line of an entry without its end: rails and a connector below the root, the kind, the label
and the number of hidden children. -/
def Entry.line (counts : Bool) (e : Entry) : String :=
  (if 0 < e.depth then e.rails ++ e.connector else "") ++ e.kind.name ++
    (e.label.map fun label => " " ++ label).getD "" ++
    if 0 < e.hidden && counts then " (+" ++ toString e.hidden ++ " hidden)" else ""

/-- The lines of an outline; the last one says if the walk was stopped. -/
def lines (counts : Bool) (o : Outline) : List String :=
  o.entries.toList.map (Entry.line counts) ++ if o.canceled then ["(walk canceled)"] else []

theorem Entry.render_spans (counts : Bool) (e : Entry) :
    Styled.render false (e.spans counts) = e.line counts ++ "\n" := by
  rw [Styled.render_plain, Entry.spans, Entry.line]
  simp only [List.map_append, String.join_append]
  cases e.label <;> split <;> split <;> simp [Span.words, String.append_assoc]

/-- **The text of an outline is made of its lines**, each with its end. -/
theorem text_eq_lines (counts : Bool) (o : Outline) :
    (o.spans counts).render false = String.join ((o.lines counts).map (· ++ "\n")) := by
  have hentries (entries : List Entry) :
      Styled.render false (entries.flatMap (Entry.spans counts)) =
        String.join ((entries.map (Entry.line counts)).map (· ++ "\n")) := by
    induction entries with
    | nil => rfl
    | cons e entries ih =>
      rw [List.flatMap_cons, Styled.render_append, e.render_spans, ih, List.map_cons, List.map_cons,
        String.join_cons]
  rw [spans, lines, Styled.render_append, hentries, List.map_append, String.join_append]
  cases o.canceled <;> rfl

/-! ### Where newlines come from -/

theorem newlines_append (s t : String) : newlines (s ++ t) = newlines s + newlines t := by
  rw [newlines, String.toList_append, List.count_append]
  rfl

theorem newlines_toString (n : Nat) : newlines (toString n) = 0 := by
  rw [newlines, List.count_eq_zero]
  intro hmem
  have hdigits : '\n' ∈ Nat.toDigits 10 n := Nat.toList_repr ▸ hmem
  exact absurd (Nat.isDigit_of_mem_toDigits (by decide) (by decide) hdigits) (by decide)

theorem Entry.newlines_rails (e : Entry) : newlines e.rails = 0 := by
  rw [rails]
  induction e.ancestorsLast with
  | nil => rfl
  | cons last rest ih =>
    rw [List.foldr_cons, newlines_append, ih]
    cases last <;> rfl

/-- The newlines in the kind and in the label of an entry. -/
def Entry.breaks (e : Entry) : Nat := newlines e.kind.name + newlines (e.label.getD "")

/-- The newlines in what is written for an entry are those of its kind and of its label. -/
theorem Entry.newlines_line (counts : Bool) (e : Entry) :
    newlines (e.line counts) = e.breaks := by
  have hconnector : newlines e.connector = 0 := by
    rw [connector]
    split <;> rfl
  have hlabel : newlines ((e.label.map fun label => " " ++ label).getD "") =
      newlines (e.label.getD "") := by
    cases e.label with
    | none => rfl
    | some label => exact (newlines_append " " label).trans (Nat.zero_add _)
  have hhidden : newlines (if 0 < e.hidden && counts then
      " (+" ++ toString e.hidden ++ " hidden)" else "") = 0 := by
    split
    · rw [newlines_append, newlines_append, newlines_toString]
      rfl
    · rfl
  have hfront : newlines (if 0 < e.depth then e.rails ++ e.connector else "") = 0 := by
    split
    · rw [newlines_append, e.newlines_rails, hconnector]
    · rfl
  rw [line, newlines_append, newlines_append, newlines_append, hfront, hlabel, hhidden, breaks,
    Nat.zero_add, Nat.add_zero]

theorem toList_text (counts : Bool) (o : Outline) :
    ((o.spans counts).render false).toList =
      ((o.lines counts).map String.toList).flatMap fun line => line ++ ['\n'] := by
  rw [text_eq_lines, String.toList_join, List.flatMap_map, List.flatMap_map]
  refine List.flatMap_congr fun line _ => ?_
  rw [String.toList_append]
  rfl

/-- **The newlines of the text of an outline**: one for each line, and those in kinds and labels. -/
theorem newlines_text (counts : Bool) (o : Outline) :
    newlines ((o.spans counts).render false) =
      (o.lines counts).length + (o.entries.toList.map Entry.breaks).sum := by
  have hlines : ((o.lines counts).map newlines).sum = (o.entries.toList.map Entry.breaks).sum := by
    have hentries : (o.entries.toList.map (Entry.line counts)).map newlines =
        o.entries.toList.map Entry.breaks := by
      rw [List.map_map]
      exact List.map_congr_left fun e _ => e.newlines_line counts
    rw [lines, List.map_append, List.sum_append, hentries]
    cases o.canceled <;> rfl
  rw [newlines, toList_text, count_ended, List.length_map, List.map_map, ← hlines]
  rfl

/-- **The text of an outline can be split into its lines** if and only if no kind and no label has
a newline. -/
theorem splitOn_text_iff (counts : Bool) (o : Outline) :
    ((o.spans counts).render false).toList.splitOn '\n' =
        (o.lines counts).map String.toList ++ [[]] ↔
      ∀ e ∈ o.entries, e.breaks = 0 := by
  have hentry (e : Entry) : '\n' ∉ (e.line counts).toList ↔ e.breaks = 0 := by
    rw [← List.count_eq_zero, ← e.newlines_line counts]
    rfl
  have hlast : '\n' ∉ "(walk canceled)".toList := by decide
  rw [toList_text, splitOn_ended_iff, List.forall_mem_map, lines, List.forall_mem_append,
    List.forall_mem_map]
  constructor
  · rintro ⟨hlines, -⟩ e he
    exact (hentry e).mp (hlines e (Array.mem_toList_iff.mpr he))
  · intro h
    refine ⟨fun e he => (hentry e).mpr (h e (Array.mem_toList_iff.mp he)), fun line hline => ?_⟩
    split at hline
    · exact List.mem_singleton.mp hline ▸ hlast
    · exact absurd hline List.not_mem_nil

/-! ### Where kinds and labels come from -/

open Walk (told shown)

variable {α σ : Type} [Quantity α]

/-- Every entry tells the kind and the label of a node that was shown. -/
theorem shown_of_mem_told (s : Settings) (r : Receiver α σ) (calls : List Walk.Call)
    (d : Draft σ) {e : Entry} (he : e ∈ (told (visitor s r) d calls).entries) :
    e ∈ d.entries ∨ ∃ p ∈ shown calls, e.kind = p.1.kind p.2 ∧ e.label = (p.1.node p.2).label := by
  induction calls generalizing d with
  | nil => exact .inl he
  | cons call calls ih =>
    cases call with
    | after a id => exact ih ((visitor s r).after a id d) he
    | before a id =>
      rcases ih _ he with hold | ⟨p, hp, hnode⟩
      · rw [Walk.tell_before] at hold
        rcases visitor_cases s r a id d with ⟨hsame, -⟩ | ⟨hidden, hpush, -⟩
        · exact .inl (hsame ▸ hold)
        · rw [hpush] at hold
          rcases Array.mem_push.mp hold with hold | rfl
          · exact .inl hold
          · exact .inr ⟨(a, id), List.mem_cons_self, rfl, rfl⟩
      · exact .inr ⟨p, List.mem_cons_of_mem _ hp, hnode⟩

end Outline

namespace Arena

open Outline (Settings)

/-- No kind and no label of a node has a newline. -/
def Unbroken (a : Arena) : Prop :=
  ∀ id < a.size, newlines (a.kind id).name = 0 ∧ newlines ((a.node id).label.getD "") = 0

instance (a : Arena) : Decidable a.Unbroken :=
  inferInstanceAs (Decidable (∀ id < a.size,
    newlines (a.kind id).name = 0 ∧ newlines ((a.node id).label.getD "") = 0))

variable {α σ : Type} [Quantity α] {a : Arena}

/-- **What an entry tells**: the kind and the label of a node of the arena, or those of a
placeholder. -/
theorem IsTree.entry_node (h : a.IsTree) (s : Settings) (r : Receiver α σ) (progress : σ)
    {steps : Nat} (hsteps : a.walkSteps ≤ steps) {e : Outline.Entry}
    (he : e ∈ (a.outline s r steps root progress).outline.entries) :
    (∃ id < a.size, e.kind = a.kind id ∧ e.label = (a.node id).label) ∨
      e.kind = .literal ∧ e.label = some "null" := by
  obtain ⟨hc, -⟩ := h.work_le s r progress hsteps
  obtain ⟨calls, u, ht, -⟩ := Walk.traverses_of_complete hc
  rw [outline_of_traverses hc ht, ht.memory_eq] at he
  rcases Outline.shown_of_mem_told s r calls _ he with hnone | ⟨p, hp, hkind, hlabel⟩
  · exact absurd hnone (Array.not_mem_empty e)
  · have hlt := ht.lt_of_shown (fun p id hs => (h.lt_of_hasSlot p id hs).2) (.refl a)
      (by simpa using h.root_lt) p hp
    obtain ⟨hgrown, -⟩ := Walk.grown_of_shown (ht.grown (.refl a)).2 hp
    rw [hkind, hlabel]
    rcases Nat.lt_or_ge p.2 a.size with hreal | hle
    · exact .inl ⟨p.2, hreal, hgrown.kind hreal, label_of_orphan (hgrown.real _ hreal)⟩
    · exact .inr ⟨hgrown.kind_placeholder hle hlt, congrArg Node.label (hgrown.added _ hle hlt)⟩

end Arena

/-- **The text of the outline of a document**, with any settings, and also when it is stopped. The
text is made of a line for each entry, and one that says if the walk was stopped, each ended by a
newline. Its newlines are these and the ones in the kinds and in the labels of the entries. So it
can be split into the lines again if and only if no kind and no label has a newline; and this is so
if no node of the document has one in its kind or in its label. -/
theorem outline_text_lines {doc : Json.Value} (hdoc : doc.Normal) {a : Arena}
    (h : Arena.ofValue? doc = some a) {steps : Nat} (hsteps : a.walkSteps ≤ steps)
    {α σ : Type} [Quantity α] (s : Outline.Settings) (r : Receiver α σ) (progress : σ)
    (counts : Bool) :
    let o := (a.outline s r steps Arena.root progress).outline
    let text := (o.spans counts).render false
    text = String.join ((o.lines counts).map (· ++ "\n")) ∧
    newlines text = (o.lines counts).length + (o.entries.toList.map Outline.Entry.breaks).sum ∧
    (text.toList.splitOn '\n' = (o.lines counts).map String.toList ++ [[]] ↔
      ∀ e ∈ o.entries, e.breaks = 0) ∧
    (a.Unbroken → text.toList.splitOn '\n' = (o.lines counts).map String.toList ++ [[]]) := by
  intro o text
  refine ⟨o.text_eq_lines counts, o.newlines_text counts, o.splitOn_text_iff counts, ?_⟩
  intro hnone
  refine (o.splitOn_text_iff counts).mpr fun e he => ?_
  rw [Outline.Entry.breaks]
  rcases (tree_of_ofValue? hdoc h).entry_node s r progress hsteps he with
    ⟨id, hid, hkind, hlabel⟩ | ⟨hkind, hlabel⟩
  · obtain ⟨hk, hl⟩ := hnone id hid
    rw [hkind, hlabel, hk, hl]
  · rw [hkind, hlabel]
    decide

/-- The sum of two variables. -/
def plainSum : Json.Value :=
  .object [("left", .object [("name", .string "x"), ("type", .string "Identifier")]),
    ("operator", .string "+"),
    ("right", .object [("name", .string "y"), ("type", .string "Identifier")]),
    ("type", .string "BinaryExpression")]

/-- The outline is stopped after two nodes. -/
theorem plainSum_lines :
    plainSum.Normal ∧ ∃ a, Arena.ofValue? plainSum = some a ∧ a.Unbroken ∧
      let o := (a.outline {} Progress.Recording.receiver a.walkSteps Arena.root impatient).outline
      o.lines true = ["BinaryExpression +", "├── Identifier x", "(walk canceled)"] ∧
      ((o.spans true).render false).toList.splitOn '\n' =
        (o.lines true).map String.toList ++ [[]] := by
  have hvariable (name : String) :
      (Json.Value.object [("name", .string name), ("type", .string "Identifier")]).Normal := by
    refine .object ?_ (by simp [Json.Value.Normal.string])
    simp only [Dict.Sorted, List.pairwise_cons]
    decide
  have hdoc : plainSum.Normal := by
    refine .object ?_ (by simp [hvariable, Json.Value.Normal.string])
    unfold Dict.Sorted
    decide
  obtain ⟨a, ha⟩ : ∃ a, Arena.ofValue? plainSum = some a := ⟨_, rfl⟩
  have hnone : ∀ b ∈ Arena.ofValue? plainSum, b.Unbroken := by decide +kernel
  have hlines : ∀ b ∈ Arena.ofValue? plainSum, Outline.lines true
      (b.outline {} Progress.Recording.receiver b.walkSteps Arena.root impatient).outline =
        ["BinaryExpression +", "├── Identifier x", "(walk canceled)"] := by
    decide +kernel
  obtain ⟨-, -, -, hsplit⟩ := outline_text_lines hdoc ha (Nat.le_refl _) {}
    Progress.Recording.receiver impatient true
  exact ⟨hdoc, a, ha, hnone a ha, hlines a ha, hsplit (hnone a ha)⟩

/-- A template of two lines. -/
def brokenTemplate : Json.Value :=
  .object [("type", .string "TemplateElement"), ("value", .object [("raw", .string "a\nb")])]

/-- Its outline has one entry, and the text of this outline has two lines. -/
theorem brokenTemplate_two_lines :
    brokenTemplate.Normal ∧ ∃ a, Arena.ofValue? brokenTemplate = some a ∧
      let o := (a.outline {} silent a.walkSteps Arena.root ()).outline
      o.entries.size = 1 ∧ o.canceled = false ∧
      (o.spans true).render false = "TemplateElement \x60a\nb\x60\n" ∧
      newlines ((o.spans true).render false) = 2 := by
  have hraw : (Json.Value.object [("raw", .string "a\nb")]).Normal :=
    .object (List.pairwise_singleton _ _) (List.forall_mem_singleton.mpr (.string _))
  have hdoc : brokenTemplate.Normal := by
    refine .object ?_ (List.forall_mem_cons.mpr ⟨.string _, List.forall_mem_singleton.mpr hraw⟩)
    unfold Dict.Sorted
    decide
  refine ⟨hdoc, _, rfl, ?_⟩
  decide +kernel

end Estree
