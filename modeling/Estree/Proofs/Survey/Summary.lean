import Estree.Proofs.Outline.Accounting
import Estree.Proofs.Survey.ExitCode

/-!
# The last line below a list of outlines

A run that makes outlines ends with a line that tells the number of documents and the number of
nodes. Both are told by the survey, which counts what is reached on the walks; the lines above are
the entries that the visitor has kept. As each node that is reached has its entry, the two agree, as
long as nothing is passed over.

A document that follows an unclean one in a survey that stops there is passed over. It has no
entries, but for an outline its root is reached all the same, and counted. When documents are
searched or counted, those that are passed over are not walked at all and add nothing.

* `Survey.State.Summed`: what the numbers of a survey have to do with its reports, which each step
  preserves (`Survey.step_summed`);
* `Survey.sum_visited`: what is reached for the outlines that are reported;
* `CommandLine.run_summary`: what is written in the end.
-/

namespace Estree

open Progress (Quantity Receiver Screen Sink)

namespace Survey

/-- The outlines among some reports, each with its path. -/
def listing (reports : List DocumentReport) : List (String × Outline) :=
  reports.filterMap fun r => r.outline.map (r.path, ·)

theorem listing_append (reports reports' : List DocumentReport) :
    listing (reports ++ reports') = listing reports ++ listing reports' := List.filterMap_append

theorem listing_push (reports : Array DocumentReport) (r : DocumentReport) :
    listing (reports.push r).toList =
      listing reports.toList ++ (r.outline.map (r.path, ·)).toList := by
  obtain ⟨path, outline, found, error⟩ := r
  rw [Array.toList_push, listing_append]
  cases outline <;> rfl

/-! ### Numbers and reports -/

variable {α : Type} [Quantity α] {s : State α}

/-- The nodes are those reached for the outlines, and the reports without an outline are about
documents that could not be read. -/
structure State.Summed (s : State α) : Prop where
  nodes : s.nodes = ((listing s.reports.toList).map fun x => x.2.walk.visited).sum
  failed : s.reports.toList.length = (listing s.reports.toList).length + s.failed

omit [Quantity α] in
theorem account_sums (flag : Option Nat) (s : State α) (walk : WalkReport) :
    (s.account flag walk).reports = s.reports ∧ (s.account flag walk).failed = s.failed ∧
    (s.account flag walk).nodes = s.nodes + walk.visited := by
  unfold State.account
  by_cases h : walk.isClean <;> simp [h]

/-- A step with a document that has been read adds an outline and counts what is reached for it. -/
theorem step_outline (settings : Outline.Settings) (flag : Option Nat) (s : State α) (path : String)
    (d : Document) (sink : Sink α) :
    let s' := step (.outline settings) flag s ⟨path, .ok (d, sink)⟩
    ∃ o : Outline, s'.reports = s.reports.push { path := d.path, outline := some o } ∧
      s'.failed = s.failed ∧ s'.nodes = s.nodes + o.walk.visited :=
  ⟨_, account_sums flag _ _⟩

/-- **One step** adds an outline and what is reached for it, or a failure. -/
theorem step_summed (settings : Outline.Settings) (flag : Option Nat) (h : s.Summed)
    (item : Item α) : (step (.outline settings) flag s item).Summed := by
  obtain ⟨path, content⟩ := item
  obtain ⟨hsum, hlength⟩ := h
  cases content with
  | error e =>
    have hreports : (step (.outline settings) flag s ⟨path, .error e⟩).reports =
        s.reports.push (.failed path e.message) := rfl
    have hlisting : listing (s.reports.push (.failed path e.message)).toList =
        listing s.reports.toList := (listing_push _ _).trans (List.append_nil _)
    refine ⟨?_, ?_⟩
    · rw [hreports, hlisting]
      exact hsum
    · rw [hreports, hlisting, Array.toList_push, List.length_append, hlength, Nat.add_assoc]
      rfl
  | ok r =>
    obtain ⟨o, hreports, hfailed, hnodes⟩ := step_outline settings flag s path r.1 r.2
    have hlisting : listing (s.reports.push { path := r.1.path, outline := some o }).toList =
        listing s.reports.toList ++ [(r.1.path, o)] := listing_push _ _
    refine ⟨?_, ?_⟩
    · rw [hnodes, hreports, hlisting, hsum, List.map_append, List.sum_append]
      rfl
    · rw [hfailed, hreports, hlisting, Array.toList_push, List.length_append, List.length_append,
        hlength, List.length_singleton, List.length_singleton, Nat.add_right_comm]

/-- **All steps.** -/
theorem steps_summed (settings : Outline.Settings) (flag : Option Nat) (items : List (Item α))
    (h : s.Summed) : (items.foldl (step (.outline settings) flag) s).Summed := by
  induction items generalizing s with
  | nil => exact h
  | cons item items ih => exact ih (step_summed settings flag h item)

/-- The numbers of a survey that makes outlines, and its reports. -/
theorem survey_summed (settings : Outline.Settings) (failFast : Bool) (screen : Option Screen)
    (documents : List (String × Except Error Document)) :
    (survey (.outline settings) failFast screen documents : State α).Summed := by
  obtain ⟨net, items, c, flag, hsurvey, -⟩ := survey_start (α := α) screen documents
  rw [hsurvey]
  exact steps_summed settings _ items ⟨rfl, rfl⟩

/-! ### What is reached for the outlines -/

namespace Task

/-- The documents that come after the first one that is not clean, if the survey stops there. -/
def later (task : Task) (stop : Bool) (documents : List (String × Except Error Document)) :
    List (String × Except Error Document) :=
  if stop then (documents.dropWhile task.isClean).tail else []

/-- The documents that are passed over: they could be read, but are not walked. -/
def overlooked (task : Task) (stop : Bool) (documents : List (String × Except Error Document)) :
    List (String × Except Error Document) :=
  (task.later stop documents).filter fun x => !isFailed x

/-- The documents before the later ones are walked, and these are not. -/
theorem outcomes_later (task : Task) (stop : Bool)
    (documents : List (String × Except Error Document)) :
    ∃ walked, documents = walked ++ task.later stop documents ∧
      task.outcomes stop false documents =
        walked.map (task.outcome false) ++ (task.later stop documents).map (task.outcome true) := by
  cases stop with
  | false =>
    have hall := task.outcomes_steady false false (nomatch ·) documents
    exact ⟨documents, (List.append_nil _).symm, hall.trans (List.append_nil _).symm⟩
  | true =>
    induction documents with
    | nil => exact ⟨[], rfl, rfl⟩
    | cons x documents ih =>
      by_cases hx : task.isClean x
      · obtain ⟨walked, hdocuments, houtcomes⟩ := ih
        have hlater : task.later true (x :: documents) = task.later true documents := by
          rw [later, later, List.dropWhile_cons_of_pos hx]
        refine ⟨x :: walked, ?_, ?_⟩
        · rw [hlater, List.cons_append, ← hdocuments]
        · rw [hlater, outcomes, hx, Bool.not_true, Bool.and_false, Bool.or_false, houtcomes]
          rfl
      · have hlater : task.later true (x :: documents) = documents := by
          rw [later, if_pos rfl, List.dropWhile_cons_of_neg hx, List.tail_cons]
        refine ⟨[x], congrArg (x :: ·) hlater.symm, ?_⟩
        rw [Bool.not_eq_true] at hx
        rw [hlater, outcomes, hx, Bool.not_false, Bool.and_true, Bool.or_true,
          outcomes_steady task true true id]
        rfl

end Task

section Outlines

variable (settings : Outline.Settings) {documents : List (String × Except Error Document)}

/-- There is an outline for each document that could be read. -/
theorem length_listing_map (raised : Bool) (documents : List (String × Except Error Document)) :
    (listing (documents.map ((Task.outline settings).outcome raised))).length =
      documents.countP fun x => !isFailed x := by
  rw [listing, List.filterMap_map, List.length_filterMap_eq_countP]
  refine List.countP_congr fun x _ => ?_
  obtain ⟨path, content⟩ := x
  cases content <;> cases raised <;> simp [Task.outcome, isFailed, Task.report, Task.passedOver,
    DocumentReport.failed]

/-- The outlines of documents that are walked. -/
theorem listing_walked (htree : ∀ x ∈ documents, ∀ d, x.2 = .ok d → d.arena.IsTree) :
    ∀ y ∈ listing (documents.map ((Task.outline settings).outcome false)),
      y.2.canceled = false ∧ y.2.walk.visited = y.2.entries.size := by
  intro y hy
  obtain ⟨r, hr, hy⟩ := List.mem_filterMap.mp hy
  obtain ⟨⟨path, content⟩, hx, rfl⟩ := List.mem_map.mp hr
  cases content with
  | error e => cases hy
  | ok d =>
    have hsilent : Outline.NeverCancels (.silent : Receiver Float Unit) () := fun _ => rfl
    obtain rfl := Option.some.inj hy
    exact Arena.outline_visited hsilent ((htree _ hx d rfl).complete_of_le _ _ _ (Nat.le_refl _))

/-- The outlines of documents that are passed over. -/
theorem listing_passedOver (documents : List (String × Except Error Document)) :
    ∀ y ∈ listing (documents.map ((Task.outline settings).outcome true)),
      y.2 = ⟨#[], { visited := 1, skipped := 1 }, true⟩ := by
  intro y hy
  obtain ⟨r, hr, hy⟩ := List.mem_filterMap.mp hy
  obtain ⟨⟨path, content⟩, -, rfl⟩ := List.mem_map.mp hr
  cases content with
  | error e => cases hy
  | ok d =>
    obtain rfl := Option.some.inj hy
    rfl

/-- **What is reached for the outlines**: a node for each entry, and one for each document that is
passed over. -/
theorem sum_visited (stop : Bool) (htree : ∀ x ∈ documents, ∀ d, x.2 = .ok d → d.arena.IsTree) :
    let task := Task.outline settings
    let listed := listing (task.outcomes stop false documents)
    (listed.map fun y => y.2.walk.visited).sum =
        (listed.map fun y => y.2.entries.size).sum + (task.overlooked stop documents).length ∧
      listed.length = documents.countP (fun x => !isFailed x) ∧
      listed.countP (fun y => y.2.canceled) = (task.overlooked stop documents).length ∧
      ∀ y ∈ listed, y.2.canceled = true → y.2.entries = #[] := by
  intro task listed
  obtain ⟨walked, hdocuments, houtcomes⟩ := task.outcomes_later stop documents
  set first := listing (walked.map (task.outcome false))
  set rest := listing ((task.later stop documents).map (task.outcome true))
  have hlisted : listed = first ++ rest := (congrArg listing houtcomes).trans (listing_append _ _)
  have hfirst : ∀ y ∈ first, y.2.canceled = false ∧ y.2.walk.visited = y.2.entries.size :=
    listing_walked settings fun x hx =>
      htree x (hdocuments ▸ List.mem_append_left (task.later stop documents) hx)
  have hrest : ∀ y ∈ rest, y.2 = ⟨#[], { visited := 1, skipped := 1 }, true⟩ :=
    listing_passedOver settings _
  have hlength : rest.length = (task.overlooked stop documents).length :=
    (length_listing_map settings true _).trans List.countP_eq_length_filter
  rw [hlisted, ← hlength]
  refine ⟨?_, ?_, ?_, ?_⟩
  · have hnodes : first.map (fun y => y.2.walk.visited) = first.map fun y => y.2.entries.size :=
      List.map_congr_left fun y hy => (hfirst y hy).2
    have hones : rest.map (fun y => y.2.walk.visited) = rest.map fun _ => 1 :=
      List.map_congr_left fun y hy => by rw [hrest y hy]
    have hzeros : rest.map (fun y => y.2.entries.size) = rest.map fun _ => 0 :=
      List.map_congr_left fun y hy => by rw [hrest y hy, Array.size_empty]
    simp only [List.map_append, List.sum_append, hnodes, hones, hzeros, List.map_const',
      List.sum_replicate_nat, Nat.add_zero, Nat.mul_one, Nat.mul_zero]
  · rw [List.length_append, length_listing_map, length_listing_map, ← List.countP_append,
      ← hdocuments]
  · have hnone : first.countP (fun y => y.2.canceled) = 0 :=
      List.countP_eq_zero.mpr fun y hy => by rw [(hfirst y hy).1]; exact Bool.false_ne_true
    have hall : rest.countP (fun y => y.2.canceled) = rest.length :=
      List.countP_eq_length.mpr fun y hy => by rw [hrest y hy]
    rw [List.countP_append, hnone, hall, Nat.zero_add]
  · intro y hy hcanceled
    rcases List.mem_append.mp hy with hy | hy
    · exact absurd ((hfirst y hy).1.symm.trans hcanceled) Bool.false_ne_true
    · rw [hrest y hy]

end Outlines

end Survey

/-! ### The output -/

namespace CommandLine

open Files (Place)
open Survey (listing Task)

/-- The text of some outlines is that of their reports. -/
theorem flatMap_listing (reports : List DocumentReport) (counts : Bool) :
    (reports.flatMap fun r => (r.outline.map (·.titledSpans r.path counts)).getD []) =
      (listing reports).flatMap fun x => x.2.titledSpans x.1 counts := by
  induction reports with
  | nil => rfl
  | cons r reports ih =>
    obtain ⟨path, outline, found, error⟩ := r
    cases outline with
    | none => exact ih
    | some o => exact congrArg (o.titledSpans path counts ++ ·) ih

section Outlines

variable {here : Place} {c : Console} {args paths : List String} {o : Options}

/-- What is listed when outlines are made of the documents that some paths lead to. -/
def Options.listed (o : Options) (here : Place) (paths : List String) : List (String × Outline) :=
  listing ((Task.outline o.outline).outcomes o.failFast false
    (paths.map fun path => (path, Document.load here path)))

/-- What is written when outlines are made: they, and the numbers of the survey. -/
theorem run_outlines (hargs : Options.ofArguments args = .ok o)
    (hpaths : Files.discover here o.search o.paths = .ok paths) (hfind : o.find = none)
    (hstats : o.stats = false) (hjson : o.json = false) :
    let settings : OutputSettings := { useColor := c.wantsColor o.colorMode c.outputIsTerminal }
    (run here c args).output =
      Styled.render (settings.colorChoice.escapes c)
        ((o.listed here paths).flatMap fun x => x.2.titledSpans x.1 settings.hiddenCounts) ++
      Outline.summary (o.listed here paths).length
        ((o.listed here paths).map fun x => x.2.walk.visited).sum := by
  intro settings
  set documents := paths.map fun path => (path, Document.load here path) with hdocuments
  set s : Survey.State Float := survey (.outline o.outline) o.failFast (barScreen? c o) documents
  have htask : o.task = .ok (.outline o.outline) := by
    rw [Options.task, hfind, hstats]
    rfl
  have hrun : (run here c args).output = output o settings (settings.colorChoice.escapes c) s := by
    simp only [run, hargs, perform, hpaths, htask, Survey.zip_loadAll]
    rfl
  have hs : s.Summed := Survey.survey_summed o.outline o.failFast (barScreen? c o) documents
  have hread : s.reports.toList.length - s.failed = (listing s.reports.toList).length := by
    rw [hs.failed, Nat.add_sub_cancel]
  have hlisted : listing s.reports.toList = o.listed here paths :=
    congrArg listing (Survey.survey_eq _ o.failFast (barScreen? c o) documents).1
  rw [hrun]
  simp only [output, hstats, hjson, hfind, Option.isSome_none, Bool.false_eq_true, if_false,
    hread, hs.nodes, flatMap_listing, hlisted]

/-- **What is written when outlines are made**: the outlines of the documents that could be read,
each below its path, and a line with the number of documents and the number of nodes. The number of
nodes is that of the entries, and one more for each document that is passed over because an earlier
one is not clean. The outlines of these have no entries. -/
theorem run_summary (hargs : Options.ofArguments args = .ok o)
    (hpaths : Files.discover here o.search o.paths = .ok paths) (hfind : o.find = none)
    (hstats : o.stats = false) (hjson : o.json = false) :
    let listed := o.listed here paths
    let documents := paths.map fun path => (path, Document.load here path)
    let passed := ((Task.outline o.outline).overlooked o.failFast documents).length
    let settings : OutputSettings := { useColor := c.wantsColor o.colorMode c.outputIsTerminal }
    (run here c args).output =
        Styled.render (settings.colorChoice.escapes c)
          (listed.flatMap fun x => x.2.titledSpans x.1 settings.hiddenCounts) ++
        Outline.summary (documents.countP fun x => !Survey.isFailed x)
          ((listed.map fun x => x.2.entries.size).sum + passed) ∧
      listed.countP (fun x => x.2.canceled) = passed ∧
      ∀ x ∈ listed, x.2.canceled = true → x.2.entries = #[] := by
  intro listed documents passed settings
  have htree : ∀ x ∈ documents, ∀ d, x.2 = .ok d → d.arena.IsTree := by
    intro x hx d hd
    obtain ⟨path, -, rfl⟩ := List.mem_map.mp hx
    exact tree_of_load hd
  obtain ⟨hsum, hlength, hcanceled, hempty⟩ := Survey.sum_visited o.outline o.failFast htree
  refine ⟨?_, hcanceled, hempty⟩
  exact (run_outlines hargs hpaths hfind hstats hjson).trans
    (congrArg (_ ++ ·) (congrArg₂ Outline.summary hlength hsum))

end Outlines

/-- A folder with two files, in each of which there is a node of an unknown kind. -/
def quirksFolder : Place :=
  { top := .file "a" ("\x7b\"type\":\"Quirk\"\x7d".toUTF8)
      (.file "b" ("\x7b\"type\":\"Quirk\"\x7d".toUTF8) .empty) }

/-- What the two files are read as. -/
def quirks : List (String × Except Error Document) :=
  ["a", "b"].map fun path => (path, Document.ofText path "\x7b\"type\":\"Quirk\"\x7d")

theorem resolve_quirks (path : String) (h : path ∈ ["a", "b"]) :
    ∃ p, quirksFolder.resolve path = .ok p ∧
      p.entry = .file "\x7b\"type\":\"Quirk\"\x7d".toUTF8 := by
  simp only [List.mem_cons, List.not_mem_nil, or_false] at h
  obtain rfl | rfl := h
  · exact ⟨_, Place.resolve_name (by decide) (by decide) (by decide) quirksFolder, rfl⟩
  · exact ⟨_, Place.resolve_name (by decide) (by decide) (by decide) quirksFolder, rfl⟩

theorem load_quirks :
    (["a", "b"].map fun path => (path, Document.load quirksFolder path)) = quirks := by
  refine List.map_congr_left fun path hmem => ?_
  obtain ⟨p, hp, hentry⟩ := resolve_quirks path hmem
  rw [load_of_resolve hp hentry]

theorem discover_quirks : Files.discover quirksFolder { } ["a", "b"] = .ok ["a", "b"] := by
  refine Files.discover_files rfl fun path hmem => ?_
  obtain ⟨p, hp, hentry⟩ := resolve_quirks path hmem
  exact ⟨p, _, hp, hentry⟩

theorem run_summary_quirks :
    (run quirksFolder { } ["a", "b"]).output =
      "a\nQuirk\n\nb\nQuirk\n\n2 documents, 2 nodes\n" := by
  have hargs : Options.ofArguments ["a", "b"] = .ok { paths := ["a", "b"] } := by decide +kernel
  rw [(run_summary hargs discover_quirks rfl rfl rfl).1, Options.listed, load_quirks]
  decide +kernel

/-- If the run stops at the first of them, the second one has no entry but is counted. -/
theorem overlooked_quirk_counted :
    let o : Options := { paths := ["a", "b"], failFast := true }
    Options.ofArguments ["--fail-fast", "a", "b"] = .ok o ∧
    Files.discover quirksFolder o.search o.paths = .ok ["a", "b"] ∧
    ((o.listed quirksFolder ["a", "b"]).map fun x => x.2.entries.size).sum = 1 ∧
    (run quirksFolder { } ["--fail-fast", "a", "b"]).output =
      "a\nQuirk\n\nb\n(walk canceled)\n\n2 documents, 2 nodes\n" := by
  intro o
  have hargs : Options.ofArguments ["--fail-fast", "a", "b"] = .ok o := by decide +kernel
  have hpaths : Files.discover quirksFolder o.search o.paths = .ok ["a", "b"] := discover_quirks
  have hlisted : o.listed quirksFolder ["a", "b"] =
      listing ((Task.outline {}).outcomes true false quirks) := by
    rw [← load_quirks]
    rfl
  refine ⟨hargs, hpaths, ?_, ?_⟩
  · rw [hlisted]
    decide +kernel
  · rw [run_outlines hargs hpaths rfl rfl rfl, hlisted]
    decide +kernel

end CommandLine

end Estree
