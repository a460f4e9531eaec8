import Estree.Proofs.Files.Discovery
import Estree.Proofs.Json.Reading
import Estree.Proofs.Outline.Agreement
import Estree.Proofs.Survey.FailFast

/-!
# Exit codes of strict runs

A strict run ends with another code if something is wrong with the documents: one cannot be read, or
a kind is not known. It finds out by making outlines, by searching or by counting, which are three
walks with three visitors, and once it has been told to stop it does not walk the documents that are
left. The code is the same all the same. A visitor that always descends finds an unknown kind if
there is one that visited fields lead to; and a survey that has been stopped has found one already,
so what it passes over cannot change the code.

* `Arena.IsTree.isClean_iff`: what a walk finds, whoever is the visitor;
* `Survey.step_counts`, `Survey.survey_counts`: what a survey counts;
* `CommandLine.run_code`: the exit code.
-/

namespace Estree

open Progress (Quantity Receiver Screen)
open Walk (Continues Scene shown)

/-! ### Clean documents -/

namespace Arena

/-- A node of a kind that is not known, to which visited fields lead. -/
def ReachesUnknown (a : Arena) : Prop := ∃ id, a.Covered id ∧ (a.kind id).isUnknown

/-- A visitor that always descends finds the unknown kinds that it is shown. -/
theorem isClean_iff_shown {a : Arena} {σ : Type} {v : Visitor σ} (hv : Continues v) {nulls : Bool}
    {m : σ} {calls : List Walk.Call} {u : Scene σ}
    (ht : Walk.Traverses v nulls none [some root] (.start a m) calls u) :
    u.report.isClean = true ↔ ∀ p ∈ shown calls, (p.1.kind p.2).isUnknown = false := by
  obtain ⟨-, -, hunknown, -⟩ := ht.report_eq (by simp)
  have hstart : (Scene.start a m).report.unknownKinds.toList = [] := rfl
  rw [Walk.descents_eq_shown hv, hstart, List.nil_append] at hunknown
  simp only [WalkReport.isClean, Array.isEmpty_iff, ← Array.toList_eq_nil_iff, hunknown,
    List.filterMap_eq_nil_iff, Walk.unknownKind?, Walk.childSlots_eq_none_iff,
    Walk.walkOrder_eq_none_iff]
  simp

/-- **On a tree, a visitor that always descends finds an unknown kind if there is one to be
reached.** -/
theorem IsTree.isClean_iff {a : Arena} (h : a.IsTree) {σ : Type} {v : Visitor σ} (hv : Continues v)
    (nulls : Bool) (m : σ) {steps : Nat} (hsteps : a.walkSteps ≤ steps) :
    (a.walk v nulls steps root m).report.isClean = true ↔ ¬ a.ReachesUnknown := by
  obtain ⟨calls, u, ht, hwalk⟩ := Walk.traverses_of_complete (h.complete_of_le v nulls m hsteps)
  have hg : a.Grown (Scene.start a m).arena := .refl a
  have hclean : (a.walk v nulls steps root m).report.isClean = true ↔
      ∀ p ∈ shown calls, (p.1.kind p.2).isUnknown = false := by
    rw [hwalk]
    exact isClean_iff_shown hv ht
  have hlt := ht.lt_of_shown (fun p id hs => (h.lt_of_hasSlot p id hs).2) hg
    (by simpa [Scene.start] using h.root_lt)
  rw [hclean]
  constructor
  · rintro hall ⟨id, hc, hid⟩
    have hlt := h.lt_of_covered hc
    obtain ⟨b, hb⟩ := Walk.exists_shown (h.mem_of_covered hv ht hg hc)
    obtain ⟨hgrown, -⟩ := Walk.grown_of_shown (ht.grown hg).2 hb
    have hknown := hall _ hb
    rw [hgrown.kind hlt, hid] at hknown
    cases hknown
  · intro hnone p hp
    obtain ⟨hgrown, hmem⟩ := Walk.grown_of_shown (ht.grown hg).2 hp
    by_cases hid : p.2 < a.size
    · rw [hgrown.kind hid]
      by_contra hunknown
      refine hnone ⟨p.2, h.covered_of_mem ht hg hid hmem, ?_⟩
      simpa using hunknown
    · rw [hgrown.kind_placeholder (Nat.le_of_not_lt hid) (hlt p hp)]
      rfl

end Arena

namespace Survey

/-- What a task leaves out of a document: nothing, if an outline shows all. -/
def Task.SeesAll : Task → Prop
  | .outline settings => settings.maxDepth = none ∧ settings.collapse = []
  | _ => True

/-- **All tasks find a document unclean together**, namely if an unknown kind can be reached. -/
theorem Task.isClean_walk_iff {task : Task} (htask : task.SeesAll) {d : Document}
    (hd : d.arena.IsTree) : (task.walk d).isClean = true ↔ ¬ d.arena.ReachesUnknown := by
  have hsteps : d.arena.walkSteps ≤ d.arena.walkSteps := Nat.le_refl _
  cases task with
  | outline settings =>
    obtain ⟨depth, collapse, nulls⟩ := settings
    obtain ⟨rfl, rfl⟩ := htask
    have hv : Continues Walk.wanderer := fun _ _ _ => rfl
    have hsilent : Outline.NeverCancels (.silent : Receiver Float Unit) () := fun _ => rfl
    obtain ⟨-, -, hreport, -⟩ := outline_of_continues hd hsilent nulls hsteps hv ()
    rw [← hd.isClean_iff hv nulls () hsteps, ← hreport]
    rfl
  | search test =>
    have hv : Continues (Search.visitor test) := fun _ _ _ => rfl
    exact hd.isClean_iff hv false #[] hsteps
  | count nulls =>
    have hv : Continues Tally.visitor := fun _ _ _ => rfl
    exact hd.isClean_iff hv nulls {} hsteps

/-! ### What a survey counts -/

variable {α : Type} [Quantity α] {s : State α} {c flag : Nat} {raised : Bool}

/-- Could the document not be read? -/
def isFailed (x : String × Except Error Document) : Bool :=
  match x.2 with
  | .ok _ => false
  | .error _ => true

omit [Quantity α] in
theorem account_counts (flag : Option Nat) (s : State α) (walk : WalkReport) :
    (s.account flag walk).failed = s.failed ∧
    (0 < (s.account flag walk).unclean ↔ 0 < s.unclean ∨ walk.isClean = false) := by
  unfold State.account
  by_cases h : walk.isClean <;> simp [h]

/-- **One step counts a document that failed or is unclean.** Once the survey has been stopped it
finds no more unclean ones, but then it has found one. -/
theorem step_counts (task : Task) (stop : Bool) (h : s.network.Watched c flag raised)
    (hraised : raised = true → 0 < s.unclean) {item : Item α} (hitem : item.PartOf c) :
    let s' := step task (if stop then some flag else none) s item
    (0 < s'.failed ↔ 0 < s.failed ∨ isFailed item.document) ∧
    (0 < s'.unclean ↔ 0 < s.unclean ∨ task.isClean item.document = false) := by
  obtain ⟨path, content⟩ := item
  cases content with
  | error e => simp [step, State.push, isFailed, Task.isClean, Item.document, Except.map]
  | ok r =>
    obtain ⟨d, sink⟩ := r
    obtain ⟨i, rfl⟩ := hitem d sink rfl
    obtain ⟨net, -, hstep⟩ := step_loaded task path d h i
    simp only [hstep]
    obtain ⟨hfailed, hunclean⟩ := account_counts (if stop then some flag else none)
      (s.met net task d raised).1 (s.met net task d raised).2
    rw [hfailed, hunclean]
    cases raised with
    | true =>
      have hpos := hraised rfl
      simp [State.met, isFailed, Item.document, Except.map, hpos]
    | false => simp [State.met, isFailed, Task.isClean, Item.document, Except.map]

/-- **All steps of a survey.** -/
theorem steps_count (task : Task) (stop : Bool) {items : List (Item α)}
    (hitems : ∀ item ∈ items, item.PartOf c) (h : s.network.Watched c flag raised)
    (hraised : raised = true → 0 < s.unclean) :
    let s' := items.foldl (step task (if stop then some flag else none)) s
    (0 < s'.failed ↔ 0 < s.failed ∨ ∃ item ∈ items, isFailed item.document) ∧
    (0 < s'.unclean ↔ 0 < s.unclean ∨ ∃ item ∈ items, task.isClean item.document = false) := by
  induction items generalizing s raised with
  | nil => simp
  | cons item items ih =>
    obtain ⟨hitem, hitems⟩ := List.forall_mem_cons.mp hitems
    obtain ⟨hfailed, hunclean⟩ := step_counts task stop h hraised hitem
    obtain ⟨-, -, hafter⟩ := step_watched task stop h hitem
    -- if the flag is raised now, it was raised before or this document is unclean
    have hraised' : (raised || (stop && !task.isClean item.document)) = true →
        0 < (step task (if stop then some flag else none) s item).unclean := by
      intro hnow
      rw [hunclean]
      by_cases hclean : task.isClean item.document = true
      · simp only [hclean, Bool.not_true, Bool.and_false, Bool.or_false] at hnow
        exact .inl (hraised hnow)
      · simp [hclean]
    obtain ⟨hfailed', hunclean'⟩ := ih hitems hafter hraised'
    simp only [List.foldl_cons, List.exists_mem_cons_iff, ← or_assoc]
    rw [hfailed', hunclean', hfailed, hunclean]
    exact ⟨Iff.rfl, Iff.rfl⟩

/-- **What a survey counts**: it counts documents that could not be read if there are any, and
documents that are not clean if there are any, whether or not it is to stop. -/
theorem survey_counts (task : Task) (failFast : Bool) (screen : Option Screen)
    (documents : List (String × Except Error Document)) :
    let s : State α := survey task failFast screen documents
    (0 < s.failed ↔ ∃ x ∈ documents, isFailed x) ∧
    (0 < s.unclean ↔ ∃ x ∈ documents, task.isClean x = false) := by
  obtain ⟨net, items, c, flag, hsurvey, rfl, hitems, hwatched⟩ :=
    survey_start (α := α) screen documents
  have hcount := steps_count (s := { network := net }) task failFast hitems hwatched (by simp)
  simpa [hsurvey] using hcount

end Survey

/-! ### Exit codes -/

namespace CommandLine

open Files (Place)

/-- A document that is loaded is a tree. -/
theorem tree_of_load {here : Place} {path : String} {d : Document}
    (h : Document.load here path = .ok d) : d.arena.IsTree := by
  unfold Document.load at h
  cases htext : Document.readText here path with
  | error e => simp [htext, Except.bind] at h
  | ok text =>
    simp only [htext, Except.bind, Document.ofText] at h
    split at h
    · cases h
    · next v hv =>
      split at h
      · cases h
      · next a ha =>
        cases h
        exact tree_of_ofValue? (Json.normal_of_parse hv) ha

/-- A file with the encoding of a text is read as the text. -/
theorem load_of_resolve {here p : Place} {path text : String} (h : here.resolve path = .ok p)
    (hentry : p.entry = .file text.toUTF8) :
    Document.load here path = Document.ofText path text := by
  have htext : String.fromUTF8? text.toUTF8 = some text := dif_pos text.isValidUTF8
  simp only [Document.load, Document.readText, h, Except.map, hentry, htext, Except.bind]

/-- Something is wrong with the document that a path leads to: it cannot be read, or an unknown kind
can be reached in it. -/
def Faulty (here : Place) (path : String) : Prop :=
  (∃ e, Document.load here path = .error e) ∨
    ∃ d, Document.load here path = .ok d ∧ d.arena.ReachesUnknown

/-- Outlines show all, if outlines are made. -/
def Options.ShowsAll (o : Options) : Prop :=
  o.find = none → o.stats = false → o.level = none ∧ o.collapse = []

theorem Options.ShowsAll.seesAll {o : Options} (h : o.ShowsAll) {task : Survey.Task}
    (htask : o.task = .ok task) : task.SeesAll := by
  unfold Options.task at htask
  split at htask
  · split at htask <;> cases htask
    trivial
  · next hfind =>
    obtain rfl := Except.ok.inj htask
    by_cases hstats : o.stats
    · simp [hstats, Survey.Task.SeesAll]
    · obtain ⟨hlevel, hcollapse⟩ := h hfind (by simpa using hstats)
      simp [hstats, Survey.Task.SeesAll, Options.outline, hlevel, hcollapse]

/-- **A survey has counted something that is wrong with the documents exactly if something is**,
whatever it does with them. -/
theorem counted_iff_faulty (here : Place) (paths : List String) {task : Survey.Task}
    (htask : task.SeesAll) (failFast : Bool) (screen : Option Screen) :
    let s : Survey.State Float :=
      survey task failFast screen (paths.zip (Document.loadAll here paths))
    0 < s.failed ∨ 0 < s.unclean ↔ ∃ path ∈ paths, Faulty here path := by
  rw [Survey.zip_loadAll]
  obtain ⟨hfailed, hunclean⟩ := Survey.survey_counts (α := Float) task failFast screen
    (paths.map fun path => (path, Document.load here path))
  have hone (path : String) : Faulty here path ↔
      Survey.isFailed (path, Document.load here path) ∨
        task.isClean (path, Document.load here path) = false := by
    unfold Faulty
    cases hload : Document.load here path with
    | error e => simp [Survey.isFailed]
    | ok d =>
      have hclean := Survey.Task.isClean_walk_iff htask (tree_of_load hload)
      simp [Survey.isFailed, Survey.Task.isClean, ← Bool.not_eq_true, hclean]
  simp only [hfailed, hunclean, hone]
  simp [exists_or, and_or_left]

/-- **The exit code tells the same in every mode.** Whatever is done with the documents that were
found, and whether or not the run stops at the first unclean one, it ends with code 2 if it is
strict and one of them is faulty, and with code 0 otherwise. -/
theorem run_code {here : Place} {c : Console} {args paths : List String} {o : Options}
    {task : Survey.Task} (hargs : Options.ofArguments args = .ok o)
    (hpaths : Files.discover here o.search o.paths = .ok paths) (htask : o.task = .ok task)
    (hall : o.ShowsAll) :
    ((run here c args).code = 2 ↔ o.strict = true ∧ ∃ path ∈ paths, Faulty here path) ∧
    ((run here c args).code ≠ 2 → (run here c args).code = 0) := by
  have hcounted := counted_iff_faulty here paths (hall.seesAll htask) o.failFast (barScreen? c o)
  have hcode : (run here c args).code = exitCode o (survey (α := Float) task o.failFast
      (barScreen? c o) (paths.zip (Document.loadAll here paths))) := by
    simp [run, hargs, perform, hpaths, htask]
  dsimp only at hcounted
  rw [hcode, ← hcounted]
  unfold exitCode
  split <;> simp_all

/-- A folder with one file, in which there is a node of an unknown kind. -/
def quirkFolder : Place :=
  { top := .file "a" ("\x7b\"type\":\"Quirk\"\x7d".toUTF8) .empty }

theorem resolve_quirk : quirkFolder.resolve "a" =
    .ok ⟨quirkFolder.top, [("a", .file "\x7b\"type\":\"Quirk\"\x7d".toUTF8)]⟩ :=
  Place.resolve_name (by decide) (by decide) (by decide) quirkFolder

theorem faulty_quirk : Faulty quirkFolder "a" := by
  have hkind : ((Document.ofText "a" "\x7b\"type\":\"Quirk\"\x7d").toOption.any
      fun d => (d.arena.kind Arena.root).isUnknown) = true := by decide +kernel
  have hload : Document.load quirkFolder "a" =
      Document.ofText "a" "\x7b\"type\":\"Quirk\"\x7d" :=
    load_of_resolve resolve_quirk rfl
  rw [← hload] at hkind
  cases hd : Document.load quirkFolder "a" with
  | error e =>
    rw [hd] at hkind
    cases hkind
  | ok d =>
    rw [hd] at hkind
    exact .inr ⟨d, hd, Arena.root, .root, hkind⟩

theorem run_code_quirk :
    (run quirkFolder { } ["--strict", "--fail-fast", "--stats", "a"]).code = 2 := by
  have hargs : Options.ofArguments ["--strict", "--fail-fast", "--stats", "a"] =
      .ok { paths := ["a"], stats := true, failFast := true, strict := true } := by decide +kernel
  have hpaths : Files.discover quirkFolder { } ["a"] = .ok ["a"] :=
    Files.discover_files rfl (List.forall_mem_singleton.mpr ⟨_, _, resolve_quirk, rfl⟩)
  have hall : Options.ShowsAll
      { paths := ["a"], stats := true, failFast := true, strict := true } := by
    simp [Options.ShowsAll]
  refine (run_code hargs hpaths rfl hall).1.mpr ?_
  exact ⟨rfl, "a", List.mem_singleton_self "a", faulty_quirk⟩

end CommandLine

end Estree
