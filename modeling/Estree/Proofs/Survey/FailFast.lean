import Estree.CommandLine.Run
import Estree.Proofs.Outline.Quiet
import Estree.Proofs.Progress.Wiring
import Estree.Proofs.Walk.Reached

/-!
# Stopping at the first document that is not clean

A survey that stops at the first unclean document tells the later ones by way of the progress they
report: a flag is raised, the root of all progress asks it, the composite asks the root, and each
document asks the composite when it is about to be walked.

`Watched` says that this way is open and how the flag stands. No report closes it or raises the
flag, so a document does not notice the others but by the flag. What a survey comes to is therefore
told by `Task.outcomes` and `Task.countedAll`, which know nothing of progress.

## Main results

* `Survey.visit_watched`, `Survey.step_watched`: what becomes of one document;
* `Survey.survey_eq`: what becomes of all of them;
* `survey_fail_fast`: what stopping at the first unclean document changes.
-/

namespace Estree

open Progress (Network Quantity Receiver Report Screen Sink)

/-! ### The flag -/

namespace Progress

variable {α : Type} [Quantity α]

theorem Sink.isCanceled_core (net : Network α) (ask : Nat → Bool) (sink : Sink α) :
    sink.core.isCanceled net ask = sink.isCanceled net ask := by
  induction sink with
  | relay delegate callback ih => exact ih
  | _ => rfl

theorem steady_receive (report : Report α) (net : Network α) (sink : Sink α) :
    net.Steady (sink.receiver.receive report net) :=
  Network.steady_deliver (Network.steady_climb _) report net sink

/-- Composite `c` asks a flag whether to stop, and nothing else; `raised` tells if it is raised. -/
structure Network.Watched (net : Network α) (c flag : Nat) (raised : Bool) : Prop where
  sink : ∃ sink, net.sink? c = some sink ∧ (sink.core = .relay (.flag flag) none ∨
    ∃ screen, sink.core = .relay (.bar .fresh screen flag) none)
  flag : net.flags[flag]? = some raised

namespace Network.Watched

variable {net net' : Network α} {c flag : Nat} {raised : Bool}

theorem steady (h : net.Watched c flag raised) (hnet : net.Steady net') :
    net'.Watched c flag raised := by
  obtain ⟨sink, hs, hcore⟩ := h.sink
  obtain ⟨sink', hs', hcore'⟩ := hnet.sink? hs
  refine ⟨⟨sink', hs', hcore' ▸ hcore⟩, ?_⟩
  rw [hnet.flags]
  exact h.flag

theorem raise (h : net.Watched c flag raised) : (net.raise flag).Watched c flag true := by
  refine ⟨h.sink, ?_⟩
  have hlt := (Array.getElem?_eq_some_iff.mp h.flag).1
  simp [Network.raise, hlt]

/-- A part of the composite is told to stop when the flag is raised. -/
theorem isCanceled (h : net.Watched c flag raised) (i : Nat) :
    net.isCanceled (.part c i) = raised := by
  obtain ⟨sink, hs, hcore⟩ := h.sink
  have hflag (ask : Nat → Bool) : sink.isCanceled net ask = raised := by
    rw [← Sink.isCanceled_core]
    rcases hcore with hcore | ⟨screen, hcore⟩ <;>
      rw [hcore, Sink.isCanceled, Sink.isCanceled, h.flag, Option.getD_some]
  obtain ⟨n, hn⟩ := Nat.exists_eq_add_of_le' (Nat.zero_lt_of_lt (lt_of_sink? hs))
  unfold sink? at hs
  rw [Network.isCanceled, Sink.isCanceled, hn, compositeCanceled, hs]
  exact hflag _

/-- As long as the flag is not raised, nothing that is reported leads to a stop. -/
theorem neverCancels (h : net.Watched c flag false) (i : Nat) :
    Outline.NeverCancels (Sink.part c i).receiver net := by
  intro reports
  induction reports generalizing net with
  | nil => exact h.isCanceled i
  | cons report reports ih => exact ih (h.steady (steady_receive report net _))

end Network.Watched

end Progress

namespace Survey

/-! ### One document -/

namespace Task

/-- What happens on a walk over a document that nobody stops. -/
def walk (task : Task) (d : Document) : WalkReport :=
  let steps := d.arena.walkSteps
  match task with
  | .outline settings =>
    (d.arena.outline settings (.silent : Receiver Float Unit) steps Arena.root ()).outline.walk
  | .search test => (d.arena.search test steps Arena.root).report
  | .count nulls => (Tally.record {} d.arena nulls steps Arena.root).report

/-- What becomes of a document that is walked. -/
def report (task : Task) (d : Document) : DocumentReport :=
  let steps := d.arena.walkSteps
  match task with
  | .outline settings =>
    { path := d.path
      outline := some
        (d.arena.outline settings (.silent : Receiver Float Unit) steps Arena.root ()).outline }
  | .search test =>
    { path := d.path
      found := some (d.arena.search test steps Arena.root).memory.toList }
  | .count _ => { path := d.path }

/-- What has been counted with a document that is walked. -/
def tally (task : Task) (t : Tally) (d : Document) : Tally :=
  match task with
  | .count nulls => (t.record d.arena nulls d.arena.walkSteps Arena.root).memory
  | _ => t

/-- What becomes of a document that is not walked, as the survey has been stopped. An outline has no
lines and says that it was stopped; there are no matches. -/
def passedOver (task : Task) (path : String) : DocumentReport :=
  match task with
  | .outline _ => { path, outline := some ⟨#[], { visited := 1, skipped := 1 }, true⟩ }
  | _ => { path }

/-- What happens on the walk over such a document. -/
def glance : Task → WalkReport
  | .outline _ => { visited := 1, skipped := 1 }
  | _ => {}

end Task

variable {α : Type} [Quantity α] {s : State α} {c flag : Nat} {raised : Bool}

/-- The tally does not matter for what happens on the walk. -/
theorem report_record (t t' : Tally) (a : Arena) (nulls : Bool) (steps : Nat) (root : NodeId) :
    (t.record a nulls steps root).report = (t'.record a nulls steps root).report := by
  have hv : Visitor.Alike (fun _ _ => True) Tally.visitor Tally.visitor :=
    ⟨fun _ _ _ _ _ => ⟨rfl, trivial⟩, fun _ _ _ _ _ => trivial⟩
  have hrelated : (fun _ _ => True) t t' := trivial
  exact (Walk.walk_lockstep hv a nulls steps root hrelated).1

/-- The state after a document and what happens on the walk over it, by whether the survey has been
stopped; the reports on the document have led to the network `net`. -/
def State.met (s : State α) (net : Network α) (task : Task) (d : Document) :
    Bool → State α × WalkReport
  | true =>
    ({ s with network := net, reports := s.reports.push (task.passedOver d.path) }, task.glance)
  | false =>
    ({ s with
        network := net
        tally := task.tally s.tally d
        reports := s.reports.push (task.report d) },
      task.walk d)

/-- **What becomes of a document** depends on the flag, and otherwise on the document alone. Its
reports leave the network as it was wired. -/
theorem visit_watched (task : Task) (d : Document) (h : s.network.Watched c flag raised) (i : Nat) :
    ∃ net, s.network.Steady net ∧ visit task (.part c i) d s = s.met net task d raised := by
  have htell (s : State α) : s.network.Steady (s.tell (.part c i) .done).network :=
    Progress.steady_receive .done s.network (.part c i)
  cases task with
  | outline settings =>
    have hsteady : s.network.Steady (d.arena.outline settings (Sink.part c i).receiver
        d.arena.walkSteps Arena.root s.network).progress :=
      d.arena.outline_progress settings _ _ (P := s.network.Steady)
        (fun report net hnet => hnet.trans (Progress.steady_receive report net _)) (.refl _)
    refine ⟨_, hsteady, ?_⟩
    cases raised with
    | true =>
      have hcanceled : (Sink.part c i).receiver.isCanceled ((Sink.part c i).receiver.receive
          (.total (Quantity.ofNat d.arena.size)) s.network) = true :=
        (h.steady (Progress.steady_receive _ _ _)).isCanceled i
      have hstopped := d.arena.outline_stopped settings d.arena.walkSteps Arena.root hcanceled
        d.arena.walkSteps_pos
      simp only [visit, hstopped]
      rfl
    | false =>
      have hsilent : Outline.NeverCancels (.silent : Receiver Float Unit) () := fun _ => rfl
      have hquiet := d.arena.outline_quiet settings d.arena.walkSteps Arena.root
        (h.neverCancels i) hsilent
      simp only [visit, hquiet]
      rfl
  | search test =>
    refine ⟨_, htell s, ?_⟩
    simp only [visit, h.isCanceled i]
    cases raised <;> rfl
  | count nulls =>
    refine ⟨_, htell s, ?_⟩
    simp only [visit, h.isCanceled i]
    cases raised with
    | true => rfl
    | false =>
      simp only [State.met, Task.walk,
        report_record {} s.tally d.arena nulls d.arena.walkSteps Arena.root]
      rfl

/-! ### All documents -/

namespace Task

/-- Were the kinds of all nodes known that are reached on a walk over the document? One that could
not be read is not walked. -/
def isClean (task : Task) (x : String × Except Error Document) : Bool :=
  match x.2 with
  | .ok d => (task.walk d).isClean
  | .error _ => true

/-- What becomes of a document, by whether the survey has been stopped. -/
def outcome (task : Task) (raised : Bool) (x : String × Except Error Document) : DocumentReport :=
  match x.2 with
  | .ok d => if raised then task.passedOver d.path else task.report d
  | .error e => .failed x.1 e.message

/-- What has been counted after a document, by whether the survey has been stopped. -/
def counted (task : Task) (raised : Bool) (t : Tally) (x : String × Except Error Document) :
    Tally :=
  match x.2 with
  | .ok d => if raised then t else task.tally t d
  | .error _ => t

/-- What becomes of some documents if the survey stops at unclean ones or does not, and has been
stopped before or has not. -/
def outcomes (task : Task) (stop : Bool) :
    Bool → List (String × Except Error Document) → List DocumentReport
  | _, [] => []
  | raised, x :: xs =>
    task.outcome raised x :: outcomes task stop (raised || (stop && !task.isClean x)) xs

/-- What has been counted after these documents. -/
def countedAll (task : Task) (stop : Bool) :
    Bool → Tally → List (String × Except Error Document) → Tally
  | _, t, [] => t
  | raised, t, x :: xs =>
    countedAll task stop (raised || (stop && !task.isClean x)) (task.counted raised t x) xs

end Task

/-- The document of an item. -/
def Item.document (item : Item α) : String × Except Error Document :=
  (item.path, item.content.map Prod.fst)

/-- The sink of the item, if there is one, is a part of composite `c`. -/
def Item.PartOf (c : Nat) (item : Item α) : Prop :=
  ∀ d sink, item.content = .ok (d, sink) → ∃ i, sink = .part c i

/-- Taking account of a walk raises the flag if it is to, and else changes no report and no
count. -/
theorem account_watched (stop : Bool) (h : s.network.Watched c flag raised) (walk : WalkReport) :
    (s.account (if stop then some flag else none) walk).reports = s.reports ∧
    (s.account (if stop then some flag else none) walk).tally = s.tally ∧
    (s.account (if stop then some flag else none) walk).network.Watched c flag
      (raised || (stop && !walk.isClean)) := by
  unfold State.account
  cases hc : walk.isClean with
  | true =>
    rw [Bool.not_true, Bool.and_false, Bool.or_false]
    exact ⟨rfl, rfl, h⟩
  | false =>
    cases stop with
    | true =>
      rw [Bool.not_false, Bool.and_true, Bool.or_true]
      exact ⟨rfl, rfl, h.raise⟩
    | false =>
      rw [Bool.false_and, Bool.or_false]
      exact ⟨rfl, rfl, h⟩

/-- A step with a document that has been read is a visit of it, whether or not the survey is to
stop. -/
theorem step_loaded (task : Task) (path : String) (d : Document)
    (h : s.network.Watched c flag raised) (i : Nat) :
    ∃ net, net.Watched c flag raised ∧ ∀ stop : Option Nat,
      step task stop s ⟨path, .ok (d, .part c i)⟩ =
        (s.met net task d raised).1.account stop (s.met net task d raised).2 := by
  have htold := h.steady (Progress.steady_receive (.title (Files.fileName d.path)) _ (.part c i))
  obtain ⟨net, hnet, hvisit⟩ := visit_watched (s := s.tell (.part c i) _) task d htold i
  refine ⟨net, htold.steady hnet, fun stop => ?_⟩
  simp only [step, hvisit]
  cases raised <;> rfl

/-- **One step of the survey** does what is to be done with a document, by whether the survey has
been stopped, and stops it if it is to. -/
theorem step_watched (task : Task) (stop : Bool) (h : s.network.Watched c flag raised)
    {item : Item α} (hitem : item.PartOf c) :
    (step task (if stop then some flag else none) s item).reports =
      s.reports.push (task.outcome raised item.document) ∧
    (step task (if stop then some flag else none) s item).tally =
      task.counted raised s.tally item.document ∧
    (step task (if stop then some flag else none) s item).network.Watched c flag
      (raised || (stop && !task.isClean item.document)) := by
  obtain ⟨path, content⟩ := item
  cases content with
  | error e =>
    have hclean : task.isClean (Item.document (α := α) ⟨path, .error e⟩) = true := rfl
    rw [hclean, Bool.not_true, Bool.and_false, Bool.or_false]
    exact ⟨rfl, rfl, h⟩
  | ok r =>
    obtain ⟨d, sink⟩ := r
    obtain ⟨i, rfl⟩ := hitem d sink rfl
    obtain ⟨net, hwatched, hstep⟩ := step_loaded task path d h i
    rw [hstep]
    cases raised with
    | true => exact account_watched (s := (s.met net task d true).1) stop hwatched task.glance
    | false => exact account_watched (s := (s.met net task d false).1) stop hwatched (task.walk d)

/-- **All steps of a survey.** -/
theorem steps_watched (task : Task) (stop : Bool) {items : List (Item α)}
    (hitems : ∀ item ∈ items, item.PartOf c) (h : s.network.Watched c flag raised) :
    (items.foldl (step task (if stop then some flag else none)) s).reports.toList =
      s.reports.toList ++ task.outcomes stop raised (items.map Item.document) ∧
    (items.foldl (step task (if stop then some flag else none)) s).tally =
      task.countedAll stop raised s.tally (items.map Item.document) := by
  induction items generalizing s raised with
  | nil => exact ⟨(List.append_nil _).symm, rfl⟩
  | cons item items ih =>
    obtain ⟨hitem, hitems⟩ := List.forall_mem_cons.mp hitems
    obtain ⟨hreports, htally, hafter⟩ := step_watched task stop h hitem
    obtain ⟨hreports', htally'⟩ := ih hitems hafter
    rw [List.foldl_cons, List.map_cons, Task.outcomes, Task.countedAll, hreports', htally',
      hreports, htally, Array.toList_push, List.append_assoc]
    exact ⟨rfl, rfl⟩

/-- As long as the documents are clean, it makes no difference whether the survey is to stop. -/
theorem steps_clean (task : Task) {items : List (Item α)} (hitems : ∀ item ∈ items, item.PartOf c)
    (h : s.network.Watched c flag false)
    (hclean : ∀ item ∈ items, task.isClean item.document = true) :
    items.foldl (step task (some flag)) s = items.foldl (step task none) s := by
  induction items generalizing s with
  | nil => rfl
  | cons item items ih =>
    obtain ⟨hitem, hitems⟩ := List.forall_mem_cons.mp hitems
    obtain ⟨hfirst, hclean⟩ := List.forall_mem_cons.mp hclean
    have hstep : step task (some flag) s item = step task none s item := by
      obtain ⟨path, content⟩ := item
      cases content with
      | error e => rfl
      | ok r =>
        obtain ⟨d, sink⟩ := r
        obtain ⟨i, rfl⟩ := hitem d sink rfl
        obtain ⟨net, -, hstep⟩ := step_loaded task path d h i
        have hwalk : (task.walk d).isClean = true := hfirst
        simp only [hstep, State.met, State.account, hwalk, if_true]
    rw [List.foldl_cons, List.foldl_cons, hstep]
    obtain ⟨-, -, hafter⟩ := step_watched task false h hitem
    rw [Bool.false_and, Bool.or_false] at hafter
    exact ih hitems hafter hclean

/-! ### The survey -/

/-- The pieces are the documents, in their order, and they are parts of one composite. -/
theorem addPieces_items (c : Nat) (net : Network α)
    (documents : List (String × Except Error Document)) :
    net.Steady (addPieces c net documents).1 ∧
    (addPieces c net documents).2.map Item.document = documents ∧
    ∀ item ∈ (addPieces c net documents).2, item.PartOf c := by
  induction documents generalizing net with
  | nil => exact ⟨.refl net, rfl, List.forall_mem_nil _⟩
  | cons x documents ih =>
    obtain ⟨path, content⟩ := x
    cases content with
    | error e =>
      obtain ⟨hsteady, hdocuments, hitems⟩ := ih net
      exact ⟨hsteady, congrArg (_ :: ·) hdocuments,
        List.forall_mem_cons.mpr ⟨(fun _ _ h => nomatch h), hitems⟩⟩
    | ok d =>
      obtain ⟨hsteady, hdocuments, hitems⟩ := ih (net.addPart c (Quantity.ofNat d.bytes)).1
      refine ⟨(Network.Steady.addPart net c _).trans hsteady, congrArg (_ :: ·) hdocuments,
        List.forall_mem_cons.mpr ⟨fun d' sink h => ?_, hitems⟩⟩
      cases h
      exact ⟨_, rfl⟩

/-- Before the first step, the composite asks the flag, which is not raised. -/
theorem survey_start (screen : Option Screen) (documents : List (String × Except Error Document)) :
    ∃ (net : Network α) (items : List (Item α)) (c flag : Nat),
      (∀ task failFast, survey task failFast screen documents =
        items.foldl (step task (if failFast then some flag else none)) { network := net }) ∧
      items.map Item.document = documents ∧ (∀ item ∈ items, item.PartOf c) ∧
      net.Watched c flag false := by
  have hroot : ∃ net sink, root screen = (net, sink, 0) ∧ net.flags = #[false] ∧
      (sink.core = .relay (.flag 0) none ∨
        ∃ screen, sink.core = (.relay (.bar .fresh screen 0) none : Sink α)) := by
    cases screen with
    | none => exact ⟨_, _, rfl, rfl, .inl rfl⟩
    | some screen => exact ⟨_, _, rfl, rfl, .inr ⟨0, rfl⟩⟩
  obtain ⟨net, sink, hroot, hflags, hcore⟩ := hroot
  obtain ⟨-, hindex, hflags', -, ⟨sink', hs', hcore'⟩, -⟩ := net.addComposite_wiring sink
  have hwatched : (net.addComposite sink).1.Watched (net.addComposite sink).2 0 false := by
    refine ⟨⟨sink', hindex ▸ hs', hcore' ▸ hcore⟩, ?_⟩
    rw [hflags', hflags]
    rfl
  obtain ⟨hsteady, hdocuments, hitems⟩ :=
    addPieces_items (net.addComposite sink).2 (net.addComposite sink).1 documents
  refine ⟨_, _, _, 0, fun task failFast => ?_, hdocuments, hitems, hwatched.steady hsteady⟩
  simp only [survey, hroot]

/-- **What a survey comes to**, told without the progress that is reported. -/
theorem survey_eq (task : Task) (failFast : Bool) (screen : Option Screen)
    (documents : List (String × Except Error Document)) :
    (survey task failFast screen documents : State α).reports.toList =
      task.outcomes failFast false documents ∧
    (survey task failFast screen documents : State α).tally =
      task.countedAll failFast false {} documents := by
  obtain ⟨net, items, c, flag, hsurvey, rfl, hitems, hwatched⟩ :=
    survey_start (α := α) screen documents
  rw [hsurvey]
  obtain ⟨hreports, htally⟩ :=
    steps_watched (s := { network := net }) task failFast hitems hwatched
  exact ⟨hreports.trans (List.nil_append _), htally⟩

namespace Task

variable (task : Task) {documents : List (String × Except Error Document)}

/-- A survey that is stopped stays stopped, and one that need not stop goes on. -/
theorem outcomes_steady (stop raised : Bool) (h : stop = true → raised = true)
    (documents : List (String × Except Error Document)) :
    task.outcomes stop raised documents = documents.map (task.outcome raised) := by
  induction documents with
  | nil => rfl
  | cons x documents ih =>
    have hraised : (raised || (stop && !task.isClean x)) = raised := by
      cases stop with
      | true => rw [h rfl, Bool.true_or]
      | false => rw [Bool.false_and, Bool.or_false]
    rw [outcomes, hraised, ih, List.map_cons]

/-- In any case each document has its own report. -/
theorem getElem?_outcomes (stop raised : Bool) (documents : List (String × Except Error Document))
    (j : Nat) :
    ∃ raised', (task.outcomes stop raised documents)[j]? =
      (documents[j]?).map (task.outcome raised') := by
  induction documents generalizing raised j with
  | nil => exact ⟨raised, rfl⟩
  | cons x documents ih =>
    cases j with
    | zero => exact ⟨raised, rfl⟩
    | succ j => exact ih _ j

theorem countedAll_raised (stop : Bool) (t : Tally)
    (documents : List (String × Except Error Document)) :
    task.countedAll stop true t documents = t := by
  induction documents with
  | nil => rfl
  | cons x documents ih =>
    have hcounted : task.counted true t x = t := by
      unfold counted
      cases x.2 <;> rfl
    rw [countedAll, hcounted, Bool.true_or, ih]

variable {pre post : List (String × Except Error Document)} {x : String × Except Error Document}

/-- Up to the first unclean document, this one included, all is as without a stop; then nothing is
walked. -/
theorem outcomes_split (hpre : ∀ y ∈ pre, task.isClean y = true) (hx : task.isClean x = false) :
    task.outcomes true false (pre ++ x :: post) =
      (pre ++ [x]).map (task.outcome false) ++ post.map (task.outcome true) := by
  induction pre with
  | nil =>
    rw [List.nil_append, outcomes, hx, Bool.not_false, Bool.and_true, Bool.or_true,
      outcomes_steady task true true id]
    rfl
  | cons y pre ih =>
    obtain ⟨hy, hpre⟩ := List.forall_mem_cons.mp hpre
    rw [List.cons_append, outcomes, hy, Bool.not_true, Bool.and_false, Bool.or_false, ih hpre]
    rfl

/-- Of two documents that are both unclean, the second one is not walked. -/
example :
    let quirk : Arena := Arena.empty.add (.unknown "Quirk")
    ((Task.outline {}).outcomes true false
      [("a", .ok ⟨"a", 0, quirk⟩), ("b", .ok ⟨"b", 0, quirk⟩)]).map
        (fun r => r.outline.map (·.canceled)) = [some false, some true] := by
  decide

theorem countedAll_split (hpre : ∀ y ∈ pre, task.isClean y = true) (hx : task.isClean x = false)
    (t : Tally) :
    task.countedAll true false t (pre ++ x :: post) =
      task.countedAll false false t (pre ++ [x]) := by
  induction pre generalizing t with
  | nil =>
    rw [List.nil_append, List.nil_append, countedAll, countedAll, hx, Bool.not_false, Bool.and_true,
      Bool.or_true, countedAll_raised]
    rfl
  | cons y pre ih =>
    obtain ⟨hy, hpre⟩ := List.forall_mem_cons.mp hpre
    rw [List.cons_append, List.cons_append, countedAll, countedAll, hy, Bool.not_true,
      Bool.and_false, Bool.or_false, ih hpre]
    rfl

end Task

/-! ### Documents that were found -/

theorem load_path {here : Files.Place} {path : String} {d : Document}
    (h : Document.load here path = .ok d) : d.path = path := by
  unfold Document.load at h
  cases htext : Document.readText here path with
  | error e =>
    rw [htext] at h
    cases h
  | ok text =>
    rw [htext] at h
    have htext : Document.ofText path text = .ok d := h
    unfold Document.ofText at htext
    split at htext
    · cases htext
    · split at htext
      · cases htext
      · cases htext
        rfl

/-- The documents that some paths lead to, each with its path. -/
theorem zip_loadAll (here : Files.Place) (paths : List String) :
    paths.zip (Document.loadAll here paths) =
      paths.map fun path => (path, Document.load here path) := by
  have hzip := List.zip_map' (f := id) (g := Document.load here) (l := paths)
  rw [List.map_id] at hzip
  exact hzip

/-- Why a document cannot be read, if it cannot. -/
def failure? (here : Files.Place) (path : String) : Option String :=
  match Document.load here path with
  | .ok _ => none
  | .error e => some e.message

/-- There is one report for each path, and it carries an error if the document could not be read. -/
theorem outcomes_paths (task : Task) (stop raised : Bool) (here : Files.Place)
    (paths : List String) :
    (task.outcomes stop raised (paths.map fun path => (path, Document.load here path))).map
        (fun r => (r.path, r.error)) = paths.map fun path => (path, failure? here path) := by
  induction paths generalizing raised with
  | nil => rfl
  | cons path paths ih =>
    have hfirst : ((task.outcome raised (path, Document.load here path)).path,
        (task.outcome raised (path, Document.load here path)).error) =
          (path, failure? here path) := by
      unfold Task.outcome failure?
      cases hload : Document.load here path with
      | error e => rfl
      | ok d =>
        obtain rfl := load_path hload
        cases raised <;> cases task <;> rfl
    rw [List.map_cons, List.map_cons, Task.outcomes, List.map_cons, hfirst, ih]

/-- If no document is unclean, it makes no difference whether the survey is to stop. -/
theorem survey_clean (task : Task) (screen : Option Screen)
    {documents : List (String × Except Error Document)}
    (hclean : ∀ x ∈ documents, task.isClean x = true) :
    (survey task true screen documents : State α) = survey task false screen documents := by
  obtain ⟨net, items, c, flag, hsurvey, rfl, hitems, hwatched⟩ :=
    survey_start (α := α) screen documents
  rw [hsurvey, hsurvey]
  exact steps_clean (s := { network := net }) task hitems hwatched
    fun item hitem => hclean _ (List.mem_map_of_mem hitem)

/-- A document that could not be read is reported in its place, in any case. -/
theorem report_failed (task : Task) (failFast : Bool) (screen : Option Screen)
    {documents : List (String × Except Error Document)} {j : Nat} {path : String} {e : Error}
    (hj : documents[j]? = some (path, .error e)) :
    (survey task failFast screen documents : State α).reports.toList[j]? =
      some (.failed path e.message) := by
  obtain ⟨raised, houtcome⟩ := task.getElem?_outcomes failFast false documents j
  rw [(survey_eq task failFast screen documents).1, houtcome, hj]
  rfl

/-- Some documents are split at the first unclean one. -/
theorem split_first {task : Task} {documents : List (String × Except Error Document)} {k : Nat}
    {x : String × Except Error Document} (hx : documents[k]? = some x)
    (hbefore : ∀ j < k, ∀ y, documents[j]? = some y → task.isClean y = true) :
    ∃ pre post, documents = pre ++ x :: post ∧ pre.length = k ∧
      documents.take (k + 1) = pre ++ [x] ∧ ∀ y ∈ pre, task.isClean y = true := by
  obtain ⟨hk, rfl⟩ := List.getElem?_eq_some_iff.mp hx
  refine ⟨documents.take k, documents.drop (k + 1), ?_, ?_, ?_, fun y hy => ?_⟩
  · rw [← List.drop_eq_getElem_cons hk, List.take_append_drop]
  · exact List.length_take_of_le (Nat.le_of_lt hk)
  · rw [List.take_append_getElem hk]
  · obtain ⟨j, hj, rfl⟩ := List.mem_take_iff_getElem.mp hy
    exact hbefore j (Nat.lt_of_lt_of_le hj (Nat.min_le_left _ _)) _ (List.getElem?_eq_getElem _)

/-- The first unclean document is reported as all before it are; those after it are not walked. -/
theorem survey_unclean (task : Task) (screen : Option Screen)
    {pre : List (String × Except Error Document)} {x : String × Except Error Document}
    (hpre : ∀ y ∈ pre, task.isClean y = true) (hx : task.isClean x = false)
    (post : List (String × Except Error Document)) :
    (survey task true screen (pre ++ x :: post) : State α).reports.toList.take (pre.length + 1) =
      (survey task false screen (pre ++ x :: post) : State α).reports.toList.take
        (pre.length + 1) ∧
    (∀ j d path, (pre ++ x :: post)[j]? = some (path, .ok d) → pre.length < j →
      (survey task true screen (pre ++ x :: post) : State α).reports.toList[j]? =
        some (task.passedOver d.path)) ∧
    (survey task true screen (pre ++ x :: post) : State α).tally =
      (survey task false screen (pre ++ [x]) : State α).tally := by
  obtain ⟨hquick, hquickTally⟩ := survey_eq (α := α) task true screen (pre ++ x :: post)
  obtain ⟨hfull, -⟩ := survey_eq (α := α) task false screen (pre ++ x :: post)
  obtain ⟨-, hshort⟩ := survey_eq (α := α) task false screen (pre ++ [x])
  have hlength : ((pre ++ [x]).map (task.outcome false)).length = pre.length + 1 := by
    rw [List.length_map, List.length_append, List.length_singleton]
  rw [task.outcomes_split hpre hx] at hquick
  rw [task.outcomes_steady false false id, List.append_cons, List.map_append] at hfull
  refine ⟨?_, fun j d path hj hlt => ?_, ?_⟩
  · rw [List.append_cons, hfull, ← List.append_cons, hquick, List.take_left' hlength,
      List.take_left' hlength]
  · have hfirst : (pre ++ [x]).length = pre.length + 1 := by
      rw [List.length_append, List.length_singleton]
    rw [List.append_cons, List.getElem?_append_right (hfirst ▸ hlt), hfirst] at hj
    rw [hquick, List.getElem?_append_right (hlength ▸ hlt), hlength, List.getElem?_map, hj]
    rfl
  · rw [hquickTally, hshort, task.countedAll_split hpre hx]

end Survey

open Survey Files CommandLine in
/-- If no document is unclean, a run does the same whether or not it is to stop. -/
theorem CommandLine.perform_clean (here : Place) (c : Console) (o : Options)
    (hclean : ∀ paths task, discover here o.search o.paths = .ok paths → o.task = .ok task →
      ∀ x ∈ paths.zip (Document.loadAll here paths), task.isClean x = true) :
    perform here c { o with failFast := true } = perform here c { o with failFast := false } := by
  have hsearch (failFast : Bool) : Options.search { o with failFast } = o.search := rfl
  have htask (failFast : Bool) : Options.task { o with failFast } = o.task := rfl
  have hscreen (failFast : Bool) : barScreen? c { o with failFast } = barScreen? c o := rfl
  simp only [perform, hsearch, htask, hscreen]
  cases hpaths : discover here o.search o.paths with
  | error e => rfl
  | ok paths =>
    cases ho : o.task with
    | error e => rfl
    | ok task =>
      simp only [survey_clean (α := Float) task (barScreen? c o) (hclean paths task hpaths ho)]
      rfl

open Survey Files CommandLine in
/-- **What it changes to stop at the first unclean document.** A survey of documents that were found
has a report for each path, in the order of the paths, with an error if and only if the document
could not be read; so it is whether or not the survey is to stop.

Up to the first unclean document the reports are the same then. No later document is walked, and
nothing is counted after the unclean one. If there is no such document, a run writes the same and
ends with the same code. -/
theorem survey_fail_fast (here : Place) :
    (∀ (paths : List String) (task : Task) (screen : Option Screen),
      let documents := paths.zip (Document.loadAll here paths)
      let quick : Survey.State Float := survey task true screen documents
      let full : Survey.State Float := survey task false screen documents
      (∀ s, s = quick ∨ s = full → s.reports.toList.map (fun r => (r.path, r.error)) =
        paths.map fun path => (path, failure? here path)) ∧
      (∀ k x, documents[k]? = some x → task.isClean x = false →
        (∀ j < k, ∀ y, documents[j]? = some y → task.isClean y = true) →
        quick.reports.toList.take (k + 1) = full.reports.toList.take (k + 1) ∧
        (∀ (j : Nat) (path : String) (d : Document), k < j → documents[j]? = some (path, .ok d) →
          quick.reports.toList[j]? = some (task.passedOver path)) ∧
        (∀ (j : Nat) (path : String) (e : Error), documents[j]? = some (path, .error e) →
          quick.reports.toList[j]? = some (.failed path e.message)) ∧
        quick.tally =
          (survey task false screen (documents.take (k + 1)) : Survey.State Float).tally) ∧
      ((∀ x ∈ documents, task.isClean x = true) → quick = full)) ∧
    ∀ (c : Console) (o : Options),
      (∀ paths task, discover here o.search o.paths = .ok paths → o.task = .ok task →
        ∀ x ∈ paths.zip (Document.loadAll here paths), task.isClean x = true) →
      perform here c { o with failFast := true } = perform here c { o with failFast := false } := by
  refine ⟨fun paths task screen => ⟨fun s hs => ?_, fun k x hx hunclean hbefore => ?_,
    survey_clean task screen⟩, perform_clean here⟩
  · rcases hs with rfl | rfl <;> rw [(survey_eq task _ screen _).1, zip_loadAll, outcomes_paths]
  · have hloaded : ∀ y ∈ paths.zip (Document.loadAll here paths),
        y = (y.1, Document.load here y.1) := by
      rw [zip_loadAll]
      exact List.forall_mem_map.mpr fun path _ => rfl
    generalize paths.zip (Document.loadAll here paths) = documents at *
    obtain ⟨pre, post, rfl, rfl, htake, hpre⟩ := split_first hx hbefore
    obtain ⟨hfirst, hlater, htally⟩ := survey_unclean (α := Float) task screen hpre hunclean post
    refine ⟨hfirst, fun j path d hlt hj => ?_, fun j path e hj => report_failed task true screen hj,
      htake ▸ htally⟩
    obtain ⟨-, hload⟩ := Prod.mk.inj (hloaded _ (List.mem_of_getElem? hj))
    rw [hlater j d path hj hlt, load_path hload.symm]

end Estree
