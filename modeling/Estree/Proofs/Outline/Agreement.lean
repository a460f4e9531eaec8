import Estree.Proofs.Outline.Quiet
import Estree.Proofs.Stats.Counting
import Estree.Proofs.Walk.OpenPath
import Estree.Proofs.Walk.Reparented
import Estree.Search

/-!
# Outlines, figures and searches agree

An outline, the figures of a document and a search are made by visitors that know how deep they are
in three ways: one keeps a frame for each open node, one counts, and one climbs from parent to
parent. On a document they say the same. What the figures and the search tell can be read off the
outline alone, where the node that an entry is in is the nearest one before it at the depth above.

* `Outline.nearest`, `Outline.matching`: how an outline is read;
* `told_outline`: the entries are what the visitor has been shown;
* `told_search`: the finds are the entries with a matching label, each with its way down;
* `consumers_agree`: the three agree, also if the document has been walked before.
-/

namespace Estree

open Progress (Quantity Receiver)
open Walk (Call Along Continues told visits kinds depths logging)

namespace Outline

/-! ### Reading an outline -/

/-- The last of these entries at the given depth. -/
def nearest (earlier : List Entry) (depth : Nat) : Option Entry :=
  earlier.reverse.find? fun e => e.depth = depth

/-- The kinds of the last entries at each depth down to `depth`, from the root on. -/
def trail (earlier : List Entry) (depth : Nat) : List (Option Kind) :=
  (List.range depth).map fun d => (nearest earlier d).map Entry.kind

/-- The entries after `earlier` whose label passes the test: the kind, the label, and the kinds of
the nearest entries before it at the depths above. -/
def matching (test : String → Bool) (earlier : List Entry) :
    List Entry → List (Kind × String × List (Option Kind))
  | [] => []
  | e :: rest =>
    ((e.label.filter test).map fun label => (e.kind, label, trail earlier e.depth)).toList
      ++ matching test (earlier ++ [e]) rest

theorem matching_append (test : String → Bool) (earlier entries later : List Entry) :
    matching test earlier (entries ++ later) =
      matching test earlier entries ++ matching test (earlier ++ entries) later := by
  induction entries generalizing earlier with
  | nil => simp [matching]
  | cons e entries ih => simp [matching, ih]

theorem nearest_append (earlier : List Entry) (e : Entry) (depth : Nat) :
    nearest (earlier ++ [e]) depth = if e.depth = depth then some e else nearest earlier depth := by
  rw [nearest, List.reverse_append, List.reverse_singleton, List.singleton_append, List.find?_cons]
  by_cases h : e.depth = depth <;> simp [h, nearest]

theorem trail_succ (earlier : List Entry) (depth : Nat) :
    trail earlier (depth + 1) =
      trail earlier depth ++ [(nearest earlier depth).map Entry.kind] := by
  rw [trail, List.range_succ, List.map_append]
  rfl

/-- An entry does not change the way down to itself. -/
theorem trail_append (earlier : List Entry) (e : Entry) :
    trail (earlier ++ [e]) e.depth = trail earlier e.depth := by
  refine List.map_congr_left fun d hd => ?_
  have hlt := List.mem_range.mp hd
  rw [nearest_append, if_neg (Nat.ne_of_gt hlt)]

/-! ### What the visitor of an outline is shown -/

section Entries

variable {α σ : Type} [Quantity α] {r : Receiver α σ} {nulls : Bool} {d : Draft σ}

/-- Nobody has asked to stop or ever will. -/
structure Draft.Running (r : Receiver α σ) (d : Draft σ) : Prop where
  canceled : d.canceled = false
  quiet : NeverCancels r d.progress

omit [Quantity α] in
theorem Draft.Running.left (h : d.Running r) : d.left.Running r := ⟨h.canceled, h.quiet⟩

theorem Draft.Running.arrive (h : d.Running r) (a : Arena) (id : NodeId)
    (hidden remaining : Nat) : (Outline.arrive r a id hidden remaining d).Running r :=
  ⟨h.canceled, h.quiet.record _⟩

/-- Where nothing is to be hidden, each node gets its entry. -/
theorem Draft.Running.before (h : d.Running r) (a : Arena) (id : NodeId) :
    (visitor { nulls } r).before a id d =
      (.descend, Outline.arrive r a id 0 (visible { nulls } a id).length d) := by
  rw [visitor_before h.canceled h.quiet, if_neg]
  rintro ⟨-, hhides⟩
  cases hhides

/-- Then the visitor answers as any visitor does that always descends. -/
theorem alike_visitor_of_continues (nulls : Bool) {τ : Type} {w : Visitor τ} (hw : Continues w) :
    (visitor { nulls } r).Alike (fun d _ => d.Running r) w where
  before a id d m h := by
    rw [h.before, hw a id m]
    exact ⟨rfl, h.arrive a id 0 _⟩
  after _ _ _ _ h := h.left

/-- The entry of a node that is shown. -/
theorem entries_arrive (a : Arena) (id : NodeId) (remaining : Nat) :
    (arrive r a id 0 remaining d).entries = d.entries.push (entryOf a id (countDown d.frames) 0) :=
  rfl

/-- **The entries are what the visitor has been shown**, each as deep as nodes are open. -/
theorem told_outline (nulls : Bool) (calls : List Call) (h : d.Running r) :
    let d' := told (visitor { nulls } r) d calls
    d'.canceled = false ∧
    d'.entries.toList.map Entry.depth =
      d.entries.toList.map Entry.depth ++ depths d.frames.length calls ∧
    d'.entries.toList.map Entry.kind = d.entries.toList.map Entry.kind ++ kinds calls := by
  induction calls generalizing d with
  | nil => exact ⟨h.canceled, (List.append_nil _).symm, (List.append_nil _).symm⟩
  | cons call calls ih =>
    cases call with
    | before a id =>
      obtain ⟨hc, hdepths, hkinds⟩ := ih (h.arrive a id 0 (visible { nulls } a id).length)
      rw [Walk.told_cons, Walk.tell_before, h.before]
      refine ⟨hc, ?_, ?_⟩
      · rw [hdepths, entries_arrive, Array.toList_push, List.map_append, List.append_assoc]
        simp [entryOf, depths, arrive, Draft.enter, length_countDown]
      · rw [hkinds, entries_arrive, Array.toList_push, List.map_append, List.append_assoc]
        rfl
    | after a id =>
      obtain ⟨hc, hdepths, hkinds⟩ := ih h.left
      have hframes : d.left.frames.length = d.frames.length - 1 := List.length_tail
      rw [hframes] at hdepths
      exact ⟨hc, hdepths, hkinds⟩

end Entries

end Outline

namespace Search

open Outline

/-- A find, in the form in which an outline tells of it. -/
def reading (f : Found) : Kind × String × List (Option Kind) := (f.kind, f.label, f.path.map some)

section Finds

variable {α σ : Type} [Quantity α] {r : Receiver α σ} {nulls : Bool} (test : String → Bool)
  {a b : Arena} {id : NodeId} {path : List NodeId} {earlier : List Entry}

/-- The way down to an open node is there to be read. -/
def Readable (a : Arena) (path : List NodeId) (earlier : List Entry) : Prop :=
  trail earlier path.length = (path.map fun id => some (a.kind id)).reverse

theorem Readable.left (h : Readable a (id :: path) earlier) : Readable a path earlier := by
  rw [Readable, List.length_cons, trail_succ, List.map_cons, List.reverse_cons] at h
  exact (List.append_inj' h rfl).1

theorem Readable.entered (h : Readable a path earlier) {e : Entry} (hdepth : e.depth = path.length)
    (hkind : e.kind = a.kind id) : Readable a (id :: path) (earlier ++ [e]) := by
  have hbefore : trail (earlier ++ [e]) path.length = trail earlier path.length := by
    rw [← hdepth, trail_append]
  rw [Readable, List.length_cons, trail_succ, hbefore, h, List.map_cons, List.reverse_cons,
    nearest_append, if_pos hdepth, Option.map_some, hkind]

/-- **A node is found if its entry has a matching label**, and the way down to it is read off the
entries before it. -/
theorem found?_eq (hb : a.Alike b) (hclimb : b.Climbs id path) (h : Readable a path earlier)
    {e : Entry} (hdepth : e.depth = path.length) (hkind : e.kind = a.kind id)
    (hlabel : e.label = (a.node id).label) :
    ((found? test b id).map reading).toList = matching test earlier [e] := by
  have htrail : trail earlier e.depth = (((path.map b.kind).reverse).map some) := by
    rw [hdepth, h, List.map_reverse, List.map_map]
    congr 2
    funext x
    exact congrArg some (hb.kind x)
  rw [matching, matching, List.append_nil, htrail, hkind, hlabel, hb.kind, hb.label, found?,
    hclimb.ancestors_eq, Option.map_map]
  rfl

/-- **The finds are the entries with a matching label**, in their order. -/
theorem told_search (calls : List Call) {d : Draft σ} (hd : d.Running r)
    (hfaithful : Along Call.Faithful path calls) (hcalls : ∀ call ∈ calls, a.Alike call.arena)
    (hdepth : d.frames.length = path.length) (h : Readable a path d.entries.toList)
    (found : Array Found) :
    ∃ more, (told (Outline.visitor { nulls } r) d calls).entries.toList =
        d.entries.toList ++ more ∧
      (told (visitor test) found calls).toList.map reading =
        found.toList.map reading ++ matching test d.entries.toList more := by
  induction calls generalizing path d found with
  | nil => exact ⟨[], (List.append_nil _).symm, (List.append_nil _).symm⟩
  | cons call calls ih =>
    obtain ⟨hcall, hbelow⟩ := hfaithful
    obtain ⟨hb, hrest⟩ := List.forall_mem_cons.mp hcalls
    cases call with
    | after b id =>
      obtain ⟨above, rfl, -⟩ := hcall
      have hframes : d.left.frames.length = above.length := by
        rw [Draft.left, List.length_tail, hdepth, List.length_cons, Nat.add_sub_cancel]
      exact ih hd.left hbelow hrest hframes h.left found
    | before b id =>
      have hb : a.Alike b := hb
      let e := entryOf b id (countDown d.frames) 0
      have he : e.depth = path.length := (length_countDown d.frames).trans hdepth
      have hkind : e.kind = a.kind id := (hb.kind id).symm
      have hentries : (arrive r b id 0 (visible { nulls } b id).length d).entries.toList =
          d.entries.toList ++ [e] := Array.toList_push
      have hframes : (arrive r b id 0 (visible { nulls } b id).length d).frames.length =
          (id :: path).length := by
        rw [List.length_cons, ← he]
        rfl
      obtain ⟨more, hmore, hfound⟩ := ih (hd.arrive b id 0 _) hbelow hrest hframes
        (hentries ▸ h.entered he hkind) (((found? test b id).map found.push).getD found)
      refine ⟨e :: more, ?_, ?_⟩
      · rw [Walk.told_cons, Walk.tell_before, hd.before, hmore, hentries, List.append_assoc]
        rfl
      · have hone := found?_eq test hb hcall h he hkind (hb.label id).symm
        have hpush : (((found? test b id).map found.push).getD found).toList.map reading =
            found.toList.map reading ++ ((found? test b id).map reading).toList := by
          cases found? test b id <;> simp
        have hsplit : matching test d.entries.toList (e :: more) =
            matching test d.entries.toList [e] ++ matching test (d.entries.toList ++ [e]) more :=
          matching_append test _ [e] more
        rw [hsplit, ← hone, ← List.append_assoc, ← hpush, ← hentries]
        exact hfound

end Finds

end Search

/-! ### On a document -/

/-- The figures are those of one document with this outline. -/
structure Stats.Describes (stats : Stats) (entries : List Outline.Entry) : Prop where
  documents : stats.documents = 1
  nodes : stats.nodes = entries.length
  maxDepth : (entries.map Outline.Entry.depth).max? = some stats.maxDepth
  unknown : stats.unknown = entries.countP fun e => e.kind.walkOrder.isNone
  nodup : (stats.byKind.map KindCount.kind).Nodup
  byKind : ∀ kind count, ⟨kind, count⟩ ∈ stats.byKind ↔
    0 < count ∧ entries.countP (fun e => e.kind.name = kind) = count

theorem max?_eq_foldl {l : List Nat} (h : l ≠ []) : l.max? = some (l.foldl max 0) := by
  cases l with
  | nil => exact absurd rfl h
  | cons n l => rw [List.max?_cons', List.foldl_cons, Nat.zero_max]

namespace Arena

open Outline

variable {α σ : Type} [Quantity α] {a b : Arena}

/-- The visitor of an outline does not look at parents. -/
theorem visitor_alikeOver (s : Settings) (r : Receiver α σ) :
    Visitor.AlikeOver Alike Eq (Outline.visitor s r) (Outline.visitor s r) where
  before := by
    rintro a b h id d _ rfl
    have hchildren : visibleChildren s a id = visibleChildren s b id := by
      unfold visibleChildren
      rw [h.childSlots]
    have hentry : entryOf a id = entryOf b id := by
      funext frames hidden
      unfold entryOf
      rw [h.kind, h.label, h.synthetic]
    have hbefore : (Outline.visitor s r).before a id d = (Outline.visitor s r).before b id d := by
      unfold Outline.visitor
      simp only [hchildren, hentry, h.kind]
    rw [hbefore]
    exact ⟨rfl, rfl⟩
  after := by
    rintro a b h id d _ rfl
    rfl

/-- **Trees that are alike have the same outline.** -/
theorem outline_congr (h : a.Alike b) (s : Settings) (r : Receiver α σ) (steps : Nat)
    (root : NodeId) (progress : σ) :
    (a.outline s r steps root progress).outline = (b.outline s r steps root progress).outline ∧
    (a.outline s r steps root progress).complete =
      (b.outline s r steps root progress).complete := by
  obtain ⟨hreport, hcomplete, hmemory⟩ := Walk.walk_congr lookalikes_alike (visitor_alikeOver s r) h
    s.nulls steps root
    (Eq.refl (⟨[], #[], false, r.receive (.total (Quantity.ofNat a.size)) progress⟩ : Draft σ))
  have hsize := h.1
  unfold outline
  simp only
  rw [← hsize, hreport, hmemory, hcomplete]
  exact ⟨rfl, rfl⟩

end Arena

open Outline Search

section Tree

variable {α σ : Type} [Quantity α] {r : Receiver α σ} {progress : σ} {a : Arena} {steps : Nat}

theorem Outline.blank_running (hq : NeverCancels r progress) : (blank r a progress).Running r :=
  ⟨rfl, hq.receive _⟩

/-- On a tree, an outline that shows all is a walk with any visitor that always descends. -/
theorem outline_of_continues (ha : a.IsTree) (hq : NeverCancels r progress) (nulls : Bool)
    (hsteps : a.walkSteps ≤ steps) {τ : Type} {w : Visitor τ} (hw : Continues w) (m : τ) :
    let outlined := a.outline { nulls } r steps Arena.root progress
    let walked := a.walk w nulls steps Arena.root m
    let calls := (a.walk (logging w) nulls steps Arena.root (m, [])).memory.2
    outlined.complete ∧ walked.complete ∧ outlined.outline.walk = walked.report ∧
    outlined.outline.entries =
      (told (visitor { nulls } r) (blank r a progress) calls).entries ∧
    walked.memory = told w m calls := by
  have hv := alike_visitor_of_continues (r := r) nulls hw
  have hcw := ha.complete_of_le w nulls m hsteps
  have hco := ha.complete_of_le (visitor { nulls } r) nulls (blank r a progress) hsteps
  have hstart : (fun d (_ : τ) => d.Running r) (blank r a progress) m := blank_running hq
  obtain ⟨hreport, -⟩ := Walk.walk_lockstep hv a nulls steps Arena.root hstart
  obtain ⟨hcalls, -⟩ := Walk.walk_same_calls hv a nulls steps Arena.root hstart
  refine ⟨hco, hcw, hreport, ?_, Walk.walk_memory_eq hcw⟩
  rw [← hcalls, ← Walk.walk_memory_eq hco]
  rfl

/-- On a tree, the figures are those of the outline. -/
theorem outline_stats (ha : a.IsTree) (hq : NeverCancels r progress) (nulls : Bool)
    (hsteps : a.walkSteps ≤ steps) :
    let outlined := a.outline { nulls } r steps Arena.root progress
    let tallied := Tally.record {} a nulls steps Arena.root
    (Stats.ofTally tallied.memory).Describes outlined.outline.entries.toList := by
  intro outlined tallied
  let entries := outlined.outline.entries.toList
  have hv : Continues Tally.visitor := fun _ _ _ => rfl
  obtain ⟨-, hc, -, hentries, hmemory⟩ := outline_of_continues ha hq nulls hsteps hv ({} : Tally)
  obtain ⟨calls, u, ht, hwalk⟩ := Walk.traverses_of_complete hc
  rw [Walk.logged_of_traverses hc ht] at hentries hmemory
  obtain ⟨-, hdepths, hkinds⟩ := told_outline nulls calls (blank_running (a := a) hq)
  rw [← hentries] at hdepths hkinds
  obtain ⟨hdocuments, hunknown, hnodes, hdepth, hcounts⟩ :=
    told_tally calls (t := {}) histogram_nil
  rw [← hmemory] at hdocuments hunknown hnodes hdepth hcounts
  have hdepths : entries.map Entry.depth = depths 0 calls := hdepths
  have hkinds : entries.map Entry.kind = kinds calls := hkinds
  have hlength : entries.length = (visits calls).length := by
    rw [← Walk.length_kinds, ← hkinds, List.length_map]
  have hcounts : Histogram tallied.memory.counts (entries.map fun e => e.kind.name) := by
    have hmap : (kinds calls).map Kind.name = entries.map fun e => e.kind.name := by
      rw [← hkinds, List.map_map]
      rfl
    rw [← hmap]
    exact hcounts
  refine ⟨congrArg (· + 1) hdocuments, ?_, ?_, ?_, Stats.nodup_byKind hcounts,
    fun kind count => ?_⟩
  · rw [hlength, ← Nat.zero_add (visits calls).length]
    exact hnodes
  · have hne : entries.map Entry.depth ≠ [] := by
      rw [ne_eq, List.map_eq_nil_iff, ← List.length_eq_zero_iff, hlength, List.length_eq_zero_iff]
      exact ht.visits_ne_nil
    rw [max?_eq_foldl hne, hdepths]
    exact congrArg some hdepth.symm
  · have hstuck := Walk.length_unknownKinds ht (fun hmem => nomatch List.mem_singleton.mp hmem) hv
    have hreport : u.report = tallied.report := (congrArg Walked.report hwalk).symm
    have hzero : (Walk.Scene.start a ({} : Tally)).report.unknownKinds.size = 0 := rfl
    rw [← hkinds, List.countP_map, hreport, hzero, Nat.zero_add] at hstuck
    have hadded : (Stats.ofTally tallied.memory).unknown =
        0 + tallied.report.unknownKinds.size :=
      congrArg (· + tallied.report.unknownKinds.size) hunknown
    rw [hadded, Nat.zero_add, hstuck]
    rfl
  · rw [Stats.mem_byKind_iff hcounts, List.count_eq_countP, List.countP_map]
    rfl

/-- On a tree, a search finds the entries of the outline with a matching label. -/
theorem outline_search (ha : a.IsTree) (hq : NeverCancels r progress)
    (hsteps : a.walkSteps ≤ steps) (test : String → Bool) :
    let outlined := a.outline {} r steps Arena.root progress
    let searched := a.search test steps Arena.root
    searched.complete ∧ searched.report = outlined.outline.walk ∧
    searched.memory.toList.map reading = matching test [] outlined.outline.entries.toList := by
  intro outlined searched
  have hv : Continues (Search.visitor test) := fun _ _ _ => rfl
  obtain ⟨-, hc, hreport, hentries, hmemory⟩ :=
    outline_of_continues ha hq false hsteps hv (#[] : Array Found)
  have hfaithful := ha.walkable.faithful hc
  obtain ⟨calls, u, ht, -⟩ := Walk.traverses_of_complete hc
  rw [Walk.logged_of_traverses hc ht] at hentries hmemory hfaithful
  obtain ⟨more, hmore, hfound⟩ := told_search test calls (blank_running (a := a) hq)
    hfaithful (ht.alike (.refl a)).2 rfl rfl #[]
  refine ⟨hc, hreport.symm, ?_⟩
  have hsearched : searched.memory = told (Search.visitor test) #[] calls := hmemory
  have houtlined : outlined.outline.entries.toList = more := by
    rw [hentries]
    exact hmore
  rw [hsearched, houtlined]
  exact hfound

end Tree

/-- **An outline, the figures and a search agree on every document.** They are made one by one, of
arenas that the document has become by any walks before. The outline shows all and is never asked to
stop. Then the figures are those of its entries, and with nulls passed over, a search finds the
entries with a matching label, each in the kinds of the entries around it. All walks are reported
alike. -/
theorem consumers_agree {α σ : Type} [Quantity α] {doc : Json.Value} (hdoc : doc.Normal)
    {a₀ a b c : Arena} (h : Arena.ofValue? doc = some a₀) (ha : a₀.Rewalked a) (hb : a₀.Rewalked b)
    (hc : a₀.Rewalked c) {r : Receiver α σ} {progress : σ} (hq : NeverCancels r progress)
    (nulls : Bool) {steps : Nat} (hsteps : a₀.walkSteps ≤ steps) :
    let outlined := a.outline { nulls } r steps Arena.root progress
    let tallied := Tally.record {} b nulls steps Arena.root
    let entries := outlined.outline.entries.toList
    outlined.complete ∧ tallied.complete ∧ outlined.outline.walk = tallied.report ∧
    (Stats.ofTally tallied.memory).Describes entries ∧
    (nulls = false → ∀ test,
      let searched := c.search test steps Arena.root
      searched.complete ∧ searched.report = outlined.outline.walk ∧
      searched.memory.toList.map reading = matching test [] entries) := by
  intro outlined tallied entries
  have htree := tree_of_ofValue? hdoc h
  have hv : Continues Tally.visitor := fun _ _ _ => rfl
  -- each of the arenas has the outline of any other
  have houtline {d : Arena} (hd : a₀.Rewalked d) :=
    Arena.outline_congr (ha.alike.symm.trans hd.alike) { nulls } r steps Arena.root progress
  have hbtree := htree.congr hb.alike
  have hbsteps : b.walkSteps ≤ steps := hb.alike.walkSteps ▸ hsteps
  obtain ⟨hcomplete, htallied, hreport, -, -⟩ :=
    outline_of_continues hbtree hq nulls hbsteps hv ({} : Tally)
  have hfigures : (Stats.ofTally tallied.memory).Describes
      (b.outline { nulls } r steps Arena.root progress).outline.entries.toList :=
    outline_stats hbtree hq nulls hbsteps
  obtain ⟨hab, habcomplete⟩ := houtline hb
  rw [← hab] at hreport hfigures
  refine ⟨habcomplete.trans hcomplete, htallied, hreport, hfigures, ?_⟩
  rintro rfl test
  have hcsteps : c.walkSteps ≤ steps := hc.alike.walkSteps ▸ hsteps
  obtain ⟨hcomplete, hreport, hfound⟩ :=
    outline_search (htree.congr hc.alike) hq hcsteps test
  obtain ⟨hac, -⟩ := houtline hc
  rw [← hac] at hreport hfound
  exact ⟨hcomplete, hreport, hfound⟩

/-- An expression that waits for a name. -/
def awaitName : Json.Value :=
  .object [("argument", .object [("name", .string "x"), ("type", .string "Identifier")]),
    ("type", .string "AwaitExpression")]

theorem awaitName_consumers_agree :
    awaitName.Normal ∧ NeverCancels silent () ∧ ∃ a b, Arena.ofValue? awaitName = some a ∧
      a.Rewalked b ∧ b.parent 1 = some 0 ∧
      (Stats.ofTally (Tally.record {} b false a.walkSteps Arena.root).memory).Describes
        (a.outline {} silent a.walkSteps Arena.root ()).outline.entries.toList ∧
      (b.search (· = "x") a.walkSteps Arena.root).memory.toList.map reading =
        [(.identifier, "x", [some .awaitExpression])] := by
  have hname :
      (Json.Value.object [("name", .string "x"), ("type", .string "Identifier")]).Normal := by
    refine .object ?_ ?_
    · unfold Dict.Sorted
      decide
    · exact List.forall_mem_cons.mpr ⟨.string _, List.forall_mem_singleton.mpr (.string _)⟩
  have hdoc : awaitName.Normal := by
    refine .object ?_ ?_
    · unfold Dict.Sorted
      decide
    · exact List.forall_mem_cons.mpr ⟨hname, List.forall_mem_singleton.mpr (.string _)⟩
  have hq : NeverCancels silent () := fun _ => rfl
  obtain ⟨a, ha⟩ : ∃ a, Arena.ofValue? awaitName = some a := ⟨_, rfl⟩
  have hc : (a.walk Walk.wanderer false a.walkSteps Arena.root ()).complete :=
    (tree_of_ofValue? hdoc ha).complete_of_le _ _ _ (Nat.le_refl _)
  have hb : a.Rewalked (a.walk Walk.wanderer false a.walkSteps Arena.root ()).arena :=
    .walk .refl _ _ _ _ _ hc
  obtain ⟨-, -, -, hfigures, hsearch⟩ :=
    consumers_agree hdoc ha .refl hb hb hq false (Nat.le_refl _)
  obtain ⟨-, -, hfound⟩ := hsearch rfl (· = "x")
  refine ⟨hdoc, hq, a, _, ha, hb, ?_, hfigures, hfound.trans ?_⟩
  · obtain rfl := Option.some.inj ha
    decide +kernel
  · obtain rfl := Option.some.inj ha
    decide +kernel

end Estree
