import Estree.Proofs.Arena.Rebuild
import Estree.Proofs.Arena.Tree
import Estree.Proofs.Stats.Counting
import Estree.Proofs.Walk.OpenPath
import Estree.Proofs.Walk.Reparented
import Mathlib.Algebra.BigOperators.Group.List.Lemmas
import Mathlib.Data.List.Dedup

/-!
# Figures of several documents

One tally goes from document to document. On each walk it is told of the nodes that are reached and
left, and it always descends, so the walk is the same whatever has been counted before. What is in
the tally after some documents can therefore be read off their walks, one by one.

The number of open nodes is the only thing in a tally that could make a difference for the next
document. A walk leaves what it has reached, so this number is back at zero after each of them.

* `Arena.tour`: the calls of a walk on which a visitor always descends;
* `Tally.Counts`: what has been counted on some walks, which one more document extends
  (`Tally.Counts.record`) and which leaves nothing open (`Tally.Counts.unique`);
* `Stats.Combines`, `Stats.Tidy`: figures that are put together from others, and what any figures
  look like;
* `Stats.documents_add_up`: the figures of some documents.
-/

namespace Estree

open Walk (Along Call Continues Traverses depths kinds logging opened shown told visits wanderer)

/-! ### Documents -/

namespace Arena

variable {a b : Arena}

/-- The kind of each node can be told from its tag. -/
def Tagged (a : Arena) : Prop := ∀ id, Kind.ofName (a.kind id).name = a.kind id

theorem tagged_of_ofValue? {doc : Json.Value} (hdoc : doc.Normal)
    (h : Arena.ofValue? doc = some a) : a.Tagged := by
  intro id
  obtain ⟨src, -, hsound, -⟩ := sound_of_ofValue? hdoc h
  rcases Nat.lt_or_ge id src.length with hlt | hge
  · rw [hsound.kind id _ (List.getElem?_eq_getElem hlt), kindOfMembers, Kind.name_ofName]
  · rw [kind, node_of_le (hsound.size ▸ hge)]
    rfl

/-- The arena is what some walks have made of the arena of a document. -/
def Loaded (a : Arena) : Prop :=
  ∃ doc a₀, doc.Normal ∧ Arena.ofValue? doc = some a₀ ∧ a₀.Rewalked a

theorem Loaded.isTree (h : a.Loaded) : a.IsTree := by
  obtain ⟨doc, a₀, hdoc, ha₀, hwalked⟩ := h
  exact (tree_of_ofValue? hdoc ha₀).congr hwalked.alike

theorem Loaded.tagged (h : a.Loaded) : a.Tagged := by
  obtain ⟨doc, a₀, hdoc, ha₀, hwalked⟩ := h
  intro id
  rw [← hwalked.alike.kind]
  exact tagged_of_ofValue? hdoc ha₀ id

/-- The calls of a walk from the root on which the visitor always descends. -/
def tour (a : Arena) (nulls : Bool) : List Call :=
  (a.walk (logging wanderer) nulls a.walkSteps root ((), [])).memory.2

section Tour

variable {σ : Type} {v : Visitor σ} (nulls : Bool) (m : σ)

/-- A visitor that always descends gets these calls. -/
theorem tour_eq (hv : Continues v) :
    (a.walk (logging v) nulls a.walkSteps root (m, [])).memory.2 = a.tour nulls := by
  have halike : Visitor.Alike (fun _ _ => True) v wanderer :=
    ⟨fun b id m m' _ => ⟨hv b id m, trivial⟩, fun _ _ _ _ _ => trivial⟩
  have hstart : (fun (_ : σ) (_ : Unit) => True) m () := trivial
  exact (Walk.walk_same_calls halike a nulls _ root hstart).1

/-- On a tree, the calls are those of a whole traversal. -/
theorem IsTree.traverses_tour (h : a.IsTree) (hv : Continues v) :
    ∃ u, Traverses v nulls none [some root] (.start a m) (a.tour nulls) u ∧
      (a.walk v nulls a.walkSteps root m).complete ∧
      (a.walk v nulls a.walkSteps root m).report = u.report ∧
      (a.walk v nulls a.walkSteps root m).memory = told v m (a.tour nulls) := by
  have hc := h.complete_of_le v nulls m (Nat.le_refl _)
  obtain ⟨calls, u, ht, hwalk⟩ := Walk.traverses_of_complete hc
  have hcalls : calls = a.tour nulls := by
    rw [← tour_eq nulls m hv, Walk.logged_of_traverses hc ht]
  subst hcalls
  exact ⟨u, ht, hc, congrArg Walked.report hwalk, (congrArg Walked.memory hwalk).trans ht.memory_eq⟩

/-- Each kind that is met on the way can be told from its tag. -/
theorem Loaded.kinds_tour (h : a.Loaded) (nulls : Bool) :
    ∀ kind ∈ kinds (a.tour nulls), Kind.ofName kind.name = kind := by
  obtain ⟨u, ht, -⟩ := h.isTree.traverses_tour nulls () (fun _ _ _ => rfl : Continues wanderer)
  have hgrown := (ht.grown (.refl a)).2
  have hlt := ht.lt_of_shown (fun p id hs => (h.isTree.lt_of_hasSlot p id hs).2) (.refl a)
    (by simpa using h.isTree.root_lt)
  intro kind hkind
  obtain ⟨p, hp, rfl⟩ := List.mem_map.mp hkind
  obtain ⟨hg, -⟩ := Walk.grown_of_shown hgrown hp
  rcases Nat.lt_or_ge p.2 a.size with hreal | hadded
  · rw [hg.kind hreal]
    exact h.tagged p.2
  · rw [hg.kind_placeholder hadded (hlt p hp)]
    rfl

end Tour

end Arena

/-! ### Open nodes -/

namespace Walk

/-- A tally keeps the number of open nodes. -/
theorem depth_told (calls : List Call) {t : Tally} {path : List NodeId}
    (h : path.length = t.depth) :
    (told Tally.visitor t calls).depth = (opened path calls).length := by
  induction calls generalizing t path with
  | nil => exact h.symm
  | cons call calls ih =>
    cases call with
    | before a id => exact ih (t := (Tally.visitor.before a id t).2) (congrArg (· + 1) h)
    | after a id =>
      refine ih (t := Tally.visitor.after a id t) ?_
      rw [turn_after, List.length_tail, h]
      rfl

end Walk

/-- On a walk from a root, what is left has been open. Nothing is open in the end. -/
theorem Arena.IsTree.depth_tour {a : Arena} (h : a.IsTree) (nulls : Bool) {t : Tally}
    (hdepth : t.depth = 0) :
    (told Tally.visitor t (a.tour nulls)).depth = 0 ∧
    ∀ before b id after, a.tour nulls = before ++ .after b id :: after →
      0 < (told Tally.visitor t before).depth := by
  have hv : Continues Tally.visitor := fun _ _ _ => rfl
  have hnone : ([] : List NodeId).length = t.depth := hdepth.symm
  obtain ⟨u, ht, -⟩ := h.traverses_tour nulls t hv
  constructor
  · rw [Walk.depth_told _ hnone, ht.opened_eq, List.length_nil]
  · intro before b id after heq
    obtain ⟨around, haround, -⟩ := Walk.along_iff.mp ht.wayDown_of_root before _ after heq
    have hopen : opened [] before = id :: around := haround
    rw [Walk.depth_told _ hnone, hopen]
    exact Nat.succ_pos _

/-! ### What has been counted -/

namespace Tally

/-- What has been counted after some documents. -/
def recordAll (nulls : Bool) (docs : List Arena) : Tally :=
  docs.foldl (fun t a => (t.record a nulls a.walkSteps Arena.root).memory) {}

/-- The largest depth at which a node is reached. -/
def deepest (calls : List Call) : Nat := (depths 0 calls).foldl max 0

/-- How many nodes of unknown kind are reached. -/
def strange (calls : List Call) : Nat := (kinds calls).countP fun kind => kind.walkOrder.isNone

/-- The tags of all nodes that are reached on some walks. -/
def tags (walks : List (List Call)) : List String :=
  walks.flatMap fun calls => (kinds calls).map Kind.name

/-- What has been counted is what is reached on these walks, and no node is open. -/
structure Counts (walks : List (List Call)) (t : Tally) : Prop where
  documents : t.documents = walks.length
  nodes : t.nodes = (walks.map fun calls => (visits calls).length).sum
  unknown : t.unknown = (walks.map strange).sum
  maxDepth : t.maxDepth = (walks.map deepest).foldl max 0
  counts : Histogram t.counts (tags walks)
  depth : t.depth = 0

theorem counts_nil : Counts [] {} where
  documents := rfl
  nodes := rfl
  unknown := rfl
  maxDepth := rfl
  counts := histogram_nil
  depth := rfl

variable {walks walks' : List (List Call)} {t t' : Tally}

theorem foldl_max (l : List Nat) (n : Nat) : l.foldl max n = max n (l.foldl max 0) := by
  have h : l.foldl max (max n 0) = max n (l.foldl max 0) := List.foldl_assoc
  rwa [Nat.max_zero] at h

/-- **One more document** is one more walk. -/
theorem Counts.record (h : t.Counts walks) {a : Arena} (ha : a.IsTree) (nulls : Bool) :
    (t.record a nulls a.walkSteps Arena.root).memory.Counts (walks ++ [a.tour nulls]) := by
  have hv : Continues visitor := fun _ _ _ => rfl
  obtain ⟨u, ht, -, hreport, hmemory⟩ := ha.traverses_tour nulls t hv
  obtain ⟨hdocuments, hunknown, hnodes, hdepth, hcounts⟩ := told_tally (a.tour nulls) h.counts
  have hstuck : u.report.unknownKinds.size = strange (a.tour nulls) :=
    (Walk.length_unknownKinds ht (fun hmem => nomatch List.mem_singleton.mp hmem) hv).trans
      (Nat.zero_add _)
  have hopen := (ha.depth_tour nulls h.depth).1
  rw [← hmemory] at hdocuments hunknown hnodes hdepth hcounts hopen
  refine ⟨?_, ?_, ?_, ?_, ?_, hopen⟩
  · rw [List.length_append, ← h.documents, ← hdocuments]
    rfl
  · rw [List.map_append, List.sum_append, ← h.nodes]
    exact hnodes
  · rw [List.map_append, List.sum_append, ← h.unknown, ← hunknown]
    exact congrArg _ ((congrArg (·.unknownKinds.size) hreport).trans hstuck)
  · rw [List.map_append, List.foldl_append, ← h.maxDepth]
    rw [h.depth] at hdepth
    exact hdepth.trans (foldl_max _ _)
  · rw [tags, List.flatMap_append, List.flatMap_singleton]
    exact hcounts

/-- **All documents.** -/
theorem counts_recordAll {docs : List Arena} (hdocs : ∀ a ∈ docs, a.IsTree) (nulls : Bool) :
    (recordAll nulls docs).Counts (docs.map (·.tour nulls)) := by
  have hall (rest : List Arena) (hrest : ∀ a ∈ rest, a.IsTree) {walks : List (List Call)}
      {t : Tally} (h : t.Counts walks) :
      (rest.foldl (fun t a => (t.record a nulls a.walkSteps Arena.root).memory) t).Counts
        (walks ++ rest.map (·.tour nulls)) := by
    induction rest generalizing walks t with
    | nil => simpa using h
    | cons a rest ih =>
      obtain ⟨ha, hrest⟩ := List.forall_mem_cons.mp hrest
      rw [List.map_cons, List.append_cons]
      exact ih hrest (h.record ha nulls)
  exact hall docs hdocs counts_nil

/-- The order of the walks does not matter. -/
theorem Counts.unique (h : t.Counts walks) (h' : t'.Counts walks') (hperm : walks.Perm walks') :
    t = t' := by
  have hcounts : t.counts = t'.counts := by
    refine Dict.ext_of_sorted h.counts.sorted h'.counts.sorted fun tag => ?_
    have htags : (tags walks).Perm (tags walks') := hperm.flatMap_right _
    rw [h.counts.get?, h'.counts.get?, htags.count_eq]
    simp only [htags.mem_iff]
  obtain ⟨hdocuments, hnodes, hunknown, hmaxDepth, -, hdepth⟩ := h
  obtain ⟨hdocuments', hnodes', hunknown', hmaxDepth', -, hdepth'⟩ := h'
  rw [hperm.length_eq, ← hdocuments'] at hdocuments
  rw [(hperm.map _).sum_eq, ← hnodes'] at hnodes
  rw [(hperm.map _).sum_eq, ← hunknown'] at hunknown
  rw [(hperm.map _).foldl_eq, ← hmaxDepth'] at hmaxDepth
  rw [← hdepth'] at hdepth
  obtain ⟨⟩ := t
  obtain ⟨⟩ := t'
  simp_all

end Tally

/-! ### Figures -/

namespace KindCount

/-- `a` stands in front of `b`: it is more frequent, or as frequent and its tag is smaller. -/
def Above (a b : KindCount) : Prop := b.count < a.count ∨ a.count = b.count ∧ a.kind < b.kind

theorem precedes_iff (a b : KindCount) :
    precedes a b = true ↔ b.count < a.count ∨ a.count = b.count ∧ a.kind ≤ b.kind := by
  unfold precedes
  by_cases h : a.count = b.count <;> simp [h]

theorem precedes_trans (a b c : KindCount) (hab : precedes a b = true)
    (hbc : precedes b c = true) : precedes a c = true := by
  rw [precedes_iff] at *
  rcases hab with hab | ⟨hab, hkab⟩ <;> rcases hbc with hbc | ⟨hbc, hkbc⟩
  · exact .inl (by omega)
  · exact .inl (by omega)
  · exact .inl (by omega)
  · exact .inr ⟨by omega, le_trans hkab hkbc⟩

theorem precedes_total (a b : KindCount) : (precedes a b || precedes b a) = true := by
  rw [Bool.or_eq_true, precedes_iff, precedes_iff]
  rcases Nat.lt_trichotomy a.count b.count with h | h | h
  · exact .inr (.inl h)
  · rcases le_total a.kind b.kind with hk | hk
    · exact .inl (.inr ⟨h, hk⟩)
    · exact .inr (.inr ⟨h.symm, hk⟩)
  · exact .inl (.inl h)

theorem precedes_antisymm (a b : KindCount) (hab : precedes a b = true)
    (hba : precedes b a = true) : a = b := by
  rw [precedes_iff] at *
  rcases hab with hab | ⟨hab, hkab⟩ <;> rcases hba with hba | ⟨hba, hkba⟩
  · omega
  · omega
  · omega
  · obtain ⟨kind, count⟩ := a
    obtain rfl : kind = b.kind := le_antisymm hkab hkba
    obtain rfl : count = b.count := hab
    rfl

end KindCount

namespace Stats

variable {t : Tally} {tags : List String}

/-- The figures for the kinds, sorted. -/
theorem pairwise_byKind (t : Tally) :
    (Stats.ofTally t).byKind.Pairwise fun a b => KindCount.precedes a b = true :=
  List.pairwise_mergeSort KindCount.precedes_trans KindCount.precedes_total _

/-- It does not matter in which order the counts are kept. -/
theorem ofTally_of_perm {counts : Dict Nat} (hperm : counts.Perm t.counts) :
    Stats.ofTally { t with counts } = Stats.ofTally t := by
  have hbyKind : (Stats.ofTally { t with counts }).byKind = (Stats.ofTally t).byKind := by
    refine List.Perm.eq_of_pairwise (fun a b _ _ => KindCount.precedes_antisymm a b)
      (pairwise_byKind _) (pairwise_byKind t) ?_
    exact (List.mergeSort_perm _ _).trans ((hperm.map _).trans (List.mergeSort_perm _ _).symm)
  unfold Stats.ofTally at *
  simp only at hbyKind
  rw [hbyKind]

/-- The figure for a kind, or 0 if there is none. -/
def count (s : Stats) (kind : String) : Nat :=
  ((s.byKind.find? fun k => k.kind = kind).map KindCount.count).getD 0

theorem count_ofTally (h : Histogram t.counts tags) (kind : String) :
    (Stats.ofTally t).count kind = tags.count kind := by
  unfold count
  cases hfind : (Stats.ofTally t).byKind.find? fun k => k.kind = kind with
  | none =>
    rw [List.find?_eq_none] at hfind
    by_contra hne
    have hpos : 0 < tags.count kind := Nat.pos_of_ne_zero fun h => hne h.symm
    exact hfind _ ((mem_byKind_iff h kind _).mpr ⟨hpos, rfl⟩) (by simp)
  | some k =>
    obtain ⟨kind', n⟩ := k
    obtain rfl : kind' = kind := by simpa using List.find?_some hfind
    exact ((mem_byKind_iff h _ n).mp (List.mem_of_find?_eq_some hfind)).2.symm

/-- The kinds that have a figure are those that were counted. -/
theorem perm_kinds (h : Histogram t.counts tags) :
    ((Stats.ofTally t).byKind.map KindCount.kind).Perm tags.dedup := by
  refine (List.perm_ext_iff_of_nodup (nodup_byKind h) (List.nodup_dedup tags)).mpr fun kind => ?_
  rw [List.mem_dedup, List.mem_map, ← List.count_pos_iff (l := tags)]
  constructor
  · rintro ⟨⟨kind', n⟩, hmem, rfl⟩
    obtain ⟨hpos, hcount⟩ := (mem_byKind_iff h _ n).mp hmem
    rwa [hcount]
  · intro hpos
    exact ⟨⟨kind, _⟩, (mem_byKind_iff h kind _).mpr ⟨hpos, rfl⟩, rfl⟩

/-- The figures for some of the kinds add up to how often these were counted. -/
theorem sum_byKind (h : Histogram t.counts tags) (p : String → Bool) :
    (((Stats.ofTally t).byKind.filter fun k => p k.kind).map KindCount.count).sum =
      tags.countP p := by
  have hcount : ((Stats.ofTally t).byKind.filter fun k => p k.kind).map KindCount.count =
      (((Stats.ofTally t).byKind.map KindCount.kind).filter p).map (tags.count ·) := by
    rw [List.filter_map, List.map_map]
    refine List.map_congr_left fun k hk => ?_
    exact ((mem_byKind_iff h k.kind k.count).mp (List.mem_filter.mp hk).1).2.symm
  rw [hcount, (((perm_kinds h).filter p).map _).sum_eq, List.sum_map_count_dedup_filter_eq_countP]

/-- The figures are put together from those of the parts. -/
structure Combines (stats : Stats) (parts : List Stats) : Prop where
  documents : stats.documents = (parts.map Stats.documents).sum
  nodes : stats.nodes = (parts.map Stats.nodes).sum
  unknown : stats.unknown = (parts.map Stats.unknown).sum
  maxDepth : stats.maxDepth = (parts.map Stats.maxDepth).foldl max 0
  byKind : ∀ kind, stats.count kind = (parts.map fun part => part.count kind).sum

/-- The figures for the kinds are those of all nodes. There is one for each kind that was met, the
most frequent one first. -/
structure Tidy (stats : Stats) : Prop where
  total : (stats.byKind.map KindCount.count).sum = stats.nodes
  pos : ∀ k ∈ stats.byKind, 0 < k.count
  nodup : (stats.byKind.map KindCount.kind).Nodup
  sorted : stats.byKind.Pairwise KindCount.Above
  unknown : stats.unknown = ((stats.byKind.filter fun k =>
    (Kind.ofName k.kind).walkOrder.isNone).map KindCount.count).sum

/-- The figures of some documents. -/
def ofDocuments (nulls : Bool) (docs : List Arena) : Stats :=
  Stats.ofTally (Tally.recordAll nulls docs)

/-- What has been counted on some walks gives tidy figures, if the kinds can be told from their
tags. -/
theorem tidy_ofTally {walks : List (List Call)} (h : t.Counts walks)
    (htags : ∀ calls ∈ walks, ∀ kind ∈ kinds calls, Kind.ofName kind.name = kind) :
    (Stats.ofTally t).Tidy where
  total := by
    have hsum := sum_byKind h.counts fun _ => true
    rw [List.filter_true, List.countP_true, Tally.tags, List.length_flatMap] at hsum
    rw [hsum]
    simp only [List.length_map, Walk.length_kinds]
    exact h.nodes.symm
  pos k hk := ((mem_byKind_iff h.counts k.kind k.count).mp hk).1
  nodup := nodup_byKind h.counts
  sorted := by
    have hne := List.pairwise_map.mp (nodup_byKind h.counts)
    refine ((pairwise_byKind t).and hne).imp fun {a b} hab => ?_
    obtain ⟨hle, hne⟩ := hab
    exact ((KindCount.precedes_iff a b).mp hle).imp_right fun hk =>
      ⟨hk.1, lt_of_le_of_ne hk.2 hne⟩
  unknown := by
    rw [sum_byKind h.counts fun kind => (Kind.ofName kind).walkOrder.isNone, Tally.tags,
      List.countP_flatMap]
    refine h.unknown.trans (congrArg List.sum (List.map_congr_left fun calls hcalls => ?_))
    rw [Function.comp_apply, List.countP_map, Tally.strange]
    refine List.countP_congr fun kind hkind => ?_
    rw [Function.comp_apply, htags calls hcalls kind hkind]

/-- The figures of some documents are put together from the figures of each. -/
theorem combines_ofDocuments {docs : List Arena} (hdocs : ∀ a ∈ docs, a.IsTree) (nulls : Bool) :
    (ofDocuments nulls docs).Combines (docs.map fun a => ofDocuments nulls [a]) := by
  have h := Tally.counts_recordAll hdocs nulls
  have hone (a : Arena) (ha : a ∈ docs) : (Tally.recordAll nulls [a]).Counts [a.tour nulls] :=
    Tally.counts_recordAll (List.forall_mem_singleton.mpr (hdocs a ha)) nulls
  refine ⟨h.documents.trans ?_, h.nodes.trans ?_, h.unknown.trans ?_, h.maxDepth.trans ?_, ?_⟩
  · have hones : (docs.map fun a => ofDocuments nulls [a]).map Stats.documents =
        docs.map fun _ => 1 := by
      rw [List.map_map]
      exact List.map_congr_left fun a ha => (hone a ha).documents
    rw [hones, List.length_map, List.map_const', List.sum_replicate_nat, Nat.mul_one]
  · rw [List.map_map, List.map_map]
    refine congrArg List.sum (List.map_congr_left fun a ha => ?_)
    exact ((hone a ha).nodes.trans (Nat.add_zero _)).symm
  · rw [List.map_map, List.map_map]
    refine congrArg List.sum (List.map_congr_left fun a ha => ?_)
    exact ((hone a ha).unknown.trans (Nat.add_zero _)).symm
  · rw [List.map_map, List.map_map]
    refine congrArg (List.foldl max 0) (List.map_congr_left fun a ha => ?_)
    exact ((hone a ha).maxDepth.trans (Nat.zero_max _)).symm
  · intro kind
    rw [ofDocuments, count_ofTally h.counts, Tally.tags, List.count_flatMap, List.map_map,
      List.map_map]
    refine congrArg List.sum (List.map_congr_left fun a ha => ?_)
    exact ((count_ofTally (hone a ha).counts kind).trans
      (congrArg (List.count kind) (List.flatMap_singleton ..))).symm

/-- **The figures of documents add up, in any order.** They are put together from the figures of
each document, so the order of the documents does not matter, nor does the order in which the counts
are kept; and they are tidy. Before each document and after it no node is open, and one is open
whenever a node is left. -/
theorem documents_add_up {docs : List Arena} (hdocs : ∀ a ∈ docs, a.Loaded) (nulls : Bool) :
    (∀ docs', docs'.Perm docs → ofDocuments nulls docs' = ofDocuments nulls docs) ∧
    (ofDocuments nulls docs).Combines (docs.map fun a => ofDocuments nulls [a]) ∧
    (ofDocuments nulls docs).Tidy ∧
    (∀ counts, counts.Perm (Tally.recordAll nulls docs).counts →
      Stats.ofTally { Tally.recordAll nulls docs with counts } = ofDocuments nulls docs) ∧
    (∀ earlier a later, docs = earlier ++ a :: later →
      let t := Tally.recordAll nulls earlier
      let w := a.walk (logging Tally.visitor) nulls a.walkSteps Arena.root (t, [])
      w.complete ∧ t.depth = 0 ∧ w.memory.1.depth = 0 ∧
      ∀ before b id after, w.memory.2 = before ++ .after b id :: after →
        0 < (told Tally.visitor t before).depth) := by
  have htree : ∀ a ∈ docs, a.IsTree := fun a ha => (hdocs a ha).isTree
  have hcounts := Tally.counts_recordAll htree nulls
  refine ⟨fun docs' hperm => ?_, combines_ofDocuments htree nulls, ?_,
    fun counts => ofTally_of_perm, ?_⟩
  · have htree' : ∀ a ∈ docs', a.IsTree := fun a ha => htree a (hperm.mem_iff.mp ha)
    have hcounts' := Tally.counts_recordAll htree' nulls
    exact congrArg Stats.ofTally (hcounts'.unique hcounts (hperm.map _))
  · refine tidy_ofTally hcounts fun calls hcalls => ?_
    obtain ⟨a, ha, rfl⟩ := List.mem_map.mp hcalls
    exact (hdocs a ha).kinds_tour nulls
  · rintro earlier a later rfl t w
    have ha := htree a (List.mem_append_right _ List.mem_cons_self)
    have hopen : t.depth = 0 := Tally.Counts.depth <|
      Tally.counts_recordAll (fun b hb => htree b (List.mem_append_left _ hb)) nulls
    have hv : Continues Tally.visitor := fun _ _ _ => rfl
    obtain ⟨u, ht, hc, -, -⟩ := ha.traverses_tour nulls t hv
    have hw : w.memory = (u.memory, a.tour nulls) := Walk.logged_of_traverses hc ht
    obtain ⟨hafter, hleft⟩ := ha.depth_tour nulls hopen
    rw [hw]
    refine ⟨?_, hopen, ?_, hleft⟩
    · exact (Walk.complete_logging []).trans hc
    · rw [ht.memory_eq]
      exact hafter

end Stats

/-- A statement that returns nothing. -/
def bareReturn : Json.Value := .object [("argument", .null), ("type", .string "ReturnStatement")]

/-- A node of unknown kind. -/
def strangeNode : Json.Value := .object [("type", .string "Strange")]

theorem documents_add_up_bareReturn :
    bareReturn.Normal ∧ strangeNode.Normal ∧
    ∃ a b, Arena.ofValue? bareReturn = some a ∧ Arena.ofValue? strangeNode = some b ∧
      Stats.ofDocuments true [b, a] = Stats.ofDocuments true [a, b] ∧
      (Stats.ofDocuments true [a, b]).nodes = 3 ∧
      ((Stats.ofDocuments true [a, b]).byKind.map KindCount.count).sum = 3 ∧
      (Stats.ofDocuments true [a, b]).maxDepth = 1 ∧
      (Stats.ofDocuments true [a, b]).unknown = 1 := by
  have hreturn : bareReturn.Normal := by
    refine .object ?_ (List.forall_mem_cons.mpr ⟨.null, List.forall_mem_singleton.mpr (.string _)⟩)
    unfold Dict.Sorted
    decide
  have hstrange : strangeNode.Normal :=
    .object (List.pairwise_singleton _ _) (List.forall_mem_singleton.mpr (.string _))
  obtain ⟨a, ha⟩ : ∃ a, Arena.ofValue? bareReturn = some a := ⟨_, rfl⟩
  obtain ⟨b, hb⟩ : ∃ b, Arena.ofValue? strangeNode = some b := ⟨_, rfl⟩
  have hdocs : ∀ c ∈ [a, b], c.Loaded :=
    List.forall_mem_cons.mpr
      ⟨⟨_, a, hreturn, ha, .refl⟩, List.forall_mem_singleton.mpr ⟨_, b, hstrange, hb, .refl⟩⟩
  obtain ⟨hperm, hcombines, htidy, -⟩ := Stats.documents_add_up hdocs true
  refine ⟨hreturn, hstrange, a, b, ha, hb, hperm _ (.swap a b []), ?_⟩
  rw [htidy.total, hcombines.nodes, hcombines.maxDepth, hcombines.unknown]
  obtain rfl := Option.some.inj ha
  obtain rfl := Option.some.inj hb
  decide +kernel

end Estree
