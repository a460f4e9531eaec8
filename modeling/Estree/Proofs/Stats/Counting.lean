import Estree.Proofs.Dict
import Estree.Proofs.Walk.Calls
import Estree.Stats

/-!
# What is counted on a walk

A tally is told of one node at a time, and does not know the tree. What it has counted can be read
off what it has been shown: the tags of the nodes, and the depths that follow from what is reached
and left.

* `Histogram`: the counts are those of a list of tags, which counting one more tag keeps so;
* `told_tally`: what some calls add to a tally;
* `Stats.mem_byKind_iff`, `Stats.nodup_byKind`: the figures for the kinds are those of the tags.
-/

namespace Estree

open Walk (Call told)

/-! ### Counts -/

/-- The counts tell how often each tag is in the list, and name no others. -/
structure Histogram (counts : Dict Nat) (tags : List String) : Prop where
  sorted : counts.Sorted
  get? : ∀ tag, counts.get? tag = if tag ∈ tags then some (tags.count tag) else none

theorem histogram_nil : Histogram [] [] where
  sorted := Dict.sorted_nil
  get? tag := by rw [Dict.get?_nil, if_neg List.not_mem_nil]

/-- One more tag is counted. -/
theorem Histogram.countKind {counts : Dict Nat} {tags : List String} (h : Histogram counts tags)
    (tag : String) : Histogram (Tally.countKind counts tag) (tags ++ [tag]) where
  sorted := Dict.sorted_insert h.sorted _ _
  get? tag' := by
    rw [Tally.countKind, Dict.get?_insert, h.get?, h.get?]
    by_cases heq : tag = tag'
    · subst heq
      by_cases hmem : tag ∈ tags
      · simp [hmem]
      · simp [hmem, List.count_eq_zero_of_not_mem hmem]
    · simp [heq, Ne.symm heq]

theorem Histogram.mem_iff {counts : Dict Nat} {tags : List String} (h : Histogram counts tags)
    (tag : String) (n : Nat) : (tag, n) ∈ counts ↔ 0 < n ∧ tags.count tag = n := by
  have hget : (tag, n) ∈ counts ↔ counts.get? tag = some n :=
    ⟨Dict.get?_of_mem h.sorted, Dict.mem_of_get?⟩
  rw [hget, h.get?]
  constructor
  · intro hsome
    split at hsome
    · next hmem =>
      obtain rfl := Option.some.inj hsome
      exact ⟨List.count_pos_iff.mpr hmem, rfl⟩
    · cases hsome
  · rintro ⟨hpos, rfl⟩
    rw [if_pos (List.count_pos_iff.mp hpos)]

namespace Stats

variable {t : Tally} {tags : List String}

/-- **The figure for a kind** is how often its tag was counted; kinds that were not are left out. -/
theorem mem_byKind_iff (h : Histogram t.counts tags) (tag : String) (n : Nat) :
    ⟨tag, n⟩ ∈ (Stats.ofTally t).byKind ↔ 0 < n ∧ tags.count tag = n := by
  rw [← h.mem_iff, ofTally, List.mem_mergeSort, List.mem_map]
  constructor
  · rintro ⟨⟨tag', n'⟩, hmem, heq⟩
    cases heq
    exact hmem
  · intro hmem
    exact ⟨(tag, n), hmem, rfl⟩

/-- There is one figure for a kind. -/
theorem nodup_byKind (h : Histogram t.counts tags) :
    ((Stats.ofTally t).byKind.map KindCount.kind).Nodup := by
  have hperm := (List.mergeSort_perm
    (t.counts.map fun e => KindCount.mk e.1 e.2) KindCount.precedes).map KindCount.kind
  refine hperm.nodup_iff.mpr ?_
  rw [List.map_map]
  exact (List.pairwise_map.mpr h.sorted).imp fun hlt => ne_of_lt hlt

end Stats

/-! ### What is shown -/

namespace Walk

/-- The kinds of the nodes that are reached. -/
def kinds (calls : List Call) : List Kind := (shown calls).map fun p => p.1.kind p.2

/-- How deep the nodes lie that are reached, if `open` nodes are open at the beginning. -/
def depths : Nat → List Call → List Nat
  | _, [] => []
  | depth, .before _ _ :: calls => depth :: depths (depth + 1) calls
  | depth, .after _ _ :: calls => depths (depth - 1) calls

@[simp] theorem kinds_nil : kinds [] = [] := rfl

@[simp] theorem kinds_before (a : Arena) (id : NodeId) (calls : List Call) :
    kinds (.before a id :: calls) = a.kind id :: kinds calls := rfl

@[simp] theorem kinds_after (a : Arena) (id : NodeId) (calls : List Call) :
    kinds (.after a id :: calls) = kinds calls := rfl

theorem length_kinds (calls : List Call) : (kinds calls).length = (visits calls).length := by
  rw [kinds, List.length_map, length_shown]

theorem walkOrder_eq_none_iff (kind : Kind) : kind.walkOrder = none ↔ kind.isUnknown := by
  cases kind <;> simp [Kind.walkOrder, Kind.isUnknown]

/-- There is nowhere to descend exactly where the kind is not known. -/
theorem childSlots_eq_none_iff (a : Arena) (id : NodeId) :
    a.childSlots id = none ↔ (a.kind id).walkOrder = none := by
  unfold Arena.childSlots Arena.kind Node.childSlots
  split
  · next h => simp [h, Kind.walkOrder]
  · exact Option.map_eq_none_iff

/-- **A visitor that always descends gets stuck at the unknown kinds** it is shown. -/
theorem length_unknownKinds {σ : Type} {v : Visitor σ} {nulls : Bool} {parent : Option NodeId}
    {slots : List (Option NodeId)} {t u : Scene σ} {calls : List Call}
    (ht : Traverses v nulls parent slots t calls u) (hp : none ∈ slots → parent.isSome)
    (hv : Continues v) :
    u.report.unknownKinds.size =
      t.report.unknownKinds.size + (kinds calls).countP fun kind => kind.walkOrder.isNone := by
  obtain ⟨-, -, hunknown, -⟩ := ht.report_eq hp
  rw [descents_eq_shown hv] at hunknown
  rw [← Array.length_toList, hunknown, List.length_append, Array.length_toList,
    List.length_filterMap_eq_countP, kinds, List.countP_map]
  refine congrArg _ (List.countP_congr fun p _ => ?_)
  simp [unknownKind?, childSlots_eq_none_iff]

end Walk

open Walk (kinds depths visits)

/-- **What some calls add to a tally.** -/
theorem told_tally (calls : List Call) {t : Tally} {tags : List String}
    (h : Histogram t.counts tags) :
    let t' := told Tally.visitor t calls
    t'.documents = t.documents ∧ t'.unknown = t.unknown ∧
    t'.nodes = t.nodes + (visits calls).length ∧
    t'.maxDepth = (depths t.depth calls).foldl max t.maxDepth ∧
    Histogram t'.counts (tags ++ (kinds calls).map Kind.name) := by
  induction calls generalizing t tags with
  | nil => exact ⟨rfl, rfl, rfl, rfl, by simpa using h⟩
  | cons call calls ih =>
    cases call with
    | before a id =>
      obtain ⟨hdocuments, hunknown, hnodes, hdepth, hcounts⟩ :=
        ih (t := (Tally.visitor.before a id t).2) (h.countKind (a.kind id).name)
      refine ⟨hdocuments, hunknown, ?_, hdepth, ?_⟩
      · rw [Walk.told_cons, Walk.tell_before, hnodes, Walk.visits_before, List.length_cons]
        simp only [Tally.visitor]
        omega
      · rw [List.append_assoc] at hcounts
        exact hcounts
    | after a id => exact ih (t := Tally.visitor.after a id t) h

end Estree
