import Estree.Proofs.Arena.Fields
import Estree.Proofs.Walk.Reached
import Mathlib.Algebra.BigOperators.Ring.List
import Mathlib.Algebra.Order.BigOperators.Group.List
import Mathlib.Algebra.Ring.Nat
import Mathlib.Data.List.Perm.Subperm

/-!
# What a walk covers

In a tree a node is in one slot at most, so it is reached once at most. A walk over a tree is
therefore over after a number of steps that can be told in advance, and it misses a node only if the
way to the node leads through a field that is not visited.

* `Arena.IsTree.count_le_one`: no node of a tree is reached twice;
* `Arena.IsTree.walk_complete`: the steps of `Arena.walkSteps` are enough, for any visitor;
* `Arena.IsTree.walk_covers`: a visitor that always descends gets to what is covered;
* `document_walk`: a document is a tree, and a walk over it reaches what is covered, once.
-/

namespace Estree

open Walk

/-! ### Walks over trees -/

namespace Arena

open Walk (Traverses Scene)

namespace IsTree

variable {a : Arena}

theorem mem_links_of_hasSlot {p id : NodeId} (h : a.HasSlot p id) : id ∈ (a.node p).links := by
  rw [← List.count_pos_iff]
  exact Nat.lt_of_lt_of_le (List.count_pos_iff.mpr h) ((a.node p).count_childSlots_le id)

/-- What is in a slot comes after the owner of the slot, and is in the arena. -/
theorem lt_of_hasSlot (h : a.IsTree) (p id : NodeId) (hs : a.HasSlot p id) :
    p < id ∧ id < a.size := by
  have hmem := mem_links_of_hasSlot hs
  have hlinks : id ∈ a.links := mem_links_iff.mpr ⟨p, lt_size_of_hasSlot hs, hmem⟩
  exact ⟨h.lt p id hmem, ((h.mem_iff id).mp hlinks).2⟩

/-- A node is in the fields of one node only. -/
theorem owner_unique (h : a.IsTree) {id p q : NodeId} (hp : id ∈ (a.node p).links)
    (hq : id ∈ (a.node q).links) : p = q := by
  have hinside {owner : NodeId} (howner : id ∈ (a.node owner).links) :
      owner ∈ List.range a.size := by
    refine List.mem_range.mpr (Nat.lt_of_not_le fun hle => ?_)
    rw [node_of_le hle] at howner
    cases howner
  have hnodup := h.nodup
  rw [links_eq, List.nodup_flatMap] at hnodup
  have hsymm : Std.Symm (Function.onFun List.Disjoint fun owner => (a.node owner).links) :=
    ⟨fun _ _ hd _ hx hy => hd hy hx⟩
  by_contra hne
  exact hnodup.2.forall (hinside hp) (hinside hq) hne hp hq

theorem count_links_le (h : a.IsTree) (p id : NodeId) : (a.node p).links.count id ≤ 1 := by
  rcases Nat.lt_or_ge p a.size with hlt | hle
  · have hnodup := h.nodup
    rw [links_eq, List.nodup_flatMap] at hnodup
    exact List.nodup_iff_count_le_one.mp (hnodup.1 p (List.mem_range.mpr hlt)) id
  · rw [node_of_le hle]
    exact Nat.zero_le 1

/-- There is a node such that the others have no slot for `id`. It comes before `id`. -/
theorem count_slots_le (h : a.IsTree) (id : NodeId) :
    (∀ p, (a.slotsOf p).count (some id) = 0) ∨
      ∃ q < id, (a.slotsOf q).count (some id) ≤ 1 ∧
        ∀ p, p ≠ q → (a.slotsOf p).count (some id) = 0 := by
  by_cases hslot : ∃ q, a.HasSlot q id
  · obtain ⟨q, hq⟩ := hslot
    refine .inr ⟨q, (h.lt_of_hasSlot q id hq).1, ?_, fun p hne => ?_⟩
    · exact Nat.le_trans ((a.node q).count_childSlots_le id) (h.count_links_le q id)
    · refine List.count_eq_zero.mpr fun hp => hne ?_
      exact h.owner_unique (mem_links_of_hasSlot hp) (mem_links_of_hasSlot hq)
  · exact .inl fun p => List.count_eq_zero.mpr fun hp => hslot ⟨p, hp⟩

/-! ### No node is reached twice -/

variable {σ : Type} {v : Visitor σ} {nulls : Bool} {t u : Scene σ} {calls : List Walk.Call}

theorem beq_of_le {id : NodeId} (hid : id < a.size) (x : NodeId) (hx : a.size ≤ x) :
    (some x == some id) = (none == some id) := by
  have hne : x ≠ id := Ne.symm (Nat.ne_of_lt (Nat.lt_of_lt_of_le hid hx))
  simp [hne]

/-- What is reached from the root is the root, or in a slot of something reached. -/
theorem count_visits_le (ht : Traverses v nulls none [some root] t calls u)
    (hg : a.Grown t.arena) {id : NodeId} (hid : id < a.size) :
    (visits calls).count id ≤ [some root].count (some id) +
      ((visits calls).map fun p => (a.slotsOf p).count (some id)).sum := by
  obtain ⟨hle, -⟩ := ht.countP_reached (P := (· == some id)) (beq_of_le hid) hg
  simpa [List.count_eq_countP] using hle

/-- If the visitor always descends, a node is reached as often as it is in a slot of something
reached. -/
theorem count_visits_eq (hv : Continues v) (ht : Traverses v nulls none [some root] t calls u)
    (hg : a.Grown t.arena) {id : NodeId} (hid : id < a.size) :
    (visits calls).count id = [some root].count (some id) +
      ((visits calls).map fun p => (a.slotsOf p).count (some id)).sum := by
  obtain ⟨-, heq⟩ := ht.countP_reached (P := (· == some id)) (beq_of_le hid) hg
  simpa [List.count_eq_countP] using heq hv rfl

/-- **No node of a tree is reached twice.** -/
theorem count_le_one (h : a.IsTree) (ht : Traverses v nulls none [some root] t calls u)
    (hg : a.Grown t.arena) {id : NodeId} (hid : id < a.size) : (visits calls).count id ≤ 1 := by
  induction id using Nat.strongRecOn with
  | ind id ih =>
    have hle := count_visits_le ht hg hid
    rcases h.count_slots_le id with hnone | ⟨q, hq, hone, hother⟩
    · -- the root
      have hsum : ((visits calls).map fun p => (a.slotsOf p).count (some id)).sum = 0 :=
        List.sum_eq_zero (by simp [hnone])
      have hroot : [some root].count (some id) ≤ 1 := List.count_le_length
      omega
    · -- any other node is reached as often as its owner
      have hroot : [some root].count (some id) = 0 := by
        have hne : root ≠ id := Nat.ne_of_lt (Nat.zero_lt_of_lt hq)
        exact List.count_eq_zero.mpr (by simpa using Ne.symm hne)
      have hsum : ((visits calls).map fun p => (a.slotsOf p).count (some id)).sum =
          (visits calls).count q * (a.slotsOf q).count (some id) :=
        List.sum_map_eq_nsmul_single q _ fun p hne _ => hother p hne
      have hmul : (visits calls).count q * (a.slotsOf q).count (some id) ≤ 1 * 1 :=
        Nat.mul_le_mul (ih q hq (Nat.lt_trans hq hid)) hone
      omega

/-! ### The steps of a walk -/

/-- The nodes that are reached, without the placeholders. -/
def realVisits (a : Arena) (calls : List Walk.Call) : List NodeId :=
  (visits calls).filter (· < a.size)

/-- They are nodes of the arena, each once. -/
theorem subperm_realVisits (h : a.IsTree) (ht : Traverses v nulls none [some root] t calls u)
    (hg : a.Grown t.arena) : (realVisits a calls).Subperm (List.range a.size) := by
  refine List.subperm_of_subset (List.nodup_iff_count_le_one.mpr fun id => ?_) fun id hid => ?_
  · rcases Nat.lt_or_ge id a.size with hlt | hle
    · exact Nat.le_trans (List.filter_sublist.count_le id) (h.count_le_one ht hg hlt)
    · have hnot : id ∉ realVisits a calls := fun hmem =>
        Nat.not_lt_of_le hle (of_decide_eq_true (List.mem_filter.mp hmem).2)
      exact Nat.le_trans (Nat.le_of_eq (List.count_eq_zero.mpr hnot)) (Nat.zero_le 1)
  · exact List.mem_range.mpr (of_decide_eq_true (List.mem_filter.mp hid).2)

theorem length_visits (a : Arena) (calls : List Walk.Call) :
    (visits calls).length =
      (realVisits a calls).length + (visits calls).countP fun id => a.size ≤ id := by
  rw [realVisits, ← List.countP_eq_length_filter, List.length_eq_countP_add_countP (· < a.size)]
  simp

/-- What counts for nothing at placeholders can be summed up without them. -/
theorem sum_realVisits {f : NodeId → Nat} (hf : ∀ id, a.size ≤ id → f id = 0)
    (calls : List Walk.Call) :
    ((visits calls).map f).sum = ((realVisits a calls).map f).sum := by
  unfold realVisits
  induction visits calls with
  | nil => rfl
  | cons id ids ih =>
    rw [List.map_cons, List.sum_cons, ih]
    rcases Nat.lt_or_ge id a.size with hlt | hle
    · rw [List.filter_cons_of_pos (by simpa using hlt), List.map_cons, List.sum_cons]
    · rw [List.filter_cons_of_neg (by simpa using hle), hf id hle, Nat.zero_add]

/-- There are no more placeholders than slots. -/
theorem placeholders_le (hroot : root < a.size)
    (ht : Traverses v nulls none [some root] t calls u) (hg : a.Grown t.arena) :
    (visits calls).countP (fun id => a.size ≤ id) ≤
      ((visits calls).map fun id => (a.slotsOf id).length).sum := by
  obtain ⟨hle, -⟩ := ht.countP_reached (P := fun slot => slot.all (a.size ≤ ·))
    (fun id hid => decide_eq_true hid) hg
  have hstart : [some root].countP (fun slot => slot.all (a.size ≤ ·)) = 0 := by simpa using hroot
  rw [hstart, Nat.zero_add] at hle
  refine Nat.le_trans hle (List.sum_le_sum fun id _ => ?_)
  exact List.countP_le_length

/-- A traversal of a tree takes no more effort than the tree allows for. -/
theorem effort_lt (h : a.IsTree) (ht : Traverses v nulls none [some root] t calls u)
    (hg : a.Grown t.arena) : effort calls < a.walkSteps := by
  have hplaceholders := placeholders_le h.root_lt ht hg
  have hlength := length_visits a calls
  rw [sum_realVisits (fun id hle => by rw [slotsOf_of_le hle]; rfl)] at hplaceholders
  have heffort : effort calls = (visits calls).length +
      ((visits calls).map fun id => (a.slotsOf id).length).sum := by
    rw [Walk.effort_eq (ht.grown hg).2, List.sum_map_add]
    rw [List.map_const', List.sum_const_nat, Nat.mul_one]
  rw [sum_realVisits (fun id hle => by rw [slotsOf_of_le hle]; rfl)] at heffort
  have hreal : ((realVisits a calls).map fun id => 1 + 2 * (a.slotsOf id).length).sum =
      (realVisits a calls).length +
        2 * ((realVisits a calls).map fun id => (a.slotsOf id).length).sum := by
    rw [List.sum_map_add, List.sum_map_mul_left]
    rw [List.map_const', List.sum_const_nat, Nat.mul_one]
  have hrange : ((realVisits a calls).map fun id => 1 + 2 * (a.slotsOf id).length).sum ≤
      ((List.range a.size).map fun id => 1 + 2 * (a.slotsOf id).length).sum := by
    obtain ⟨ids, hperm, hsub⟩ := h.subperm_realVisits ht hg
    rw [← (hperm.map _).sum_eq]
    exact (hsub.map _).sum_le_sum fun _ _ => Nat.zero_le _
  rw [walkSteps_eq]
  omega

/-- **A walk over a tree is over after the steps that are foreseen**, whoever is the visitor. -/
theorem walk_complete (h : a.IsTree) (v : Visitor σ) (nulls : Bool) (m : σ) :
    ∃ calls u, Traverses v nulls none [some root] (.start a m) calls u ∧
      (a.walk v nulls a.walkSteps root m).complete := by
  -- indices grow on every way down, and there is a largest one
  have hwf : WellFounded (flip a.HasSlot) := by
    refine Subrelation.wf (fun {id p} hslot => ?_) (measure fun id => a.size - id).wf
    obtain ⟨hlt, hsize⟩ := h.lt_of_hasSlot p id hslot
    exact Nat.sub_lt_sub_left (hlt.trans hsize) hlt
  obtain ⟨calls, u, ht⟩ : ∃ calls u, Traverses v nulls none [some root] (.start a m) calls u :=
    Walk.exists_traverses none (.refl a) fun id _ => hwf.apply id
  refine ⟨calls, u, ht, complete_of_traverses ht ?_⟩
  have hlt := h.effort_lt ht (.refl a)
  omega

/-- More steps than foreseen do no harm. -/
theorem complete_of_le (h : a.IsTree) (v : Visitor σ) (nulls : Bool) (m : σ) {steps : Nat}
    (hle : a.walkSteps ≤ steps) : (a.walk v nulls steps root m).complete := by
  obtain ⟨calls, u, ht, -⟩ := h.walk_complete v nulls m
  refine complete_of_traverses ht ?_
  have hlt := h.effort_lt ht (.refl a)
  omega

/-! ### What is reached -/

end IsTree

/-- Visited fields lead from the root to the node, all the way down. -/
inductive Covered (a : Arena) : NodeId → Prop where
  /-- The root. -/
  | root : Covered a root
  /-- What is in a visited field of a covered node. -/
  | child {owner id : NodeId} : Covered a owner → (a.node owner).Visits id → Covered a id

namespace IsTree

variable {a : Arena} {σ : Type} {v : Visitor σ} {nulls : Bool} {t u : Scene σ}
  {calls : List Walk.Call}

theorem lt_of_covered (h : a.IsTree) {id : NodeId} (hc : a.Covered id) :
    id < a.size := by
  cases hc with
  | root => exact h.root_lt
  | child _ hvisits => exact (h.lt_of_hasSlot _ _ ((Node.mem_childSlots_iff _ _).mpr hvisits)).2

/-- Whoever is the visitor, no other nodes are reached than those that are covered. -/
theorem covered_of_mem (h : a.IsTree) (ht : Traverses v nulls none [some root] t calls u)
    (hg : a.Grown t.arena) {id : NodeId} (hid : id < a.size) (hmem : id ∈ visits calls) :
    a.Covered id := by
  induction id using Nat.strongRecOn with
  | ind id ih =>
    have hle := count_visits_le ht hg hid
    have hpos := List.count_pos_iff.mpr hmem
    by_cases hroot : id = root
    · subst hroot
      exact .root
    · have hnone : [some root].count (some id) = 0 :=
        List.count_eq_zero.mpr (by simpa using hroot)
      obtain ⟨p, hp, hslot⟩ : ∃ p ∈ visits calls, (a.slotsOf p).count (some id) ≠ 0 := by
        by_contra hall
        have hzero : ∀ n ∈ (visits calls).map fun p => (a.slotsOf p).count (some id), n = 0 := by
          refine List.forall_mem_map.mpr fun p hp => ?_
          by_contra hne
          exact hall ⟨p, hp, hne⟩
        rw [hnone, List.sum_eq_zero hzero] at hle
        omega
      have hslot : a.HasSlot p id := List.count_pos_iff.mp (Nat.pos_of_ne_zero hslot)
      have hlt := (h.lt_of_hasSlot p id hslot).1
      exact .child (ih p hlt (Nat.lt_trans hlt hid) hp) ((Node.mem_childSlots_iff _ _).mp hslot)

/-- A visitor that always descends gets to everything that is covered. -/
theorem mem_of_covered (h : a.IsTree) (hv : Continues v)
    (ht : Traverses v nulls none [some root] t calls u) (hg : a.Grown t.arena) {id : NodeId}
    (hc : a.Covered id) : id ∈ visits calls := by
  have hcount {id : NodeId} (hid : id < a.size) := count_visits_eq hv ht hg hid
  induction hc with
  | root =>
    have heq := hcount h.root_lt
    rw [List.count_singleton_self] at heq
    exact List.count_pos_iff.mp (by omega)
  | @child owner id hc hvisits ih =>
    have hslot : a.HasSlot owner id := (Node.mem_childSlots_iff _ _).mpr hvisits
    have heq := hcount (h.lt_of_hasSlot owner id hslot).2
    have hpos : 0 < (a.slotsOf owner).count (some id) := List.count_pos_iff.mpr hslot
    have hle := List.single_le_sum (fun _ _ => Nat.zero_le _) _
      (List.mem_map_of_mem (f := fun p => (a.slotsOf p).count (some id)) ih)
    exact List.count_pos_iff.mp (by omega)

/-- **A walk over a tree reaches every covered node once and no other node.** Of the nodes it
counts, the placeholders apart, there are as many as are in the tree if all of them are covered, and
fewer otherwise. -/
theorem walk_covers (h : a.IsTree) (hv : Continues v) (m : σ) {steps : Nat}
    (hc : (a.walk v nulls steps root m).complete) :
    let visited := visits (a.walk (logging v) nulls steps root (m, [])).memory.2
    let report := (a.walk v nulls steps root m).report
    (∀ id < a.size, visited.count id ≤ 1 ∧ (id ∈ visited ↔ a.Covered id)) ∧
    report.synthesized ≤ report.visited ∧
    report.visited - report.synthesized ≤ a.size ∧
    (report.visited - report.synthesized = a.size ↔ ∀ id < a.size, a.Covered id) := by
  obtain ⟨calls, u, ht, hwalk⟩ := traverses_of_complete hc
  have hg : a.Grown (Scene.start a m).arena := .refl a
  have hmem : ∀ id < a.size, id ∈ visits calls ↔ a.Covered id :=
    fun id hid => ⟨h.covered_of_mem ht hg hid, h.mem_of_covered hv ht hg⟩
  have hstart : ∀ id, some id ∈ [some root] → id < a.size := fun id hid =>
    Option.some.inj (List.mem_singleton.mp hid) ▸ h.root_lt
  obtain ⟨hvisited, hsynthesized⟩ :=
    ht.report_counts (fun _ => id) (fun p id _ hs => (h.lt_of_hasSlot p id hs).2) hg hstart
  have hzero : (Scene.start a m).report.visited = 0 ∧ (Scene.start a m).report.synthesized = 0 :=
    ⟨rfl, rfl⟩
  have hlength := length_visits a calls
  have hsub := h.subperm_realVisits ht hg
  have hle := hsub.length_le
  rw [List.length_range] at hle
  rw [logged_of_traverses hc ht, hwalk]
  refine ⟨fun id hid => ⟨h.count_le_one ht hg hid, hmem id hid⟩, ?_, ?_, fun heq id hid => ?_,
    fun hall => ?_⟩
  · simp only [Scene.walked]
    omega
  · simp only [Scene.walked]
    omega
  · simp only [Scene.walked] at heq
    have hperm := hsub.perm_of_length_le (by rw [List.length_range]; omega)
    have hreal := hperm.mem_iff.mpr (List.mem_range.mpr hid)
    exact (hmem id hid).mp (List.mem_of_mem_filter hreal)
  · have hsub' : (List.range a.size).Subperm (realVisits a calls) := by
      refine List.subperm_of_subset List.nodup_range fun id hid => ?_
      have hlt := List.mem_range.mp hid
      exact List.mem_filter.mpr ⟨(hmem id hlt).mpr (hall id hlt), decide_eq_true hlt⟩
    have hge := hsub'.length_le
    rw [List.length_range] at hge
    simp only [Scene.walked]
    omega

end IsTree

end Arena

/-! ### Walks over documents -/

open Walk

/-- **A document is a tree, and a walk over it misses nothing that visited fields lead to.** Every
node but the root is in one field, of a node with a smaller index. So a walk from the root is over
after a number of steps that is known beforehand; it reaches no node twice, and reaches a node if
and only if visited fields of nodes of known kinds lead to it. -/
theorem document_walk {doc : Json.Value} (hdoc : doc.Normal) {a : Arena}
    (h : Arena.ofValue? doc = some a) :
    (∀ id < a.size, id ≠ Arena.root → a.links.count id = 1) ∧
    a.links.count Arena.root = 0 ∧
    (∀ owner id, id ∈ (a.node owner).links → owner < id) ∧
    (∀ id, a.parent id = none ∧ (a.node id).synthetic = false) ∧
    ∀ {σ : Type} (v : Visitor σ) (nulls : Bool) (m : σ), Continues v →
      (a.walk v nulls a.walkSteps Arena.root m).complete ∧
      ∀ steps, (a.walk v nulls steps Arena.root m).complete →
        let visited := visits (a.walk (logging v) nulls steps Arena.root (m, [])).memory.2
        let report := (a.walk v nulls steps Arena.root m).report
        (∀ id < a.size, visited.count id ≤ 1 ∧ (id ∈ visited ↔ a.Covered id)) ∧
        report.synthesized ≤ report.visited ∧
        report.visited - report.synthesized ≤ a.size ∧
        (report.visited - report.synthesized = a.size ↔ ∀ id < a.size, a.Covered id) := by
  have htree := tree_of_ofValue? hdoc h
  refine ⟨fun id hid hne => ?_, ?_, htree.lt, plain_of_ofValue? h, fun v nulls m hv => ⟨?_, ?_⟩⟩
  · exact List.count_eq_one_of_mem htree.nodup
      ((htree.mem_iff id).mpr ⟨Nat.pos_of_ne_zero hne, hid⟩)
  · refine List.count_eq_zero.mpr fun hroot => ?_
    exact Nat.lt_irrefl _ ((htree.mem_iff Arena.root).mp hroot).1
  · obtain ⟨_, _, _, hc⟩ := htree.walk_complete v nulls m
    exact hc
  · exact fun steps hc => htree.walk_covers hv m hc

/-- A template with a text chunk too many. -/
def surplusChunk : Json.Value :=
  .object [("expressions", .array []),
    ("quasis", .array [.object [("type", .string "TemplateElement")],
      .object [("type", .string "TemplateElement")]]),
    ("type", .string "TemplateLiteral")]

theorem walk_surplusChunk :
    surplusChunk.Normal ∧ Continues wanderer ∧ ∃ a, Arena.ofValue? surplusChunk = some a ∧
      (a.walk wanderer true a.walkSteps Arena.root ()).complete ∧
      ∀ id < a.size, id ∈ visits
        (a.walk (logging wanderer) true a.walkSteps Arena.root ((), [])).memory.2 ↔
          a.Covered id := by
  have hchunk : (Json.Value.object [("type", .string "TemplateElement")]).Normal :=
    .object (List.pairwise_singleton _ _) (List.forall_mem_singleton.mpr (.string _))
  have hsorted : Dict.Sorted [("expressions", .array []),
      ("quasis", .array [.object [("type", .string "TemplateElement")],
        .object [("type", .string "TemplateElement")]]),
      ("type", Json.Value.string "TemplateLiteral")] := by
    unfold Dict.Sorted
    decide
  have hdoc : surplusChunk.Normal := by
    refine .object hsorted ?_
    simp only [List.forall_mem_cons]
    refine ⟨.array (List.forall_mem_nil _), .array ?_, .string _, List.forall_mem_nil _⟩
    exact List.forall_mem_cons.mpr ⟨hchunk, List.forall_mem_singleton.mpr hchunk⟩
  have hv : Continues wanderer := fun _ _ _ => rfl
  refine ⟨hdoc, hv, _, rfl, ?_⟩
  obtain ⟨-, -, -, -, hwalk⟩ := document_walk hdoc rfl
  obtain ⟨hc, hcovers⟩ := hwalk wanderer true () hv
  exact ⟨hc, fun id hid => ((hcovers _ hc).1 id hid).2⟩

end Estree
