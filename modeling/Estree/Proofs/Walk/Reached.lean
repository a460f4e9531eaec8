import Estree.Proofs.Walk.Traversal
import Mathlib.Algebra.BigOperators.Group.List.Basic

/-!
# What a traversal reaches

What is reached on a traversal lies in the slots it was sent through, or in the slots of something
it has reached before. `Traverses.countP_reached` says so with multiplicities, for any visitor, and
that it is all of this if the visitor always descends. It counts the slots by a property, so that
nodes can be told from placeholders, whose indices are not known beforehand.

* `Traverses.report_counts`: the report counts what is reached;
* `effort_eq`: the effort of a traversal, by what is reached;
* `exists_traverses`: a traversal has an end if there is no endless way down from its slots;
* `Arena.walkSteps_eq`: the steps that are foreseen for a walk.
-/

namespace Estree

namespace Walk

/-- The node that a call says is reached. -/
def Call.visit? : Call → Option NodeId
  | before _ id => some id
  | after _ _ => none

/-- The nodes and placeholders that are reached, in order. -/
def visits (calls : List Call) : List NodeId := calls.filterMap Call.visit?

@[simp] theorem visits_nil : visits [] = [] := rfl

@[simp] theorem visits_before (a : Arena) (id : NodeId) (calls : List Call) :
    visits (.before a id :: calls) = id :: visits calls := rfl

@[simp] theorem visits_after (a : Arena) (id : NodeId) (calls : List Call) :
    visits (.after a id :: calls) = visits calls := rfl

@[simp] theorem visits_append (calls later : List Call) :
    visits (calls ++ later) = visits calls ++ visits later :=
  List.filterMap_append

section Counting

variable {σ : Type} {v : Visitor σ} {nulls : Bool} {parent : Option NodeId}
  {slots : List (Option NodeId)} {t t₁ u : Scene σ} {calls : List Call} {a : Arena}
  {P : Option NodeId → Bool}

/-- What is reached counts as much as its slot, if all placeholders count as empty slots do. -/
theorem apply_reached (hP : ∀ id, a.size ≤ id → P (some id) = P none) (h : a.Grown t.arena)
    {slot : Option NodeId} {id : NodeId} (hr : t.reach nulls parent slot = some (id, t₁)) :
    P slot = P (some id) := by
  rcases reach_cases hr with ⟨rfl, -⟩ | ⟨rfl, -, rfl, -⟩
  · rfl
  · exact (hP t.arena.size h.size).symm

theorem slotsOf_reached (h : a.Grown t.arena) {slot : Option NodeId} {id : NodeId}
    (hr : t.reach nulls parent slot = some (id, t₁)) :
    a.slotsOf id = (t₁.arena.childSlots id).getD [] :=
  ((grown_of_reach h hr).slotsOf id).symm

theorem hasSlot_of_reached (h : a.Grown t.arena) {slot : Option NodeId} {id : NodeId}
    (hr : t.reach nulls parent slot = some (id, t₁)) {inner : List (Option NodeId)}
    (hs : t₁.arena.childSlots id = some inner) {id' : NodeId} (hid : some id' ∈ inner) :
    a.HasSlot id id' := by
  rw [Arena.HasSlot, slotsOf_reached h hr, hs, Option.getD_some]
  exact hid

/-- The visitor always goes on with the children. -/
def Continues (v : Visitor σ) : Prop := ∀ a id m, (v.before a id m).1 = .descend

/-- **What is reached is in the slots of the traversal or in those of something reached**, and it is
all that is there if the visitor always descends. Empty slots must not count for this, as they are
passed over if there are no placeholders. -/
theorem Traverses.countP_reached (hP : ∀ id, a.size ≤ id → P (some id) = P none)
    (ht : Traverses v nulls parent slots t calls u) (h : a.Grown t.arena) :
    let reached := (visits calls).countP fun id => P (some id)
    let found := slots.countP P + ((visits calls).map fun id => (a.slotsOf id).countP P).sum
    reached ≤ found ∧ (Continues v → P none = false → reached = found) := by
  induction ht with
  | nil => exact ⟨Nat.zero_le _, fun _ _ => by simp⟩
  | @hole _ slot _ _ _ _ hr _ ih =>
    obtain ⟨hle, heq⟩ := ih h
    cases slot with
    | some id => cases hr
    | none =>
      rw [List.countP_cons]
      refine ⟨by omega, fun hv hnone => ?_⟩
      rw [hnone]
      exact heq hv hnone
  | skip hr hb _ ih =>
    have h₁ := grown_of_reach h hr
    obtain ⟨hle, -⟩ := ih h₁
    simp only [visits_before, visits_after, List.countP_cons, List.map_cons, List.sum_cons,
      apply_reached hP h hr]
    refine ⟨by omega, fun hv _ => ?_⟩
    have hdescend := (congrArg Prod.fst hb).symm.trans (hv _ _ _)
    cases hdescend
  | unknown hr hb hs _ ih =>
    have h₁ := grown_of_reach h hr
    obtain ⟨hle, heq⟩ := ih h₁
    simp only [visits_before, visits_after, List.countP_cons, List.map_cons, List.sum_cons,
      apply_reached hP h hr, slotsOf_reached h hr, hs, Option.getD_none, List.countP_nil]
    refine ⟨by omega, fun hv hnone => ?_⟩
    have hrest := heq hv hnone
    omega
  | descend hr hb hs hinner _ ih₁ ih₂ =>
    have h₁ := grown_of_reach h hr
    obtain ⟨hle₁, heq₁⟩ := ih₁ h₁
    obtain ⟨hle₂, heq₂⟩ := ih₂ (hinner.grown h₁).1
    simp only [visits_before, visits_after, visits_append, List.countP_cons, List.countP_append,
      List.map_cons, List.map_append, List.sum_cons, List.sum_append, apply_reached hP h hr,
      slotsOf_reached h hr, hs, Option.getD_some]
    refine ⟨by omega, fun hv hnone => ?_⟩
    have hbelow := heq₁ hv hnone
    have hrest := heq₂ hv hnone
    omega

/-- The effort of a traversal, by the slots of what is reached. -/
theorem effort_eq (h : ∀ call ∈ calls, a.Grown call.arena) :
    effort calls = ((visits calls).map fun id => 1 + (a.slotsOf id).length).sum := by
  induction calls with
  | nil => rfl
  | cons call calls ih =>
    obtain ⟨hcall, hrest⟩ := List.forall_mem_cons.mp h
    rw [effort, List.map_cons, List.sum_cons, ← effort, ih hrest]
    cases call with
    | before b id =>
      have hslots : (b.childSlots id).getD [] = a.slotsOf id := hcall.slotsOf id
      rw [visits_before, List.map_cons, List.sum_cons, Call.effort, hslots]
    | after b id => rw [visits_after, Call.effort, Nat.zero_add]

/-- Reaching something counts if it is a placeholder. -/
theorem report_of_reach (h : a.Grown t.arena) {slot : Option NodeId} {id : NodeId}
    (hslot : ∀ id, slot = some id → id < a.size)
    (hr : t.reach nulls parent slot = some (id, t₁)) :
    t₁.report.visited = t.report.visited ∧
    t₁.report.synthesized = t.report.synthesized + if a.size ≤ id then 1 else 0 := by
  rcases reach_cases hr with ⟨rfl, rfl⟩ | ⟨-, -, rfl, owner, -, rfl⟩
  · rw [if_neg (Nat.not_le_of_lt (hslot id rfl))]
    exact ⟨rfl, rfl⟩
  · rw [if_pos h.size]
    exact ⟨rfl, rfl⟩

/-- Where the slots hold nodes of the arena, and so do the slots of these nodes, the report counts
what is reached, and the placeholders among it. -/
theorem Traverses.report_counts {S : NodeId → Prop} (hin : ∀ id, S id → id < a.size)
    (hbelow : ∀ p id, S p → a.HasSlot p id → S id)
    (ht : Traverses v nulls parent slots t calls u) (h : a.Grown t.arena)
    (hslots : ∀ id, some id ∈ slots → S id) :
    u.report.visited = t.report.visited + (visits calls).length ∧
    u.report.synthesized =
      t.report.synthesized + (visits calls).countP (fun id => a.size ≤ id) := by
  have hreached {parent slot : Option NodeId} {t t₁ : Scene σ} {id : NodeId} (h : a.Grown t.arena)
      (hslot : ∀ id, slot = some id → S id) (hr : t.reach nulls parent slot = some (id, t₁)) :=
    report_of_reach h (fun id hid => hin id (hslot id hid)) hr
  induction ht with
  | nil => exact ⟨rfl, rfl⟩
  | hole hr _ ih => exact ih h fun id hid => hslots id (List.mem_cons_of_mem _ hid)
  | @skip _ _ _ t t₁ _ _ id m hr hb _ ih =>
    have h₁ := grown_of_reach h hr
    obtain ⟨hv, hs⟩ := ih h₁ fun id hid => hslots id (List.mem_cons_of_mem _ hid)
    obtain ⟨hv₁, hs₁⟩ := hreached h (fun id hid => hslots id (hid ▸ List.mem_cons_self)) hr
    have hv' : (((t₁.shown m).declined).leave v id).report.visited = t₁.report.visited + 1 := rfl
    have hs' : (((t₁.shown m).declined).leave v id).report.synthesized = t₁.report.synthesized :=
      rfl
    simp only [visits_before, visits_after, List.length_cons, List.countP_cons, decide_eq_true_eq]
    omega
  | @unknown _ _ _ t t₁ _ _ id m hr hb _ _ ih =>
    have h₁ := grown_of_reach h hr
    obtain ⟨hv, hs⟩ := ih h₁ fun id hid => hslots id (List.mem_cons_of_mem _ hid)
    obtain ⟨hv₁, hs₁⟩ := hreached h (fun id hid => hslots id (hid ▸ List.mem_cons_self)) hr
    have hv' : (((t₁.shown m).stuckAt id).leave v id).report.visited = t₁.report.visited + 1 := rfl
    have hs' : (((t₁.shown m).stuckAt id).leave v id).report.synthesized =
        t₁.report.synthesized := rfl
    simp only [visits_before, visits_after, List.length_cons, List.countP_cons, decide_eq_true_eq]
    omega
  | @descend _ _ _ slots t t₁ t₂ _ _ _ id m hr hb hs hinner _ ih₁ ih₂ =>
    have h₁ := grown_of_reach h hr
    have hinner' : ∀ id', some id' ∈ slots → S id' := by
      intro id' hid'
      have hslot := hasSlot_of_reached h hr hs hid'
      rcases reach_cases hr with ⟨rfl, -⟩ | ⟨-, -, rfl, -⟩
      · exact hbelow id id' (hslots id List.mem_cons_self) hslot
      · -- there is nothing below a placeholder
        rw [Arena.HasSlot, Arena.slotsOf_of_le h.size] at hslot
        cases hslot
    obtain ⟨hv₂, hs₂⟩ := ih₁ h₁ hinner'
    obtain ⟨hv, hs⟩ := ih₂ (hinner.grown h₁).1 fun id hid => hslots id (List.mem_cons_of_mem _ hid)
    obtain ⟨hv₁, hs₁⟩ := hreached h (fun id hid => hslots id (hid ▸ List.mem_cons_self)) hr
    have hv' : (t₁.shown m).report.visited = t₁.report.visited + 1 := rfl
    have hs' : (t₁.shown m).report.synthesized = t₁.report.synthesized := rfl
    have hv'' : (t₂.leave v id).report.visited = t₂.report.visited := rfl
    have hs'' : (t₂.leave v id).report.synthesized = t₂.report.synthesized := rfl
    simp only [visits_before, visits_after, visits_append, List.length_cons, List.length_append,
      List.countP_cons, List.countP_append, decide_eq_true_eq]
    omega

end Counting

section End

variable {σ : Type} {v : Visitor σ} {nulls : Bool} {a : Arena}

/-- A traversal of some slots ends if the traversals of what is below them do. -/
theorem exists_traverses_of_below {slots : List (Option NodeId)} (parent : Option NodeId)
    {t : Scene σ} (h : a.Grown t.arena)
    (hbelow : ∀ id, some id ∈ slots → ∀ t : Scene σ, a.Grown t.arena →
      ∃ calls u, Traverses v nulls (some id) (a.slotsOf id) t calls u) :
    ∃ calls u, Traverses v nulls parent slots t calls u := by
  induction slots generalizing t with
  | nil => exact ⟨[], t, .nil⟩
  | cons slot rest ih =>
    have hrest {t : Scene σ} (h : a.Grown t.arena) :
        ∃ calls u, Traverses v nulls parent rest t calls u :=
      ih h fun id hid => hbelow id (List.mem_cons_of_mem slot hid)
    cases hr : t.reach nulls parent slot with
    | none =>
      obtain ⟨calls, u, hu⟩ := hrest h
      exact ⟨calls, u, .hole hr hu⟩
    | some r =>
      obtain ⟨id, t₁⟩ := r
      have h₁ : a.Grown t₁.arena := grown_of_reach h hr
      cases hb : v.before t₁.arena id t₁.memory with
      | mk answer m =>
      cases answer with
      | skip =>
        obtain ⟨calls, u, hu⟩ := hrest (t := (t₁.shown m).declined.leave v id) h₁
        exact ⟨_, u, .skip hr hb hu⟩
      | descend =>
        cases hs : t₁.arena.childSlots id with
        | none =>
          obtain ⟨calls, u, hu⟩ := hrest (t := ((t₁.shown m).stuckAt id).leave v id) h₁
          exact ⟨_, u, .unknown hr hb hs hu⟩
        | some slots =>
          have hslots : a.slotsOf id = slots := by
            rw [slotsOf_reached h hr, hs, Option.getD_some]
          obtain ⟨inner, t₂, hinner⟩ :
              ∃ inner t₂, Traverses v nulls (some id) slots (t₁.shown m) inner t₂ := by
            rcases reach_cases hr with ⟨rfl, -⟩ | ⟨-, -, rfl, -⟩
            · rw [← hslots]
              exact hbelow id List.mem_cons_self (t₁.shown m) h₁
            · -- there is nothing below a placeholder
              rw [Arena.slotsOf_of_le h.size] at hslots
              subst hslots
              exact ⟨[], _, .nil⟩
          obtain ⟨calls, u, hu⟩ := hrest (t := t₂.leave v id) (hinner.grown h₁).1
          exact ⟨_, u, .descend hr hb hs hinner hu⟩

/-- **A traversal ends if there is no endless way down from its slots**, whoever is the visitor. -/
theorem exists_traverses {slots : List (Option NodeId)} (parent : Option NodeId) {t : Scene σ}
    (h : a.Grown t.arena) (hslots : ∀ id, some id ∈ slots → Acc (flip a.HasSlot) id) :
    ∃ calls u, Traverses v nulls parent slots t calls u := by
  refine exists_traverses_of_below parent h fun id hid => ?_
  have hacc := hslots id hid
  clear hid
  induction hacc with
  | intro id _ ih => exact fun t h => exists_traverses_of_below (some id) h ih

end End

end Walk

namespace Arena

/-! ### The steps that are foreseen -/

theorem foldl_steps (l : List Node) (n : Nat) :
    l.foldl (fun n node => n + 1 + 2 * (node.childSlots.getD []).length) n =
      n + (l.map fun node => 1 + 2 * (node.childSlots.getD []).length).sum := by
  induction l generalizing n with
  | nil => rfl
  | cons node l ih =>
    rw [List.foldl_cons, ih, List.map_cons, List.sum_cons]
    omega

theorem walkSteps_eq (a : Arena) :
    a.walkSteps = 1 + ((List.range a.size).map fun id => 1 + 2 * (a.slotsOf id).length).sum := by
  rw [walkSteps, ← Array.foldl_toList, foldl_steps, toList_nodes, List.map_map]
  rfl

theorem walkSteps_pos (a : Arena) : 0 < a.walkSteps := by
  rw [walkSteps_eq]
  exact Nat.lt_add_right _ Nat.one_pos

end Arena

end Estree
