import Estree.Proofs.Walk.Coverage
import Estree.Proofs.Walk.Parents

/-!
# Trees that have been walked

A walk leaves a tree as it was, but for the parents. So a tree is still one after any number of
walks, and the next walk over it takes as many steps as the first.

* `Arena.Rewalked`: what some walks have made of an arena;
* `Arena.Rewalked.alike`: this is the arena, but for the parents;
* `Arena.IsTree.congr`: the trees are still trees.
-/

namespace Estree

namespace Arena

variable {a b : Arena}

/-- The arena `b` is what some walks have made of `a`, one after the other. -/
inductive Rewalked (a : Arena) : Arena → Prop where
  | refl : Rewalked a a
  | walk {b : Arena} (h : Rewalked a b) {σ : Type} (v : Visitor σ) (nulls : Bool) (steps : Nat)
    (root : NodeId) (m : σ) (hc : (b.walk v nulls steps root m).complete) :
    Rewalked a (b.walk v nulls steps root m).arena

/-- **A walk changes nothing but parents.** -/
theorem Rewalked.alike (h : a.Rewalked b) : a.Alike b := by
  induction h with
  | refl => exact .refl a
  | walk _ v nulls steps root m hc ih =>
    obtain ⟨calls, u, ht, hwalk⟩ := Walk.traverses_of_complete hc
    obtain ⟨hgrown, -⟩ := ht.grown (.refl _)
    rw [hwalk]
    exact ih.trans hgrown.truncate

theorem Alike.links (h : a.Alike b) (id : NodeId) : (a.node id).links = (b.node id).links := by
  have hnode := congrArg Node.links (h.2 id)
  exact hnode

theorem IsTree.congr (ht : a.IsTree) (h : a.Alike b) : b.IsTree := by
  have hlinks : b.links = a.links := by
    rw [links_eq, links_eq, h.1]
    exact List.flatMap_congr fun id _ => (h.links id).symm
  refine ⟨h.1 ▸ ht.root_lt, hlinks ▸ ht.nodup, fun id => ?_, fun owner id hid => ?_⟩
  · rw [hlinks, ← h.1]
    exact ht.mem_iff id
  · rw [← h.links] at hid
    exact ht.lt owner id hid

/-- As many steps are foreseen as before. -/
theorem Alike.walkSteps (h : a.Alike b) : a.walkSteps = b.walkSteps := by
  rw [walkSteps_eq, walkSteps_eq, h.1]
  simp only [h.slotsOf]

/-- A tree does not contain itself. -/
theorem IsTree.walkable (ht : a.IsTree) : a.Walkable root :=
  walkable_of_rank id ht.lt_of_hasSlot ht.root_lt

end Arena

end Estree
