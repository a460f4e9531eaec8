import Estree.Arena.Label

/-!
# Nodes of a changing arena

An arena changes in two ways: a node is appended, or one node is replaced. Either way all other
nodes stay as they are, and so do their indices. Reading a document and walking an arena are both
followed through these few laws.

A walk changes more than it seems to, as it writes parents; `Arena.Alike` is equality but for them.
It also appends placeholders, and `Arena.Grown` allows for these as well.

## Main results

* `Arena.node_push` and `Arena.node_modify`: the nodes after each of the two changes;
* `Arena.childSlots_of_orphan`, `Arena.label_of_orphan`: nodes that are the same but for their
  parents have the same places and labels;
* `Arena.Alike.setParent`, `Arena.Alike.push`: what a walk does keeps arenas alike;
* `Arena.Grown.setParent`, `Arena.Grown.push`: what a walk does to the arena it began with;
* `Arena.Grown.slotsOf`: the nodes have the places they had, and there is nothing below a
  placeholder.
-/

namespace Estree.Arena

/-! ### Appending and replacing -/

@[simp] theorem size_push (a : Arena) (n : Node) : (a.push n).size = a.size + 1 :=
  Array.size_push n

@[simp] theorem size_modify (a : Arena) (id : NodeId) (f : Node → Node) :
    (a.modify id f).size = a.size :=
  Array.size_modify

theorem node_push (a : Arena) (n : Node) (id : NodeId) :
    (a.push n).node id = if id = a.size then n else a.node id := by
  unfold node node? push size
  rw [Array.getElem?_push]
  split <;> rfl

theorem node_push_size (a : Arena) (n : Node) : (a.push n).node a.size = n := by
  rw [node_push, if_pos rfl]

theorem node_push_of_ne {a : Arena} {n : Node} {id : NodeId} (h : id ≠ a.size) :
    (a.push n).node id = a.node id := by
  rw [node_push, if_neg h]

theorem node_modify_self {a : Arena} {id : NodeId} (h : id < a.size) (f : Node → Node) :
    (a.modify id f).node id = f (a.node id) := by
  unfold node node? modify
  rw [Array.getElem?_modify, if_pos rfl, Array.getElem?_eq_getElem h]
  rfl

theorem node_modify_of_ne {a : Arena} {id id' : NodeId} (h : id ≠ id') (f : Node → Node) :
    (a.modify id f).node id' = a.node id' := by
  unfold node node? modify
  rw [Array.getElem?_modify, if_neg h]

/-- Replacing a node that is not there changes nothing. -/
theorem node_modify_of_le {a : Arena} {id : NodeId} (h : a.size ≤ id) (f : Node → Node)
    (id' : NodeId) : (a.modify id f).node id' = a.node id' := by
  unfold node node? modify
  rw [Array.getElem?_modify]
  split
  · next hid =>
    subst hid
    rw [Array.getElem?_eq_none h]
    rfl
  · rfl

/-- A node is changed or stays as it is. -/
theorem node_modify_or (a : Arena) (id : NodeId) (f : Node → Node) (id' : NodeId) :
    (a.modify id f).node id' = f (a.node id') ∨ (a.modify id f).node id' = a.node id' := by
  by_cases hid : id = id'
  · subst hid
    rcases Nat.lt_or_ge id a.size with hlt | hle
    · exact .inl (node_modify_self hlt f)
    · exact .inr (node_modify_of_le hle f id)
  · exact .inr (node_modify_of_ne hid f)

/-- An index beyond the arena reads as a node that holds nothing. -/
theorem node_of_le {a : Arena} {id : NodeId} (h : a.size ≤ id) :
    a.node id = { kind := .unknown "" } := by
  unfold node node?
  rw [Array.getElem?_eq_none h]
  rfl

theorem toList_nodes (a : Arena) : a.nodes.toList = (List.range a.size).map a.node := by
  refine List.ext_getElem (by simp [size]) fun id hid _ => ?_
  have hlt : id < a.nodes.size := hid
  simp [node, node?, hlt]

/-- The slots of a node that a walk visits; there are none if the kind is not known. -/
def slotsOf (a : Arena) (id : NodeId) : List (Option NodeId) := (a.childSlots id).getD []

theorem slotsOf_of_le {a : Arena} {id : NodeId} (h : a.size ≤ id) : a.slotsOf id = [] := by
  rw [slotsOf, childSlots, node_of_le h]
  rfl

/-- Node `id` is in a slot of `p` that a walk visits. -/
def HasSlot (a : Arena) (p id : NodeId) : Prop := some id ∈ a.slotsOf p

theorem lt_size_of_hasSlot {a : Arena} {p id : NodeId} (h : a.HasSlot p id) : p < a.size := by
  refine Nat.lt_of_not_le fun hle => ?_
  rw [HasSlot, slotsOf_of_le hle] at h
  cases h

theorem lt_size_of_childSlots {a : Arena} {id : NodeId} {slots : List (Option NodeId)}
    (h : a.childSlots id = some slots) : id < a.size := by
  refine Nat.lt_of_not_le fun hle => ?_
  rw [childSlots, node_of_le hle] at h
  cases h

/-! ### Keeping the first nodes -/

theorem ext_nodes {a b : Arena} (h : ∀ id : Nat, a.nodes[id]? = b.nodes[id]?) : a = b := by
  cases a
  cases b
  rw [Arena.mk.injEq]
  exact Array.ext_getElem? h

theorem getElem?_truncate (a : Arena) (n id : Nat) :
    (a.truncate n).nodes[id]? = if id < n then a.nodes[id]? else none := by
  unfold truncate
  rw [Array.take_eq_extract, Array.getElem?_extract, Nat.zero_add, Nat.sub_zero]
  by_cases hid : id < n
  · by_cases hsize : id < a.nodes.size
    · rw [if_pos (Nat.lt_min.mpr ⟨hid, hsize⟩), if_pos hid]
    · rw [if_neg (by omega), if_pos hid, Array.getElem?_eq_none (Nat.le_of_not_lt hsize)]
  · rw [if_neg (by omega), if_neg hid]

/-- The nodes that are kept stay as they are. -/
theorem node_truncate {a : Arena} {n id : Nat} (h : id < n) :
    (a.truncate n).node id = a.node id := by
  rw [node, node?, getElem?_truncate, if_pos h]
  rfl

theorem size_truncate {a : Arena} {n : Nat} (h : n ≤ a.size) : (a.truncate n).size = n := by
  have hmin : min n a.nodes.size = n := Nat.min_eq_left h
  simp [truncate, size, hmin]

theorem truncate_truncate (a : Arena) (n : Nat) : (a.truncate n).truncate n = a.truncate n := by
  refine ext_nodes fun id => ?_
  rw [getElem?_truncate, getElem?_truncate]
  split <;> rfl

theorem truncate_size (a : Arena) : a.truncate a.size = a := by
  refine ext_nodes fun id => ?_
  rw [getElem?_truncate]
  split
  · rfl
  · next h => rw [Array.getElem?_eq_none (Nat.le_of_not_lt h)]

theorem truncate_setParent (a : Arena) (id : NodeId) (parent : Option NodeId) (n : Nat) :
    (a.setParent id parent).truncate n = (a.truncate n).setParent id parent := by
  refine ext_nodes fun id' => ?_
  have hmodify (b : Arena) : (b.setParent id parent).nodes[id']? =
      if id = id' then (b.nodes[id']?).map fun node => { node with parent } else b.nodes[id']? := by
    unfold setParent modify
    rw [Array.getElem?_modify]
  rw [getElem?_truncate, hmodify, hmodify, getElem?_truncate]
  by_cases h : id' < n
  · simp [h]
  · simp [h]

theorem truncate_push {a : Arena} {n : Nat} (h : n ≤ a.size) (node : Node) :
    (a.push node).truncate n = a.truncate n := by
  refine ext_nodes fun id => ?_
  rw [getElem?_truncate, getElem?_truncate]
  by_cases hid : id < n
  · have hne : id ≠ a.nodes.size := Nat.ne_of_lt (Nat.lt_of_lt_of_le hid h)
    rw [if_pos hid, if_pos hid, push, Array.getElem?_push, if_neg hne]
  · rw [if_neg hid, if_neg hid]

/-! ### Arenas but for the parents -/

/-- The node without its parent. -/
def orphan (n : Node) : Node := { n with parent := none }

theorem orphan_setParent (a : Arena) (id : NodeId) (parent : Option NodeId) (id' : NodeId) :
    orphan ((a.setParent id parent).node id') = orphan (a.node id') := by
  rcases node_modify_or a id (fun n => { n with parent }) id' with h | h
  · rw [setParent, h]
    rfl
  · rw [setParent, h]

section Orphan

variable {a b : Arena} {id id' : NodeId}

theorem kind_of_orphan (h : orphan (a.node id) = orphan (b.node id')) : a.kind id = b.kind id' := by
  have hnode := congrArg Node.kind h
  exact hnode

theorem synthetic_of_orphan (h : orphan (a.node id) = orphan (b.node id')) :
    (a.node id).synthetic = (b.node id').synthetic := by
  have hnode := congrArg Node.synthetic h
  exact hnode

theorem label_of_orphan (h : orphan (a.node id) = orphan (b.node id')) :
    (a.node id).label = (b.node id').label := by
  have hnode := congrArg Node.label h
  exact hnode

theorem childSlots_of_orphan (h : orphan (a.node id) = orphan (b.node id')) :
    a.childSlots id = b.childSlots id' := by
  have hnode := congrArg Node.childSlots h
  exact hnode

theorem slotsOf_of_orphan (h : orphan (a.node id) = orphan (b.node id')) :
    a.slotsOf id = b.slotsOf id' := by
  rw [slotsOf, slotsOf, childSlots_of_orphan h]

end Orphan

/-- The nodes are the same, but they may have other parents. -/
def Alike (a b : Arena) : Prop := a.size = b.size ∧ ∀ id, orphan (a.node id) = orphan (b.node id)

namespace Alike

variable {a b c : Arena}

theorem refl (a : Arena) : a.Alike a := ⟨rfl, fun _ => rfl⟩

theorem symm (h : a.Alike b) : b.Alike a := ⟨h.1.symm, fun id => (h.2 id).symm⟩

theorem trans (h : a.Alike b) (h' : b.Alike c) : a.Alike c :=
  ⟨h.1.trans h'.1, fun id => (h.2 id).trans (h'.2 id)⟩

theorem kind (h : a.Alike b) (id : NodeId) : a.kind id = b.kind id := kind_of_orphan (h.2 id)

theorem synthetic (h : a.Alike b) (id : NodeId) :
    (a.node id).synthetic = (b.node id).synthetic := synthetic_of_orphan (h.2 id)

theorem label (h : a.Alike b) (id : NodeId) :
    (a.node id).label = (b.node id).label := label_of_orphan (h.2 id)

theorem childSlots (h : a.Alike b) (id : NodeId) : a.childSlots id = b.childSlots id :=
  childSlots_of_orphan (h.2 id)

theorem slotsOf (h : a.Alike b) (id : NodeId) : a.slotsOf id = b.slotsOf id :=
  slotsOf_of_orphan (h.2 id)

theorem node_eq (h : a.Alike b) (id : NodeId) :
    b.node id = { a.node id with parent := b.parent id } := by
  have hnode := congrArg (fun n : Node => { n with parent := b.parent id }) (h.2 id)
  exact hnode.symm

theorem setParent (h : a.Alike b) (id : NodeId) (parent : Option NodeId) :
    a.Alike (b.setParent id parent) :=
  ⟨h.1.trans (size_modify b id _).symm,
    fun id' => (h.2 id').trans (orphan_setParent b id parent id').symm⟩

theorem push (h : a.Alike b) (n : Node) : (a.push n).Alike (b.push n) := by
  refine ⟨by rw [size_push, size_push, h.1], fun id => ?_⟩
  rw [node_push, node_push, h.1]
  split
  · rfl
  · exact h.2 id

end Alike

/-! ### Arenas with placeholders -/

/-- The arena `b` has the nodes of `a`, though perhaps with other parents, and after them there are
placeholders only. -/
structure Grown (a b : Arena) : Prop where
  size : a.size ≤ b.size
  real : ∀ id < a.size, orphan (b.node id) = orphan (a.node id)
  added : ∀ id, a.size ≤ id → id < b.size → orphan (b.node id) = orphan (.placeholder 0)

namespace Grown

variable {a b : Arena}

theorem refl (a : Arena) : a.Grown a where
  size := Nat.le_refl _
  real _ _ := rfl
  added _ hle hlt := absurd hlt (Nat.not_lt_of_le hle)

theorem setParent (h : a.Grown b) (id : NodeId) (parent : Option NodeId) :
    a.Grown (b.setParent id parent) where
  size := by
    rw [Arena.setParent, size_modify]
    exact h.size
  real id' hlt := (orphan_setParent b id parent id').trans (h.real id' hlt)
  added id' hle hlt := by
    rw [Arena.setParent, size_modify] at hlt
    exact (orphan_setParent b id parent id').trans (h.added id' hle hlt)

theorem push (h : a.Grown b) (owner : NodeId) : a.Grown (b.push (.placeholder owner)) where
  size := by
    rw [size_push]
    exact Nat.le_succ_of_le h.size
  real id hlt := by
    rw [node_push_of_ne (Nat.ne_of_lt (Nat.lt_of_lt_of_le hlt h.size))]
    exact h.real id hlt
  added id hle hlt := by
    by_cases hid : id = b.size
    · subst hid
      rw [node_push_size]
      rfl
    · rw [size_push] at hlt
      rw [node_push_of_ne hid]
      exact h.added id hle (Nat.lt_of_le_of_ne (Nat.le_of_lt_succ hlt) hid)

/-- Without the placeholders the arena is what it was, but for the parents. -/
theorem truncate (h : a.Grown b) : a.Alike (b.truncate a.size) := by
  refine ⟨(size_truncate h.size).symm, fun id => ?_⟩
  rcases Nat.lt_or_ge id a.size with hlt | hle
  · rw [node_truncate hlt, h.real id hlt]
  · rw [node_of_le hle, node_of_le (Nat.le_trans (Nat.le_of_eq (size_truncate h.size)) hle)]

/-- Below what is not a node of `a` there is nothing. -/
theorem slotsOf (h : a.Grown b) (id : NodeId) : b.slotsOf id = a.slotsOf id := by
  rcases Nat.lt_or_ge id a.size with hlt | hle
  · exact slotsOf_of_orphan (h.real id hlt)
  · rw [slotsOf_of_le hle]
    rcases Nat.lt_or_ge id b.size with hlt | hge
    · have hnode := congrArg (fun n => (Node.childSlots n).getD []) (h.added id hle hlt)
      exact hnode
    · exact slotsOf_of_le hge

theorem kind (h : a.Grown b) {id : NodeId} (hid : id < a.size) : b.kind id = a.kind id :=
  kind_of_orphan (h.real id hid)

/-- The kind of a placeholder is known. -/
theorem kind_placeholder (h : a.Grown b) {id : NodeId} (hle : a.size ≤ id)
    (hlt : id < b.size) : b.kind id = .literal := by
  have hnode := congrArg Node.kind (h.added id hle hlt)
  exact hnode

theorem synthetic_placeholder (h : a.Grown b) {id : NodeId} (hle : a.size ≤ id)
    (hlt : id < b.size) : (b.node id).synthetic = true := by
  have hnode := congrArg Node.synthetic (h.added id hle hlt)
  exact hnode

end Grown

end Estree.Arena
