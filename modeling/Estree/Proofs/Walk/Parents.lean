import Estree.Proofs.Arena.Nodes
import Estree.Proofs.Walk.Traversal
import Mathlib.Data.List.Nodup
import Mathlib.Data.List.Perm.Subperm
import Mathlib.Logic.Relation

/-!
# Recorded parents

A walk records the parent of every node it reaches. Nothing takes a parent back, the root of a walk
apart: when the tree is changed afterwards, the old parents stay where they are until a walk comes
by again. So the parents in an arena stem from several walks over several trees, and the present
tree alone does not explain them.

They form no ring all the same. While a walk is under way, the nodes it has reached have their
parents among each other, and a ring of these would be a ring of the present tree; a ring of the
others has been there before.

* `Arena.RingFree`: no node is above itself;
* `Linked`: what the parents are like in the middle of a walk, kept by `Traverses.linked`;
* `Linked.ringFree`: such parents form no ring;
* `Arena.Built`: arenas made by any number of changes and walks;
* `Arena.Built.parents_ringFree`: there is never a ring, so climbing from parent to parent ends.
-/

namespace Estree

open Relation

namespace Arena

/-- Node `p` is the recorded parent of `id`. -/
def ParentOf (a : Arena) (p id : NodeId) : Prop := a.parent id = some p

/-- No node is above itself. -/
def RingFree (a : Arena) : Prop := ∀ id, ¬ TransGen a.ParentOf id id

/-- The parents are nodes of the arena. -/
def ParentsInside (a : Arena) : Prop := ∀ id p, a.ParentOf p id → p < a.size

/-- Climbing from node to parent leads through these nodes, and no further. -/
inductive Climbs (a : Arena) : NodeId → List NodeId → Prop where
  /-- There is no parent. -/
  | stop {id : NodeId} (h : a.parent id = none) : Climbs a id []
  /-- There is one. -/
  | up {id p : NodeId} {above : List NodeId} (h : a.parent id = some p) :
    Climbs a p above → Climbs a id (p :: above)

/-- Nothing that can be reached from the root is below itself. -/
def AcyclicFrom (a : Arena) (root : NodeId) : Prop :=
  ∀ id, ReflTransGen a.HasSlot root id → ¬ TransGen a.HasSlot id id

/-- What can be reached from the root is in the arena, and nothing of it is below itself. -/
structure Walkable (a : Arena) (root : NodeId) : Prop where
  root_lt : root < a.size
  inside : ∀ p id, ReflTransGen a.HasSlot root p → a.HasSlot p id → id < a.size
  acyclic : ∀ id, ReflTransGen a.HasSlot root id → ¬ TransGen a.HasSlot id id

/-- The arenas that can be made: nodes are added, linked in any way and given members, and in
between there are walks over what can be walked at that time. -/
inductive Built : Arena → Prop where
  | empty : Built empty
  | add {a : Arena} (h : Built a) (kind : Kind) : Built (a.add kind)
  | setChild {a : Arena} (h : Built a) (id : NodeId) (field : String) (child : Child) :
    Built (a.setChild id field child)
  | setProp {a : Arena} (h : Built a) (id : NodeId) (key : String) (value : Json.Value) :
    Built (a.setProp id key value)
  | walk {a : Arena} (h : Built a) {σ : Type} (v : Visitor σ) (nulls : Bool) (steps : Nat)
    (root : NodeId) (m : σ) (hw : a.Walkable root)
    (hc : (a.walk v nulls steps root m).complete) : Built (a.walk v nulls steps root m).arena

variable {a : Arena}

theorem Walkable.lt_size {root id : NodeId} (hw : a.Walkable root)
    (h : ReflTransGen a.HasSlot root id) : id < a.size := by
  cases h with
  | refl => exact hw.root_lt
  | tail h hlast => exact hw.inside _ _ h hlast

/-! ### Parents after a change -/

theorem parent_of_le {id : NodeId} (h : a.size ≤ id) : a.parent id = none := by
  rw [Arena.parent, node_of_le h]

theorem lt_size_of_parentOf {p id : NodeId} (h : a.ParentOf p id) : id < a.size := by
  by_contra hle
  rw [ParentOf, parent_of_le (Nat.le_of_not_lt hle)] at h
  cases h

theorem parent_add (a : Arena) (kind : Kind) (id : NodeId) :
    (a.add kind).parent id = a.parent id := by
  by_cases h : id = a.size
  · subst h
    rw [parent_of_le (Nat.le_refl _), Arena.parent, Arena.add, node_push_size]
  · rw [Arena.parent, Arena.add, node_push_of_ne h, Arena.parent]

/-- A change that leaves the parent of a node alone leaves all parents alone. -/
theorem parent_modify (a : Arena) (id : NodeId) {f : Node → Node}
    (hf : ∀ n, (f n).parent = n.parent) (id' : NodeId) :
    (a.modify id f).parent id' = a.parent id' := by
  unfold Arena.parent
  rcases node_modify_or a id f id' with h | h
  · rw [h, hf]
  · rw [h]

theorem parent_setParent_self {id : NodeId} (h : id < a.size) (parent : Option NodeId) :
    (a.setParent id parent).parent id = parent := by
  unfold Arena.setParent Arena.parent
  rw [node_modify_self h]

theorem parent_setParent_of_ne {id id' : NodeId} (h : id ≠ id') (parent : Option NodeId) :
    (a.setParent id parent).parent id' = a.parent id' := by
  unfold Arena.setParent Arena.parent
  rw [node_modify_of_ne h]

theorem parent_push_of_ne {id : NodeId} (h : id ≠ a.size) (n : Node) :
    (a.push n).parent id = a.parent id := by
  unfold Arena.parent
  rw [node_push_of_ne h]

/-- The nodes that are kept keep their parents. -/
theorem parentOf_truncate {size : Nat} {p id : NodeId} (h : (a.truncate size).ParentOf p id) :
    id < size ∧ a.ParentOf p id := by
  unfold ParentOf Arena.parent Arena.node Arena.node? truncate at *
  rw [Array.take_eq_extract, Array.getElem?_extract, Nat.zero_add] at h
  split at h
  · next hlt =>
    rw [Nat.sub_zero] at hlt
    exact ⟨Nat.lt_of_lt_of_le hlt (Nat.min_le_left _ _), h⟩
  · cases h

theorem RingFree.congr {b : Arena} (h : a.RingFree) (hp : ∀ id, b.parent id = a.parent id) :
    b.RingFree := by
  intro id hring
  refine h id (TransGen.mono (fun p c hpc => ?_) _ _ hring)
  exact (hp c).symm.trans hpc

/-! ### Climbing -/

/-- What is met on a climb is above the node. -/
theorem above_of_mem {limit : Nat} {id p : NodeId} (h : p ∈ a.ancestorsUpTo limit id) :
    TransGen a.ParentOf p id := by
  induction limit generalizing id with
  | zero => cases h
  | succ limit ih =>
    unfold ancestorsUpTo at h
    split at h
    · cases h
    · next q hq =>
      rcases List.mem_cons.mp h with rfl | hmem
      · exact .single hq
      · exact (ih hmem).tail hq

/-- Without rings nothing is met twice. -/
theorem RingFree.nodup (h : a.RingFree) (limit : Nat) (id : NodeId) :
    (id :: a.ancestorsUpTo limit id).Nodup := by
  induction limit generalizing id with
  | zero => exact List.nodup_singleton id
  | succ limit ih =>
    refine List.nodup_cons.mpr ⟨fun hmem => h id (above_of_mem hmem), ?_⟩
    unfold ancestorsUpTo
    split
    · exact List.nodup_nil
    · next p _ => exact ih p

theorem length_ancestorsUpTo_le (limit : Nat) (id : NodeId) :
    (a.ancestorsUpTo limit id).length ≤ limit := by
  induction limit generalizing id with
  | zero => exact Nat.le_refl 0
  | succ limit ih =>
    unfold ancestorsUpTo
    split
    · exact Nat.zero_le _
    · next p _ => exact Nat.succ_le_succ (ih p)

/-- A climb with a limit gets to the end, or else it has used up the limit and every node on it has
a parent. -/
theorem climbs_or_all (a : Arena) (limit : Nat) (id : NodeId) :
    a.Climbs id (a.ancestorsUpTo limit id) ∨
      (a.ancestorsUpTo limit id).length = limit ∧
        ∀ x ∈ id :: a.ancestorsUpTo limit id, x < a.size := by
  induction limit generalizing id with
  | zero =>
    cases hp : a.parent id with
    | none => exact .inl (.stop hp)
    | some p => exact .inr ⟨rfl, List.forall_mem_singleton.mpr (lt_size_of_parentOf hp)⟩
  | succ limit ih =>
    unfold ancestorsUpTo
    split
    · next hp => exact .inl (.stop hp)
    · next p hp =>
      rcases ih p with hclimb | ⟨hlength, hall⟩
      · exact .inl (.up hp hclimb)
      · refine .inr ⟨congrArg (· + 1) hlength, ?_⟩
        exact List.forall_mem_cons.mpr ⟨lt_size_of_parentOf hp, hall⟩

/-- **Without rings a climb ends**, after as many steps as there are nodes at most. -/
theorem RingFree.climbs (h : a.RingFree) (id : NodeId) :
    a.Climbs id (a.ancestors id) ∧ (a.ancestors id).length ≤ a.size := by
  refine ⟨?_, length_ancestorsUpTo_le a.size id⟩
  rcases a.climbs_or_all a.size id with hclimb | ⟨hlength, hall⟩
  · exact hclimb
  · -- there are not that many nodes
    have hsub : id :: a.ancestorsUpTo a.size id ⊆ List.range a.size :=
      fun x hx => List.mem_range.mpr (hall x hx)
    have hle := (List.subperm_of_subset (h.nodup a.size id) hsub).length_le
    rw [List.length_cons, hlength, List.length_range] at hle
    omega

end Arena

namespace Walk

/-- In the middle of a walk from `root` over `a` the arena is `b`, and the nodes that have been
reached are `new`. Those have their parents among each other, along the slots of `a`; all others
have the parents they had. -/
structure Linked (a : Arena) (root : NodeId) (new : NodeId → Prop) (b : Arena) : Prop where
  grown : a.Grown b
  stale : ∀ id, ¬ new id → b.parent id = a.parent id
  fresh : ∀ id p, new id → b.ParentOf p id →
    new p ∧ ReflTransGen a.HasSlot root p ∧ (a.HasSlot p id ∨ a.size ≤ id)

/-- A slot that is about to be entered is a slot of a node that has been reached, or the root. -/
def Enters (a : Arena) (root : NodeId) (new : NodeId → Prop) :
    Option NodeId → Option NodeId → Prop
  | none, slot => slot = some root
  | some owner, slot =>
    new owner ∧ ReflTransGen a.HasSlot root owner ∧ ∀ id, slot = some id → a.HasSlot owner id

section Linked

variable {a b : Arena} {root : NodeId} {new : NodeId → Prop}

/-- Nothing has been reached. -/
theorem linked_start (a : Arena) (root : NodeId) : Linked a root (fun _ => False) a where
  grown := .refl a
  stale _ _ := rfl
  fresh _ _ hnew := hnew.elim

theorem Enters.mono {new' : NodeId → Prop} {parent slot : Option NodeId}
    (h : Enters a root new parent slot) (hsub : ∀ id, new id → new' id) :
    Enters a root new' parent slot := by
  cases parent with
  | none => exact h
  | some owner =>
    obtain ⟨hnew, hreach, hslot⟩ := h
    exact ⟨hsub owner hnew, hreach, hslot⟩

/-- What is in a slot that can be entered can be reached from the root. -/
theorem Enters.reaches {parent : Option NodeId} {id : NodeId}
    (h : Enters a root new parent (some id)) : ReflTransGen a.HasSlot root id := by
  cases parent with
  | none =>
    obtain rfl : id = root := Option.some.inj h
    exact .refl
  | some owner =>
    obtain ⟨-, hreach, hslot⟩ := h
    exact hreach.tail (hslot id rfl)

/-! ### No rings -/

/-- Above a node that has been reached there are only such nodes, and they are nodes of `a`. -/
theorem Linked.above (h : Linked a root new b) (hw : a.Walkable root) {x id : NodeId}
    (hx : TransGen b.ParentOf x id) (hid : new id) : new x ∧ x < a.size := by
  induction hx using TransGen.head_induction_on with
  | single hp =>
    obtain ⟨hnew, hreach, -⟩ := h.fresh _ _ hid hp
    exact ⟨hnew, hw.lt_size hreach⟩
  | head hp _ ih =>
    obtain ⟨hnew, hreach, -⟩ := h.fresh _ _ ih.1 hp
    exact ⟨hnew, hw.lt_size hreach⟩

/-- The way up from a node that has been reached is a way up in `a`. -/
theorem Linked.slots_of_above (h : Linked a root new b) (hw : a.Walkable root) {x id : NodeId}
    (hx : TransGen b.ParentOf x id) (hid : new id) (hlt : id < a.size) :
    TransGen a.HasSlot x id ∧ ReflTransGen a.HasSlot root x := by
  induction hx using TransGen.head_induction_on with
  | single hp =>
    obtain ⟨-, hreach, hslot⟩ := h.fresh _ _ hid hp
    exact ⟨.single (hslot.resolve_right (Nat.not_le_of_lt hlt)), hreach⟩
  | head hp hrest ih =>
    obtain ⟨hnew, hlt'⟩ := h.above hw hrest hid
    obtain ⟨-, hreach, hslot⟩ := h.fresh _ _ hnew hp
    exact ⟨.head (hslot.resolve_right (Nat.not_le_of_lt hlt')) ih.1, hreach⟩

/-- Below a node that has not been reached the parents are the old ones. -/
theorem Linked.stale_of_above (h : Linked a root new b) (hw : a.Walkable root) {x id : NodeId}
    (hx : TransGen b.ParentOf x id) (hnew : ¬ new x) : TransGen a.ParentOf x id := by
  induction hx with
  | @single id hp =>
    have hid : ¬ new id := fun hid => hnew (h.above hw (.single hp) hid).1
    rw [Arena.ParentOf, h.stale id hid] at hp
    exact .single hp
  | @tail y id hxy hp ih =>
    have hid : ¬ new id := fun hid => hnew (h.above hw (hxy.tail hp) hid).1
    rw [Arena.ParentOf, h.stale id hid] at hp
    exact ih.tail hp

/-- **Parents that are linked form no ring**: it would be a ring of the tree, or an old one. -/
theorem Linked.ringFree (h : Linked a root new b) (hw : a.Walkable root) (ha : a.RingFree) :
    b.RingFree := by
  intro id hring
  by_cases hid : new id
  · obtain ⟨-, hlt⟩ := h.above hw hring hid
    obtain ⟨hslots, hreach⟩ := h.slots_of_above hw hring hid hlt
    exact hw.acyclic id hreach hslots
  · exact ha id (h.stale_of_above hw hring hid)

/-! ### A walk keeps parents linked -/

/-- A node is reached through a slot of a node that has been reached, or it is the root. -/
theorem Linked.setParent (h : Linked a root new b) {parent : Option NodeId} {id : NodeId}
    (hid : id < a.size) (he : Enters a root new parent (some id)) :
    Linked a root (fun x => x = id ∨ new x) (b.setParent id parent) := by
  refine ⟨h.grown.setParent id parent, fun x hx => ?_, fun x p hx hp => ?_⟩
  · rw [not_or] at hx
    rw [Arena.parent_setParent_of_ne (Ne.symm hx.1)]
    exact h.stale x hx.2
  · by_cases heq : x = id
    · subst heq
      rw [Arena.ParentOf, Arena.parent_setParent_self (Nat.lt_of_lt_of_le hid h.grown.size)] at hp
      subst hp
      obtain ⟨hnew, hreach, hslot⟩ := he
      exact ⟨.inr hnew, hreach, .inl (hslot x rfl)⟩
    · rw [Arena.ParentOf, Arena.parent_setParent_of_ne (Ne.symm heq)] at hp
      obtain ⟨hnew, hreach, hslot⟩ := h.fresh x p (hx.resolve_left heq) hp
      exact ⟨.inr hnew, hreach, hslot⟩

/-- A placeholder is reached through a slot of a node that has been reached. -/
theorem Linked.push (h : Linked a root new b) {owner : NodeId}
    (he : Enters a root new (some owner) none) :
    Linked a root (fun x => x = b.size ∨ new x) (b.push (.placeholder owner)) := by
  refine ⟨h.grown.push owner, fun x hx => ?_, fun x p hx hp => ?_⟩
  · rw [not_or] at hx
    rw [Arena.parent_push_of_ne hx.1]
    exact h.stale x hx.2
  · by_cases heq : x = b.size
    · subst heq
      rw [Arena.ParentOf, Arena.parent, Arena.node_push_size] at hp
      obtain rfl : owner = p := Option.some.inj hp
      exact ⟨.inr he.1, he.2.1, .inr h.grown.size⟩
    · rw [Arena.ParentOf, Arena.parent_push_of_ne heq] at hp
      obtain ⟨hnew, hreach, hslot⟩ := h.fresh x p (hx.resolve_left heq) hp
      exact ⟨.inr hnew, hreach, hslot⟩

variable {σ : Type} {v : Visitor σ} {nulls : Bool} {parent : Option NodeId} {t t₁ u : Scene σ}

/-- Reaching what is in a slot keeps parents linked, and the slots of what is reached can be
entered. -/
theorem Linked.reach (h : Linked a root new t.arena) (hw : a.Walkable root)
    {slot : Option NodeId} {id : NodeId} (he : Enters a root new parent slot)
    (hr : t.reach nulls parent slot = some (id, t₁)) :
    ∃ new₁, (∀ x, new x → new₁ x) ∧ Linked a root new₁ t₁.arena ∧
      ∀ slots, t₁.arena.childSlots id = some slots →
        ∀ s ∈ slots, Enters a root new₁ (some id) s := by
  rcases reach_cases hr with ⟨rfl, rfl⟩ | ⟨rfl, -, rfl, owner, rfl, rfl⟩
  · have hreach := he.reaches
    have hlinked := h.setParent (hw.lt_size hreach) he
    refine ⟨_, fun x => Or.inr, hlinked, fun slots hs s hmem => ⟨.inl rfl, hreach, ?_⟩⟩
    rintro x rfl
    rw [Arena.HasSlot, ← hlinked.grown.slotsOf, Arena.slotsOf, hs]
    exact hmem
  · have hlinked := h.push he
    refine ⟨_, fun x => Or.inr, hlinked, fun slots hs s hmem => ?_⟩
    -- there is nothing below a placeholder
    have hblank := hlinked.grown.slotsOf t.arena.size
    rw [Arena.slotsOf, hs, Arena.slotsOf_of_le h.grown.size, Option.getD_some] at hblank
    subst hblank
    cases hmem

/-- **A traversal keeps parents linked**, and they are linked whenever the visitor is called. -/
theorem Traverses.linked {slots : List (Option NodeId)} {calls : List Call}
    (ht : Traverses v nulls parent slots t calls u) (hw : a.Walkable root)
    (h : Linked a root new t.arena) (he : ∀ s ∈ slots, Enters a root new parent s) :
    ∃ new', (∀ id, new id → new' id) ∧ Linked a root new' u.arena ∧
      ∀ call ∈ calls, ∃ new', Linked a root new' call.arena := by
  induction ht generalizing new with
  | nil => exact ⟨new, fun _ => id, h, List.forall_mem_nil _⟩
  | hole hr _ ih =>
    obtain ⟨-, hrest⟩ := List.forall_mem_cons.mp he
    exact ih h hrest
  | skip hr hb _ ih
  | unknown hr hb hs _ ih =>
    obtain ⟨hslot, hrest⟩ := List.forall_mem_cons.mp he
    obtain ⟨new₁, hsub₁, h₁, -⟩ := h.reach hw hslot hr
    obtain ⟨new', hsub, h', hcalls⟩ := ih h₁ fun s hs => (hrest s hs).mono hsub₁
    refine ⟨new', fun x hx => hsub x (hsub₁ x hx), h', ?_⟩
    exact List.forall_mem_cons.mpr ⟨⟨new₁, h₁⟩, List.forall_mem_cons.mpr ⟨⟨new₁, h₁⟩, hcalls⟩⟩
  | descend hr hb hs _ _ ih₁ ih₂ =>
    obtain ⟨hslot, hrest⟩ := List.forall_mem_cons.mp he
    obtain ⟨new₁, hsub₁, h₁, hinner⟩ := h.reach hw hslot hr
    obtain ⟨new₂, hsub₂, h₂, hcalls₁⟩ := ih₁ h₁ (hinner _ hs)
    obtain ⟨new', hsub, h', hcalls₂⟩ :=
      ih₂ h₂ fun s hs => ((hrest s hs).mono hsub₁).mono hsub₂
    refine ⟨new', fun x hx => hsub x (hsub₂ x (hsub₁ x hx)), h', ?_⟩
    refine List.forall_mem_cons.mpr ⟨⟨new₁, h₁⟩, List.forall_mem_append.mpr ⟨hcalls₁, ?_⟩⟩
    exact List.forall_mem_cons.mpr ⟨⟨new₂, h₂⟩, hcalls₂⟩

end Linked

end Walk

namespace Arena

open Walk (logging wanderer)

section Walks

variable {a : Arena} {σ : Type} {v : Visitor σ} {nulls : Bool} {steps : Nat} {root : NodeId} {m : σ}

/-- What a walk does to parents: they stay without rings, also whenever the visitor is called, and
in the end they are nodes of the arena. -/
theorem RingFree.walk (ha : a.RingFree) (hin : a.ParentsInside) (hw : a.Walkable root)
    (hc : (a.walk v nulls steps root m).complete) :
    (∀ call ∈ (a.walk (logging v) nulls steps root (m, [])).memory.2, call.arena.RingFree) ∧
    (a.walk v nulls steps root m).arena.RingFree ∧
    (a.walk v nulls steps root m).arena.size = a.size ∧
    (a.walk v nulls steps root m).arena.ParentsInside := by
  obtain ⟨calls, u, ht, hwalk⟩ := Walk.traverses_of_complete hc
  obtain ⟨new, -, hlinked, hcalls⟩ :=
    ht.linked hw (Walk.linked_start a root) (List.forall_mem_singleton.mpr rfl)
  have hsize : (a.walk v nulls steps root m).arena.size = a.size := by
    rw [hwalk]
    exact size_truncate hlinked.grown.size
  refine ⟨?_, ?_, hsize, ?_⟩
  · rw [Walk.logged_of_traverses hc ht]
    intro call hcall
    obtain ⟨new', h'⟩ := hcalls call hcall
    exact h'.ringFree hw ha
  · rw [hwalk]
    intro id hring
    exact hlinked.ringFree hw ha id
      (TransGen.mono (fun p c hpc => (parentOf_truncate hpc).2) _ _ hring)
  · intro id p hp
    rw [hsize]
    rw [hwalk] at hp
    obtain ⟨-, hp⟩ := parentOf_truncate hp
    by_cases hnew : new id
    · obtain ⟨-, hreach, -⟩ := hlinked.fresh id p hnew hp
      exact hw.lt_size hreach
    · rw [ParentOf, hlinked.stale id hnew] at hp
      exact hin id p hp

end Walks

/-- In an arena that has been made there are no rings, and the parents are nodes of it. -/
theorem Built.sound {a : Arena} (h : a.Built) : a.RingFree ∧ a.ParentsInside := by
  induction h with
  | empty =>
    have hparent : ∀ id p, ¬ Arena.empty.ParentOf p id :=
      fun id p hp => absurd (lt_size_of_parentOf hp) (Nat.not_lt_zero id)
    refine ⟨fun id hring => ?_, fun id p hp => absurd hp (hparent id p)⟩
    obtain ⟨p, -, hp⟩ := TransGen.tail'_iff.mp hring
    exact hparent id p hp
  | @add a _ kind ih =>
    refine ⟨ih.1.congr (parent_add a kind), fun id p hp => ?_⟩
    rw [ParentOf, parent_add] at hp
    rw [Arena.add, size_push]
    exact Nat.lt_succ_of_lt (ih.2 id p hp)
  | @setChild a _ id field child ih =>
    have hparent := parent_modify a id
      (f := fun n => { n with children := n.children.insert field child }) fun _ => rfl
    refine ⟨ih.1.congr hparent, fun id' p hp => ?_⟩
    rw [Arena.setChild, size_modify]
    exact ih.2 id' p ((hparent id').symm.trans hp)
  | @setProp a _ id key value ih =>
    have hparent := parent_modify a id
      (f := fun n => { n with props := n.props.insert key value }) fun _ => rfl
    refine ⟨ih.1.congr hparent, fun id' p hp => ?_⟩
    rw [Arena.setProp, size_modify]
    exact ih.2 id' p ((hparent id').symm.trans hp)
  | walk _ v nulls steps root m hw hc ih =>
    obtain ⟨-, hring, -, hin⟩ := ih.1.walk ih.2 hw hc
    exact ⟨hring, hin⟩

/-- **Recorded parents never form a ring**, whatever has been done to an arena, and climbing from
parent to parent ends after as many steps as there are nodes at most. The same is true of the arena
that a visitor is shown in the middle of a walk. After the walk no parent is a placeholder that has
been dropped. -/
theorem Built.parents_ringFree {a : Arena} (h : a.Built) :
    a.RingFree ∧ (∀ id, a.Climbs id (a.ancestors id) ∧ (a.ancestors id).length ≤ a.size) ∧
    ∀ {σ : Type} (v : Visitor σ) (nulls : Bool) (steps : Nat) (root : NodeId) (m : σ),
      a.Walkable root → (a.walk v nulls steps root m).complete →
      (∀ call ∈ (a.walk (logging v) nulls steps root (m, [])).memory.2,
        call.arena.RingFree ∧ ∀ id, call.arena.Climbs id (call.arena.ancestors id) ∧
          (call.arena.ancestors id).length ≤ call.arena.size) ∧
      ∀ id p, (a.walk v nulls steps root m).arena.parent id = some p → p < a.size := by
  obtain ⟨hring, hin⟩ := h.sound
  refine ⟨hring, hring.climbs, fun v nulls steps root m hw hc => ?_⟩
  obtain ⟨hcalls, -, hsize, hinside⟩ := hring.walk hin hw hc
  refine ⟨fun call hcall => ?_, fun id p hp => ?_⟩
  · have hcall := hcalls call hcall
    exact ⟨hcall, hcall.climbs⟩
  · rw [← hsize]
    exact hinside id p hp

/-! ### An example -/

theorem rank_lt_of_below {a : Arena} {rank : NodeId → Nat}
    (h : ∀ p id, a.HasSlot p id → rank p < rank id) {p id : NodeId}
    (hp : TransGen a.HasSlot p id) : rank p < rank id := by
  induction hp with
  | single hp => exact h _ _ hp
  | tail _ hlast ih => exact Nat.lt_trans ih (h _ _ hlast)

/-- Where every slot leads to a node of higher rank, any node can be the root of a walk. -/
theorem walkable_of_rank {a : Arena} (rank : NodeId → Nat)
    (h : ∀ p id, a.HasSlot p id → rank p < rank id ∧ id < a.size) {root : NodeId}
    (hroot : root < a.size) : a.Walkable root where
  root_lt := hroot
  inside p id _ hslot := (h p id hslot).2
  acyclic id _ hring :=
    Nat.lt_irrefl (rank id) (rank_lt_of_below (fun p id hslot => (h p id hslot).1) hring)

theorem forall_hasSlot {a : Arena} {P : NodeId → NodeId → Prop}
    (h : ∀ p < a.size, ∀ slot ∈ a.slotsOf p, ∀ id ∈ slot, P p id) (p id : NodeId)
    (hslot : a.HasSlot p id) : P p id :=
  h p (lt_size_of_hasSlot hslot) (some id) hslot id rfl

/-- Three nodes, the second of them below the first, and nothing below the third. -/
def threeNodes : Arena :=
  (((empty.add .awaitExpression).add .awaitExpression).add .awaitExpression).setChild 0 "argument"
    (.node 1)

/-- After a walk the first node is put below the third, and the third below the second. -/
def relinked : Arena :=
  let a := (threeNodes.walk wanderer false 10 0 ()).arena
  ((a.setChild 0 "argument" (.list [])).setChild 2 "argument" (.node 0)).setChild 1 "argument"
    (.node 2)

/-- After a walk from the third node, which does not come by the second, the second node has its
old parent, which is below it now. -/
def rewalked : Arena := (relinked.walk wanderer true 10 2 ()).arena

theorem rewalked_ringFree :
    rewalked.Built ∧ rewalked.RingFree ∧ rewalked.Climbs 1 [0, 2] := by
  have h₁ : threeNodes.Walkable 0 :=
    walkable_of_rank id (forall_hasSlot (by decide)) (by decide)
  have h₂ : relinked.Walkable 2 :=
    walkable_of_rank (fun id => (id + 2) % 3) (forall_hasSlot (by decide)) (by decide)
  have hthree : threeNodes.Built := .setChild (.add (.add (.add .empty _) _) _) _ _ _
  have hrelinked : relinked.Built :=
    .setChild (.setChild (.setChild (.walk hthree _ _ _ _ _ h₁ rfl) _ _ _) _ _ _) _ _ _
  have hb : rewalked.Built := .walk hrelinked _ _ _ _ _ h₂ rfl
  obtain ⟨hring, hclimbs, -⟩ := hb.parents_ringFree
  exact ⟨hb, hring, (hclimbs 1).1⟩

end Arena

end Estree
