import Estree.Proofs.Outline.Forest
import Mathlib.Logic.Relation

/-!
# Depth limits and collapsed kinds only hide

An outline that is limited in depth, or collapses some kinds, does not descend into some nodes. From
there on its walk differs from that of the whole outline: it makes fewer placeholders, so those it
makes later have other indices. All the same it shows what the whole outline shows, but for what is
below the nodes it does not descend into.

The two are followed through the slots of one node at a time. The whole one adds the lines of a
forest, and the restricted one those of the pruned forest; where it does not descend, it is compared
with what it would have done.

* `Outline.Twins`: the two are about to go through the same slots;
* `Outline.Hides`: what they do with these slots;
* `Outline.hides_of_traverses`: they do so;
* `Arena.outline_restricted`: what a restricted outline is, told from the whole one.
-/

namespace Estree

open Arena (orphan)
open Progress (Quantity Receiver)
open Relation (ReflTransGen)
open Walk (Call Scene Traverses logging visits)

namespace Outline

/-- What is below the root is in `b` as it is in `a`, but for the parents. If nulls are walked, all
of it is there, so that no placeholder gets in its place. -/
def Holds (a : Arena) (root : NodeId) (nulls : Bool) (b : Arena) : Prop :=
  ∀ id, ReflTransGen a.HasSlot root id →
    orphan (b.node id) = orphan (a.node id) ∧ (nulls = true → id < b.size)

section Holds

variable {a b : Arena} {root : NodeId} {nulls : Bool}

theorem Holds.setParent (h : Holds a root nulls b) (id : NodeId) (parent : Option NodeId) :
    Holds a root nulls (b.setParent id parent) := by
  intro id' hid'
  obtain ⟨hnode, hlt⟩ := h id' hid'
  rw [Arena.orphan_setParent, Arena.setParent, Arena.size_modify]
  exact ⟨hnode, hlt⟩

theorem Holds.push (h : Holds a root true b) (n : Node) : Holds a root true (b.push n) := by
  intro id hid
  obtain ⟨hnode, hlt⟩ := h id hid
  have hlt := hlt rfl
  rw [Arena.node_push_of_ne (Nat.ne_of_lt hlt), Arena.size_push]
  exact ⟨hnode, fun _ => Nat.lt_succ_of_lt hlt⟩

/-- What is in the slots of a node below the root is below the root. -/
theorem Holds.below (h : Holds a root nulls b) {id child : NodeId}
    (hid : ReflTransGen a.HasSlot root id) (hchild : some child ∈ b.slotsOf id) :
    ReflTransGen a.HasSlot root child := by
  rw [Arena.slotsOf_of_orphan (h id hid).1] at hchild
  exact hid.tail hchild

end Holds

/-! ### The two outlines -/

section Twins

variable {α β σ τ : Type} {r₀ : Receiver β τ} {r : Receiver α σ} {a : Arena} {root : NodeId}

/-- Nobody stops the outline, and the tree holds what is below the root. -/
structure Ready (a : Arena) (root : NodeId) (nulls : Bool) (r : Receiver α σ)
    (t : Scene (Draft σ)) : Prop where
  running : t.memory.Running r
  holds : Holds a root nulls t.arena

/-- The whole outline and the restricted one are at the same place. -/
structure Twins (a : Arena) (root : NodeId) (nulls : Bool) (r₀ : Receiver β τ) (r : Receiver α σ)
    (t : Scene (Draft τ)) (t' : Scene (Draft σ)) : Prop where
  whole : Ready a root nulls r₀ t
  restricted : Ready a root nulls r t'
  frames : t'.memory.frames = t.memory.frames

/-- From `t` to `u` these lines have been added, and what is reported of their nodes. -/
structure Added (lines : List (Entry × NodeId)) (t u : Scene (Draft σ)) : Prop where
  frames : u.memory.frames.tail = t.memory.frames.tail
  entries : u.memory.entries.toList = t.memory.entries.toList ++ lines.map Prod.fst
  unknown : u.report.unknownKinds.toList =
    t.report.unknownKinds.toList ++ lines.filterMap unknown?

theorem Added.refl (t : Scene (Draft σ)) : Added [] t t where
  frames := rfl
  entries := by simp
  unknown := by simp

theorem Added.declined (t : Scene (Draft σ)) : Added [] t t.declined where
  frames := rfl
  entries := (Added.refl t).entries
  unknown := (Added.refl t).unknown

theorem Added.trans {lines more : List (Entry × NodeId)} {t t₁ u : Scene (Draft σ)}
    (h : Added lines t t₁) (h' : Added more t₁ u) : Added (lines ++ more) t u where
  frames := h'.frames.trans h.frames
  entries := by rw [h'.entries, h.entries, List.map_append, List.append_assoc]
  unknown := by rw [h'.unknown, h.unknown, List.filterMap_append, List.append_assoc]

theorem Ready.reach {nulls : Bool} {parent slot : Option NodeId} {id : NodeId}
    {t t₁ : Scene (Draft σ)} (h : Ready a root nulls r t)
    (hr : t.reach nulls parent slot = some (id, t₁)) : Ready a root nulls r t₁ := by
  rcases Walk.reach_cases hr with ⟨-, rfl⟩ | ⟨-, rfl, -, owner, -, rfl⟩
  · exact ⟨h.running, h.holds.setParent id parent⟩
  · exact ⟨h.running, h.holds.push _⟩

section Places

variable {s : Settings} {parent slot : Option NodeId} {slots rest : List (Option NodeId)}
  {id id' : NodeId} {calls inner : List Call} {t t₁ t₂ u : Scene (Draft τ)}
  {t' t₁' t₂' : Scene (Draft σ)}

theorem shownSlots_of_reach (hr : t.reach s.nulls parent slot = some (id, t₁)) :
    shownSlots s (slot :: rest) = slot :: shownSlots s rest := by
  rcases Walk.reach_cases hr with ⟨rfl, -⟩ | ⟨rfl, hnulls, -⟩ <;> simp [shownSlots, *]

theorem shownSlots_of_hole (hr : t.reach s.nulls parent slot = none)
    (hp : none ∈ slot :: rest → parent.isSome) :
    shownSlots s (slot :: rest) = shownSlots s rest := by
  cases slot with
  | some id => cases hr
  | none =>
    obtain ⟨owner, rfl⟩ := Option.isSome_iff_exists.mp (hp List.mem_cons_self)
    rw [shownSlots_none, nulls_of_reach_none hr, if_neg Bool.false_ne_true]

theorem visible_look {b b' : Arena} {id id' : NodeId}
    (h : orphan (b'.node id') = orphan (b.node id)) (s : Settings) :
    visible s b' id' = visible s b id := by
  rw [visible, Arena.childSlots_of_orphan h, visible]

theorem entryOf_look {b b' : Arena} {id id' : NodeId}
    (h : orphan (b'.node id') = orphan (b.node id)) (frames : List Frame) (hidden : Nat) :
    entryOf b' id' frames hidden = entryOf b id frames hidden := by
  rw [entryOf, Arena.kind_of_orphan h, Arena.label_of_orphan h, Arena.synthetic_of_orphan h,
    entryOf]

/-- Through a slot the two have reached nodes that look the same: the same node, or placeholders. -/
structure Meets (a : Arena) (root : NodeId) (s : Settings) (r₀ : Receiver β τ) (r : Receiver α σ)
    (parent slot : Option NodeId) (t : Scene (Draft τ)) (t' : Scene (Draft σ)) (id id' : NodeId)
    (t₁ : Scene (Draft τ)) (t₁' : Scene (Draft σ)) : Prop where
  reach : t.reach s.nulls parent slot = some (id, t₁)
  reach' : t'.reach s.nulls parent slot = some (id', t₁')
  twins : Twins a root s.nulls r₀ r t₁ t₁'
  look : orphan (t₁'.arena.node id') = orphan (t₁.arena.node id)
  same : id' = id ∨ t₁.arena.childSlots id = some []
  below : ∀ child, some child ∈ t₁.arena.slotsOf id → ReflTransGen a.HasSlot root child

/-- If the whole outline reaches something, the two meet. -/
theorem Twins.meets (h : Twins a root s.nulls r₀ r t t')
    (hslot : ∀ id, slot = some id → ReflTransGen a.HasSlot root id)
    (hr : t.reach s.nulls parent slot = some (id, t₁)) :
    ∃ id' t₁', Meets a root s r₀ r parent slot t t' id id' t₁ t₁' := by
  obtain ⟨id', t₁', hr', hmemory', -⟩ := Walk.reach_beside hr t'
  obtain ⟨hmemory, -⟩ := Walk.scene_of_reach hr
  have hready := h.whole.reach hr
  have hready' := h.restricted.reach hr'
  have hframes : t₁'.memory.frames = t₁.memory.frames := by rw [hmemory, hmemory', h.frames]
  rcases Walk.reach_cases hr with ⟨rfl, -⟩ | ⟨rfl, hnulls, rfl, owner, rfl, rfl⟩
  · cases hr'
    have hid := hslot id rfl
    refine ⟨id, _, hr, rfl, ⟨hready, hready', hframes⟩, ?_, .inl rfl,
      fun child hchild => hready.holds.below hid hchild⟩
    rw [(hready.holds id hid).1, (hready'.holds id hid).1]
  · have hlast : t₁'.arena.node id' = .placeholder owner := by
      simp only [Scene.reach, hnulls] at hr'
      cases hr'
      rw [Arena.node_push_size]
    have hslots : (t.arena.push (.placeholder owner)).childSlots t.arena.size = some [] := by
      rw [Arena.childSlots, Arena.node_push_size]
      rfl
    refine ⟨id', t₁', hr, hr', ⟨hready, hready', hframes⟩, ?_, .inr hslots, ?_⟩
    · rw [hlast, Arena.node_push_size]
    · simp [Arena.slotsOf, hslots]

/-- The entry of a node of which nothing is hidden. -/
def wholeEntry (id : NodeId) (t : Scene (Draft σ)) : Entry :=
  entryOf t.arena id (countDown t.memory.frames) 0

/-- The two make the same entry, but for what is hidden. -/
theorem Meets.entry (h : Meets a root s r₀ r parent slot t t' id id' t₁ t₁') (hidden : Nat) :
    entryOf t₁'.arena id' (countDown t₁'.memory.frames) hidden =
      { wholeEntry id t₁ with hidden } := by
  rw [h.twins.frames, entryOf_look h.look]
  rfl

theorem Meets.depth (h : Meets a root s r₀ r parent slot t t' id id' t₁ t₁') :
    (wholeEntry id t₁).depth = t.memory.frames.length := by
  obtain ⟨hmemory, -⟩ := Walk.scene_of_reach h.reach
  rw [← hmemory]
  exact length_countDown _

end Places

/-! ### The lines of one node -/

/-- The visitor has recorded a node and opened its frame. -/
def arrived [Quantity α] (r : Receiver α σ) (id : NodeId) (hidden remaining : Nat)
    (t : Scene (Draft σ)) : Scene (Draft σ) :=
  t.shown (arrive r t.arena id hidden remaining t.memory)

section Steps

variable [Quantity α] {nulls : Bool} {parent slot : Option NodeId} {id : NodeId} {s : Settings}
  {hidden remaining : Nat} {e : Entry} {lines : List (Entry × NodeId)} {t t₁ t₂ : Scene (Draft σ)}

theorem Ready.arrived (h : Ready a root nulls r t) (id : NodeId) (hidden remaining : Nat) :
    Ready a root nulls r (arrived r id hidden remaining t) :=
  ⟨h.running.arrive _ id hidden remaining, h.holds⟩

theorem Ready.leave (h : Ready a root nulls r t) (id : NodeId) :
    Ready a root nulls r (t.leave (visitor s r) id) := ⟨h.running.left, h.holds⟩

/-- When a node has been left, one child of the innermost open node less is to come. -/
theorem Added.frames_leave (h : Added lines (arrived r id hidden remaining t₁) t₂) :
    (t₂.leave (visitor s r) id).memory.frames = countDown t₁.memory.frames := h.frames

/-- A node whose kind is known adds its line and those of what is below it. -/
theorem Added.node (hr : t.reach nulls parent slot = some (id, t₁))
    (he : entryOf t₁.arena id (countDown t₁.memory.frames) hidden = e) {id₀ : NodeId}
    (hknown : unknown? (e, id₀) = none) (h : Added lines (arrived r id hidden remaining t₁) t₂) :
    Added ((e, id₀) :: lines) t (t₂.leave (visitor s r) id) := by
  obtain ⟨hmemory, hreport⟩ := Walk.scene_of_reach hr
  have hentries : t₂.memory.entries.toList =
      (t₁.memory.entries.push (entryOf t₁.arena id (countDown t₁.memory.frames) hidden)).toList ++
        lines.map Prod.fst := h.entries
  have hunknown : t₂.report.unknownKinds.toList =
      t₁.report.unknownKinds.toList ++ lines.filterMap unknown? := h.unknown
  refine ⟨?_, ?_, ?_⟩
  · rw [h.frames_leave, tail_countDown, hmemory]
  · show t₂.memory.entries.toList = _
    rw [hentries, he, hmemory]
    simp
  · show t₂.report.unknownKinds.toList = _
    rw [hunknown, hreport, List.filterMap_cons_none hknown]

/-- A node whose kind is not known adds its line, and is reported. -/
theorem Added.stuck (hr : t.reach nulls parent slot = some (id, t₁))
    (hs : t₁.arena.childSlots id = none)
    (he : entryOf t₁.arena id (countDown t₁.memory.frames) hidden = e) :
    Added [(e, id)] t
      (((arrived r id hidden remaining t₁).stuckAt id).leave (visitor s r) id) := by
  obtain ⟨hmemory, hreport⟩ := Walk.scene_of_reach hr
  have hkind : e.kind = t₁.arena.kind id := by rw [← he, entryOf]
  have hunknown : e.kind.isUnknown = true := by
    rwa [Walk.childSlots_eq_none_iff, Walk.walkOrder_eq_none_iff, ← hkind] at hs
  have hone : unknown? (e, id) = some ⟨(t₁.arena.kind id).name, id⟩ := by
    rw [unknown?, if_pos hunknown, hkind]
  refine ⟨?_, ?_, ?_⟩
  · show (countDown t₁.memory.frames).tail = t.memory.frames.tail
    rw [tail_countDown, hmemory]
  · show (t₁.memory.entries.push _).toList = _
    rw [he, hmemory]
    simp
  · show (t₁.report.unknownKinds.push _).toList = _
    rw [hreport, List.filterMap_cons_some hone]
    exact Array.toList_push

end Steps

variable {s : Settings} {parent slot : Option NodeId} {slots rest : List (Option NodeId)}
  {id id' : NodeId} {calls inner : List Call} {t t₁ t₂ u : Scene (Draft τ)}
  {t' t₁' t₂' : Scene (Draft σ)}

/-- The whole outline adds the line of a node and the lines of what is below it. The restricted one
adds the line of the node as well, and of what is below it what is to be shown. -/
structure NodeHides (a : Arena) (root : NodeId) (s : Settings) (r₀ : Receiver β τ)
    (r : Receiver α σ) [Quantity α] (parent slot : Option NodeId) (t : Scene (Draft τ))
    (t' : Scene (Draft σ)) (id : NodeId) (inner : List Call) (t₂ : Scene (Draft τ)) (e : Entry)
    (B : Forest) (t₂' : Scene (Draft σ)) : Prop where
  depth : e.depth = t.memory.frames.length
  at_succ : B.At (e.depth + 1)
  visits : visits inner = B.nodes
  frames : t₂.memory.frames = countDown t.memory.frames
  added : Added ((e, id) :: B.flat) t t₂
  pruned : Added (({ e with hidden := if s.cuts e then B.width else 0 }, id) ::
    if s.cuts e then [] else B.pruned s) t' t₂'
  twins : Twins a root s.nulls r₀ r t₂ t₂'
  goes_on : ∀ rest calls u, Traverses (visitor s r) s.nulls parent rest t₂' calls u →
    ∃ calls', Traverses (visitor s r) s.nulls parent (slot :: rest) t' calls' u

/-- The whole outline adds the lines of a forest, and the restricted one goes through the same slots
and adds the lines of the pruned forest. -/
def Hides (a : Arena) (root : NodeId) (s : Settings) (r₀ : Receiver β τ) (r : Receiver α σ)
    [Quantity α] (parent : Option NodeId) (slots : List (Option NodeId)) (t : Scene (Draft τ))
    (t' : Scene (Draft σ)) (calls : List Call) (u : Scene (Draft τ)) : Prop :=
  ∃ F : Forest, F.At t.memory.frames.length ∧ F.width = (shownSlots s slots).length ∧
    visits calls = F.nodes ∧ Added F.flat t u ∧
    ∃ calls' u', Traverses (visitor s r) s.nulls parent slots t' calls' u' ∧
      Added (F.pruned s) t' u' ∧ Twins a root s.nulls r₀ r u u'

variable [Quantity α]

/-- The restricted outline does not descend into a node that has children and is shown without. -/
theorem Meets.answer (h : Meets a root s r₀ r parent slot t t' id id' t₁ t₁') :
    (visitor s r).before t₁'.arena id' t₁'.memory =
      if visible s t₁.arena id ≠ [] ∧ s.cuts (wholeEntry id t₁) then
        (.skip, arrive r t₁'.arena id' (visible s t₁.arena id).length 0 t₁'.memory)
      else (.descend, arrive r t₁'.arena id' 0 (visible s t₁.arena id).length t₁'.memory) := by
  have hrunning := h.twins.restricted.running
  rw [visitor_before hrunning.canceled hrunning.quiet, visible_look h.look,
    Arena.kind_of_orphan h.look, h.twins.frames]
  simp only [Settings.cuts, wholeEntry, entryOf, length_countDown]

/-- A node with what is below it, and the slots after it. -/
theorem NodeHides.cons {e : Entry} {B : Forest}
    (h : NodeHides a root s r₀ r parent slot t t' id inner t₂ e B t₂')
    (hr : t.reach s.nulls parent slot = some (id, t₁)) (a₁ a₂ : Arena)
    (hrest : Hides a root s r₀ r parent rest t₂ t₂' calls u) :
    Hides a root s r₀ r parent (slot :: rest) t t'
      (.before a₁ id :: (inner ++ .after a₂ id :: calls)) u := by
  obtain ⟨R, hR, hwidth, hvisits, hadded, calls', u', ht, hadded', htwins⟩ := hrest
  obtain ⟨calls'', ht⟩ := h.goes_on rest calls' u' ht
  rw [h.frames, length_countDown, ← h.depth] at hR
  refine ⟨.cons e id B R, ⟨h.depth, h.depth ▸ h.at_succ, h.depth ▸ hR⟩, ?_, ?_, ?_, calls'', u', ht,
    h.pruned.trans hadded', htwins⟩
  · rw [Forest.width, hwidth, shownSlots_of_reach hr, List.length_cons]
  · simp [h.visits, hvisits]
  · have hflat : (Forest.cons e id B R).flat = (e, id) :: B.flat ++ R.flat := rfl
    rw [hflat]
    exact h.added.trans hadded

theorem Twins.arrived [Quantity β] (h : Twins a root s.nulls r₀ r t t') (id id' : NodeId)
    (hidden remaining : Nat) :
    Twins a root s.nulls r₀ r (arrived r₀ id 0 remaining t)
      (arrived r id' hidden remaining t') where
  whole := h.whole.arrived id 0 remaining
  restricted := h.restricted.arrived id' hidden remaining
  frames := by simp [Outline.arrived, Scene.shown, Outline.arrive, Draft.enter, h.frames]

theorem Twins.leave [Quantity β] (h : Twins a root s.nulls r₀ r t t') (id id' : NodeId) :
    Twins a root s.nulls r₀ r (t.leave (visitor { nulls := s.nulls } r₀) id)
      (t'.leave (visitor s r) id') where
  whole := h.whole.leave id
  restricted := h.restricted.leave id'
  frames := congrArg List.tail h.frames

variable [Quantity β]

/-- A node whose kind is not known. -/
theorem Meets.stuck (h : Meets a root s r₀ r parent slot t t' id id' t₁ t₁')
    (hs : t₁.arena.childSlots id = none) :
    NodeHides a root s r₀ r parent slot t t' id []
      (((arrived r₀ id 0 (visible s t₁.arena id).length t₁).stuckAt id).leave
        (visitor { nulls := s.nulls } r₀) id) (wholeEntry id t₁) .nil
      (((arrived r id 0 (visible s t₁.arena id).length t₁').stuckAt id).leave (visitor s r) id) := by
  obtain ⟨hmemory, -⟩ := Walk.scene_of_reach h.reach
  obtain rfl : id' = id := by simpa [hs] using h.same
  have hs' : t₁'.arena.childSlots id' = none := by rw [Arena.childSlots_of_orphan h.look, hs]
  have hvisible : visible s t₁.arena id' = [] := by rw [visible, hs]; rfl
  have hb := h.answer
  rw [if_neg (by simp [hvisible])] at hb
  have htwins := h.twins.arrived id' id' 0 (visible s t₁.arena id').length
  refine ⟨h.depth, trivial, rfl, hmemory ▸ rfl, .stuck h.reach hs rfl, ?_, ?_, ?_⟩
  · rw [Forest.prune_eq rfl fun _ => rfl]
    exact .stuck h.reach' hs' (h.entry 0)
  · exact ⟨⟨htwins.whole.running.left, htwins.whole.holds⟩,
      ⟨htwins.restricted.running.left, htwins.restricted.holds⟩, congrArg List.tail htwins.frames⟩
  · exact fun rest calls u ht => ⟨_, .unknown h.reach' hb hs' ht⟩

theorem unknown?_eq_none (hs : t₁.arena.childSlots id = some slots) {e : Entry}
    (he : e.kind = t₁.arena.kind id) (id' : NodeId) : unknown? (e, id') = none := by
  refine if_neg fun hunknown => ?_
  rw [he, ← Walk.walkOrder_eq_none_iff, ← Walk.childSlots_eq_none_iff, hs] at hunknown
  cases hunknown

/-- A node that has children and is shown without what is below it. -/
theorem Meets.hidden (h : Meets a root s r₀ r parent slot t t' id id' t₁ t₁')
    (hs : t₁.arena.childSlots id = some slots)
    (hcut : visible s t₁.arena id ≠ [] ∧ s.cuts (wholeEntry id t₁))
    (hbelow : Hides a root s r₀ r (some id) slots
      (arrived r₀ id 0 (visible s t₁.arena id).length t₁)
      (arrived r id' 0 (visible s t₁.arena id).length t₁') inner t₂) :
    ∃ B t₂', NodeHides a root s r₀ r parent slot t t' id inner
      (t₂.leave (visitor { nulls := s.nulls } r₀) id) (wholeEntry id t₁) B t₂' := by
  obtain ⟨hmemory, -⟩ := Walk.scene_of_reach h.reach
  obtain ⟨B, hB, hwidth, hvisits, hadded, -, t₂', -, -, htwins⟩ := hbelow
  have hvisible : visible s t₁.arena id = shownSlots s slots := by rw [visible, hs]; rfl
  have hframes : (t₂.leave (visitor { nulls := s.nulls } r₀) id).memory.frames =
      countDown t₁.memory.frames := hadded.frames_leave
  have hready := h.twins.restricted.arrived id' B.width 0
  have hb := h.answer
  rw [if_pos hcut, hvisible, ← hwidth] at hb
  refine ⟨B, (arrived r id' B.width 0 t₁').declined.leave (visitor s r) id', h.depth, hB, hvisits,
    hmemory ▸ hframes, .node h.reach rfl (unknown?_eq_none hs rfl id) hadded, ?_, ?_, ?_⟩
  · rw [if_pos hcut.2, if_pos hcut.2]
    exact .node h.reach' (h.entry B.width) (unknown?_eq_none hs rfl id) (.declined _)
  · exact ⟨htwins.whole.leave id, ⟨hready.running.left, hready.holds⟩,
      (congrArg countDown h.twins.frames).trans hframes.symm⟩
  · exact fun rest calls u ht => ⟨_, .skip h.reach' hb ht⟩

/-- Any other node, with what is below it. -/
theorem Meets.descends (h : Meets a root s r₀ r parent slot t t' id id' t₁ t₁')
    (hs : t₁.arena.childSlots id = some slots)
    (hcut : ¬ (visible s t₁.arena id ≠ [] ∧ s.cuts (wholeEntry id t₁)))
    (hbelow : Hides a root s r₀ r (some id) slots
      (arrived r₀ id 0 (visible s t₁.arena id).length t₁)
      (arrived r id' 0 (visible s t₁.arena id).length t₁') inner t₂) :
    ∃ B t₂', NodeHides a root s r₀ r parent slot t t' id inner
      (t₂.leave (visitor { nulls := s.nulls } r₀) id) (wholeEntry id t₁) B t₂' := by
  obtain ⟨hmemory, -⟩ := Walk.scene_of_reach h.reach
  obtain ⟨B, hB, hwidth, hvisits, hadded, inner', t₂', ht, hadded', htwins⟩ := hbelow
  have hs' : t₁'.arena.childSlots id' = some slots := by
    rw [Arena.childSlots_of_orphan h.look, hs]
  have hvisible : visible s t₁.arena id = shownSlots s slots := by rw [visible, hs]; rfl
  have hframes : (t₂.leave (visitor { nulls := s.nulls } r₀) id).memory.frames =
      countDown t₁.memory.frames := hadded.frames_leave
  have hb := h.answer
  rw [if_neg hcut] at hb
  -- it may be shown without what is below it, but then there is nothing
  have hempty : s.cuts (wholeEntry id t₁) → B.width = 0 := by
    intro hcuts
    have hnone : visible s t₁.arena id = [] := by simpa [hcuts] using hcut
    rw [hwidth, ← hvisible, hnone]
    rfl
  -- placeholders may have different indices, but have no slots
  have ht' : Traverses (visitor s r) s.nulls (some id') slots
      (arrived r id' 0 (visible s t₁.arena id).length t₁') inner' t₂' := by
    rcases h.same with rfl | hnone
    · exact ht
    · obtain rfl : slots = [] := by simpa [hs] using hnone
      cases ht
      exact .nil
  refine ⟨B, t₂'.leave (visitor s r) id', h.depth, hB, hvisits, hmemory ▸ hframes,
    .node h.reach rfl (unknown?_eq_none hs rfl id) hadded, ?_, htwins.leave id id', ?_⟩
  · rw [Forest.prune_eq rfl hempty]
    exact .node h.reach' (h.entry 0) (unknown?_eq_none hs rfl id) hadded'
  · exact fun rest calls u ht => ⟨_, .descend h.reach' hb hs' ht' ht⟩

/-- A node whose kind is known. -/
theorem Meets.node (h : Meets a root s r₀ r parent slot t t' id id' t₁ t₁')
    (hs : t₁.arena.childSlots id = some slots)
    (hbelow : Hides a root s r₀ r (some id) slots
      (arrived r₀ id 0 (visible s t₁.arena id).length t₁)
      (arrived r id' 0 (visible s t₁.arena id).length t₁') inner t₂) :
    ∃ B t₂', NodeHides a root s r₀ r parent slot t t' id inner
      (t₂.leave (visitor { nulls := s.nulls } r₀) id) (wholeEntry id t₁) B t₂' := by
  by_cases hcut : visible s t₁.arena id ≠ [] ∧ s.cuts (wholeEntry id t₁)
  · exact h.hidden hs hcut hbelow
  · exact h.descends hs hcut hbelow

/-! ### The lines of some slots -/

/-- **A restricted outline hides branches of the whole one and does nothing else.** -/
theorem hides_of_traverses
    (h : Traverses (visitor { nulls := s.nulls } r₀) s.nulls parent slots t calls u)
    (hp : none ∈ slots → parent.isSome)
    (hslots : ∀ id, some id ∈ slots → ReflTransGen a.HasSlot root id)
    (ht : Twins a root s.nulls r₀ r t t') :
    Hides a root s r₀ r parent slots t t' calls u := by
  induction h generalizing t' with
  | nil => exact ⟨.nil, trivial, rfl, rfl, .refl _, [], t', .nil, .refl _, ht⟩
  | @hole _ slot _ _ _ _ hr _ ih =>
    obtain ⟨F, hF, hwidth, hvisits, hadded, calls', u', ht', hrest⟩ :=
      ih (fun hmem => hp (List.mem_cons_of_mem slot hmem))
        (fun id hid => hslots id (List.mem_cons_of_mem slot hid)) ht
    rw [← shownSlots_of_hole hr hp] at hwidth
    exact ⟨F, hF, hwidth, hvisits, hadded, calls', u', .hole (Walk.reach_none_beside hr t') ht',
      hrest⟩
  | skip hr hb _ ih =>
    -- where nothing is to be hidden, the visitor descends
    rw [(ht.whole.reach hr).running.before] at hb
    cases hb
  | @unknown _ slot _ _ t₁ _ _ id _ hr hb hs _ ih =>
    obtain ⟨id', t₁', hmeets⟩ := ht.meets (fun id hid => hslots id (hid ▸ List.mem_cons_self)) hr
    rw [hmeets.twins.whole.running.before] at hb
    obtain rfl := (Prod.mk.inj hb).2
    have hnode := hmeets.stuck hs
    have hrest := ih (fun hmem => hp (List.mem_cons_of_mem slot hmem))
      (fun id hid => hslots id (List.mem_cons_of_mem slot hid)) hnode.twins
    exact hnode.cons hr t₁.arena t₁.arena hrest
  | @descend _ slot _ slots _ t₁ t₂ _ _ _ id _ hr hb hs _ _ ih₁ ih₂ =>
    obtain ⟨id', t₁', hmeets⟩ := ht.meets (fun id hid => hslots id (hid ▸ List.mem_cons_self)) hr
    rw [hmeets.twins.whole.running.before] at hb
    obtain rfl := (Prod.mk.inj hb).2
    have hslots' : ∀ child, some child ∈ slots → ReflTransGen a.HasSlot root child := by
      intro child hchild
      exact hmeets.below child (by rwa [Arena.slotsOf, hs])
    have hinner := ih₁ (fun _ => rfl) hslots' (hmeets.twins.arrived id id' 0 _)
    obtain ⟨B, t₂', hnode⟩ := hmeets.node hs hinner
    have hrest := ih₂ (fun hmem => hp (List.mem_cons_of_mem slot hmem))
      (fun id hid => hslots id (List.mem_cons_of_mem slot hid)) hnode.twins
    exact hnode.cons hr t₁.arena t₂.arena hrest

end Twins

end Outline

namespace Arena

open Outline

variable {α β σ τ : Type} [Quantity α] [Quantity β] {a : Arena} {s : Settings} {root : NodeId}

/-- **Depth limits and collapsed kinds only hide.** If the whole outline ends, so does a restricted
one. It has the lines of the whole one that are not below a node that is shown without what is below
it, each as it is there, but for the number of children that are hidden: for a node that is shown
without what is below it, this is the number of its children in the whole outline. The unknown kinds
that are reported are those of the lines that are kept.

Each line of the whole outline is in one line of each depth above its own. Which line belongs to
which node is told by the nodes that the walk shows to its visitor. Where placeholders are appended,
the indices below the root must be those of nodes. -/
theorem outline_restricted {r₀ : Receiver β τ} {p₀ : τ} (hq₀ : NeverCancels r₀ p₀) {steps₀ : Nat}
    (hc : (a.outline { nulls := s.nulls } r₀ steps₀ root p₀).complete)
    (hin : s.nulls = true → ∀ id, ReflTransGen a.HasSlot root id → id < a.size)
    {r : Receiver α σ} {p : σ} (hq : NeverCancels r p) :
    let whole := (a.outline { nulls := s.nulls } r₀ steps₀ root p₀).outline
    let nodes := visits (a.walk (logging (visitor { nulls := s.nulls } r₀)) s.nulls steps₀ root
      (blank r₀ a p₀, [])).memory.2
    let lines := (spots [] whole.entries.toList []).zip nodes
    nodes.length = whole.entries.size ∧
    (∀ x ∈ lines, x.1.ancestors.map Entry.depth = List.range x.1.entry.depth) ∧
    whole.walk.unknownKinds.toList = lines.filterMap (fun x => unknown? (x.1.entry, x.2)) ∧
    (∃ steps, (a.outline s r steps root p).complete) ∧
    ∀ steps, (a.outline s r steps root p).complete →
      let restricted := (a.outline s r steps root p).outline
      restricted.canceled = false ∧
      restricted.entries.toList = (kept s lines).map Prod.fst ∧
      restricted.walk.unknownKinds.toList = (kept s lines).filterMap unknown? := by
  intro whole nodes lines
  obtain ⟨calls, u, h, -⟩ := Walk.traverses_of_complete hc
  have hholds : Holds a root s.nulls a := fun id hid => ⟨rfl, fun hnulls => hin hnulls id hid⟩
  have hstart : Twins a root s.nulls r₀ r (.start a (blank r₀ a p₀)) (.start a (blank r a p)) :=
    ⟨⟨blank_running hq₀, hholds⟩, ⟨blank_running hq, hholds⟩, rfl⟩
  obtain ⟨F, hF, -, hvisits, hadded, calls', u', h', hadded', htwins⟩ :=
    hides_of_traverses h (fun hmem => nomatch List.mem_singleton.mp hmem)
      (fun id hid => by
        obtain rfl : id = root := by simpa using hid
        exact .refl) hstart
  have hwhole : whole = ⟨u.memory.entries, u.report, u.memory.canceled⟩ := outline_of_traverses hc h
  have hnodes : nodes = F.nodes := by
    rw [← hvisits]
    exact congrArg (fun m => visits m.2) (Walk.logged_of_traverses hc h)
  have hentries : whole.entries.toList = F.entries := by
    rw [hwhole]
    exact hadded.entries
  have hlines : lines = (spots [] F.entries []).zip F.nodes := by
    rw [← hnodes, ← hentries]
  have hkept : kept s lines = F.pruned s := by
    rw [hlines, F.kept_spots s hF (by simp) []]
    rfl
  refine ⟨?_, ?_, ?_, ⟨_, Walk.complete_of_traverses h' (Nat.le_refl _)⟩, fun steps hsteps => ?_⟩
  · rw [hnodes, Forest.length_nodes, ← hentries, Array.length_toList]
  · rw [hlines]
    exact fun x hx => hF.depth_ancestors rfl [] x.1 (List.of_mem_zip hx).1
  · have hflat : lines.filterMap (fun x => unknown? (x.1.entry, x.2)) =
        F.flat.filterMap unknown? := by
      rw [hlines, ← F.map_spots [] [], List.filterMap_map]
      rfl
    rw [hflat, hwhole]
    exact hadded.unknown
  · rw [outline_of_traverses hsteps h', hkept]
    exact ⟨htwins.restricted.running.canceled, hadded'.entries, hadded'.unknown⟩

end Arena

/-- A program in which a statement of unknown kind stands thrice, and a condition is missing. -/
def strangeProgram : Arena :=
  ⟨#[{ kind := .program, children := [("body", .list [some 1, some 4, some 2])] },
    { kind := .ifStatement, children := [("consequent", .node 4)] },
    { kind := .blockStatement, children := [("body", .list [some 3])] },
    { kind := .blockStatement, children := [("body", .list [some 4])] },
    { kind := .unknown "Strange" }]⟩

/-- Three levels are shown, and conditional statements without what is below them. -/
def brief : Outline.Settings := { maxDepth := some 2, collapse := [.ifStatement], nulls := true }

open Outline in
theorem strangeProgram_restricted :
    NeverCancels silent () ∧
    (strangeProgram.outline { nulls := brief.nulls } silent 20 0 ()).complete ∧
    (∀ id, ReflTransGen strangeProgram.HasSlot 0 id → id < strangeProgram.size) ∧
    (strangeProgram.outline brief silent 20 0 ()).complete ∧
    (strangeProgram.outline brief silent 20 0 ()).outline.entries.toList.map
      (fun e => (e.depth, e.kind, e.hidden)) =
        [(0, .program, 0), (1, .ifStatement, 3), (1, .unknown "Strange", 0),
          (1, .blockStatement, 0), (2, .blockStatement, 1)] ∧
    (strangeProgram.outline brief silent 20 0 ()).outline.walk.unknownKinds.toList =
      [⟨"Strange", 4⟩] := by
  have hq : NeverCancels silent () := fun _ => rfl
  have hc : (strangeProgram.outline { nulls := brief.nulls } silent 20 0 ()).complete := by
    decide +kernel
  have hwalkable : strangeProgram.Walkable 0 :=
    Arena.walkable_of_rank id (Arena.forall_hasSlot (by decide)) (by decide)
  have hin (id : NodeId) (hid : ReflTransGen strangeProgram.HasSlot 0 id) :
      id < strangeProgram.size := hwalkable.lt_size hid
  have hbrief : (strangeProgram.outline brief silent 20 0 ()).complete := by decide +kernel
  obtain ⟨-, -, -, -, hrestricted⟩ := Arena.outline_restricted hq hc (fun _ => hin) hq
  obtain ⟨-, hentries, hunknown⟩ := hrestricted 20 hbrief
  refine ⟨hq, hc, hin, hbrief, ?_, ?_⟩
  · rw [hentries]
    decide +kernel
  · rw [hunknown]
    decide +kernel

end Estree
