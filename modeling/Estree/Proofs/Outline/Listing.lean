import Estree.Outline.Text
import Estree.Proofs.Arena.Nodes
import Estree.Proofs.Walk.Traversal

/-!
# Outlines as recursive listings

The visitor that makes an outline is told of one node at a time. It does not see where it is in the
tree; it counts, for every open node, the children that are still to come. That this draws the right
tree is said by comparing the outline with a listing that follows the tree itself.

`Lists` is that listing, as a relation, for it does not end on a tree that contains itself. A node
is listed on one line, and below it are the lines of its children, one level deeper. In front of a
line stands what the line of the parent has there, and below the parent a rail if the parent has
nodes after it. The placeholders for absent children are appended to the arena as they are listed.

* `Drawing`: what the visitor knows before it reaches the first of `n` children that are listed.
* `lists_of_traverses`: a traversal of these children adds the lines of their listing.
* `Arena.outline_eq_listing`: the outline is the listing of its root, and there is no other.
-/

namespace Estree

namespace Outline

/-! ### The listing -/

/-- A line of a listing. -/
structure Line where
  /-- How deep the node is; the root has depth 0. -/
  depth : Nat
  /-- What the node is. -/
  kind : Kind
  /-- The label of the node. -/
  label : Option String
  /-- What stands in front of the connector. -/
  rails : String
  /-- Is this the last node of its parent? The root is. -/
  isLast : Bool
  /-- How many children are not listed. -/
  hidden : Nat
  /-- Does the node stand for an absent child? -/
  synthetic : Bool
  deriving DecidableEq, Repr

/-- The line that an entry is drawn on. -/
def Entry.toLine (e : Entry) : Line :=
  ⟨e.depth, e.kind, e.label, e.rails, e.isLast, e.hidden, e.synthetic⟩

/-- The slots that are shown. -/
def shownSlots (s : Settings) (slots : List (Option NodeId)) : List (Option NodeId) :=
  slots.filter fun slot => slot.isSome || s.nulls

/-- The children of a node that are shown, unless the node is collapsed. -/
def visible (s : Settings) (a : Arena) (id : NodeId) : List (Option NodeId) :=
  shownSlots s ((a.childSlots id).getD [])

/-- Below a node stand the rails of the node, and blanks if it is the last one of its parent, a rail
otherwise. The root has no rail. -/
def childRails (depth : Nat) (rails : String) (isLast : Bool) : String :=
  if depth = 0 then "" else rails ++ if isLast then "    " else "│   "

/-- The line of a node. -/
def lineOf (a : Arena) (id : NodeId) (depth : Nat) (rails : String) (isLast : Bool)
    (hidden : Nat) : Line :=
  ⟨depth, a.kind id, (a.node id).label, rails, isLast, hidden, (a.node id).synthetic⟩

/-- `Lists s owner depth rails a slots lines b`: the children of `owner` in `slots`, which are at
depth `depth`, are listed on `lines`, with `rails` in front of each. The last slot is that of the
last child. The placeholders of the listing are in `b` besides what is in `a`. -/
inductive Lists (s : Settings) :
    NodeId → Nat → String → Arena → List (Option NodeId) → List Line → Arena → Prop where
  /-- There is no child. -/
  | nil {owner : NodeId} {depth : Nat} {rails : String} {a : Arena} :
    Lists s owner depth rails a [] [] a
  /-- An absent child is a literal `null`. -/
  | null {owner : NodeId} {depth : Nat} {rails : String} {a b : Arena}
      {rest : List (Option NodeId)} {lines : List Line} :
      Lists s owner depth rails (a.push (.placeholder owner)) rest lines b →
        Lists s owner depth rails a (none :: rest)
          (⟨depth, .literal, some "null", rails, rest.isEmpty, 0, true⟩ :: lines) b
  /-- A node that has children and is collapsed. -/
  | collapsed {owner id : NodeId} {depth : Nat} {rails : String} {a b : Arena}
      {rest : List (Option NodeId)} {lines : List Line}
      (hc : visible s a id ≠ [] ∧ s.hides (a.kind id) depth) :
      Lists s owner depth rails a rest lines b →
        Lists s owner depth rails a (some id :: rest)
          (lineOf a id depth rails rest.isEmpty (visible s a id).length :: lines) b
  /-- Any other node, and what is below it. -/
  | node {owner id : NodeId} {depth : Nat} {rails : String} {a a₁ b : Arena}
      {rest : List (Option NodeId)} {inner lines : List Line}
      (hc : ¬ (visible s a id ≠ [] ∧ s.hides (a.kind id) depth)) :
      Lists s id (depth + 1) (childRails depth rails rest.isEmpty) a (visible s a id) inner a₁ →
      Lists s owner depth rails a₁ rest lines b →
        Lists s owner depth rails a (some id :: rest)
          (lineOf a id depth rails rest.isEmpty 0 :: (inner ++ lines)) b

/-- There is one listing at most. -/
theorem Lists.unique {s : Settings} {owner : NodeId} {depth : Nat} {rails : String}
    {a b b' : Arena} {slots : List (Option NodeId)} {lines lines' : List Line}
    (h : Lists s owner depth rails a slots lines b)
    (h' : Lists s owner depth rails a slots lines' b') : lines = lines' ∧ b = b' := by
  induction h generalizing lines' b' with
  | nil =>
    cases h' with
    | nil => exact ⟨rfl, rfl⟩
  | null _ ih =>
    cases h' with
    | null h' =>
      obtain ⟨rfl, rfl⟩ := ih h'
      exact ⟨rfl, rfl⟩
  | collapsed hc _ ih =>
    cases h' with
    | collapsed _ h' =>
      obtain ⟨rfl, rfl⟩ := ih h'
      exact ⟨rfl, rfl⟩
    | node hc' => exact absurd hc hc'
  | node hc _ _ ih₁ ih₂ =>
    cases h' with
    | collapsed hc' => exact absurd hc' hc
    | node _ h₁ h₂ =>
      obtain ⟨rfl, rfl⟩ := ih₁ h₁
      obtain ⟨rfl, rfl⟩ := ih₂ h₂
      exact ⟨rfl, rfl⟩

/-- The placeholder of an absent child has no children. -/
theorem visible_placeholder (s : Settings) (a : Arena) (owner : NodeId) :
    visible s (a.push (.placeholder owner)) a.size = [] := by
  unfold visible Arena.childSlots
  rw [Arena.node_push_size]
  rfl

theorem visibleChildren_eq (s : Settings) (a : Arena) (id : NodeId) :
    visibleChildren s a id = (visible s a id).length :=
  List.countP_eq_length_filter

open Progress (Report Receiver)
open Walk (Traverses Scene)

/-! ### What the visitor keeps -/

/-- The receiver never asks to stop, whatever is reported to it. -/
def NeverCancels {α σ : Type} (r : Receiver α σ) (progress : σ) : Prop :=
  ∀ reports : List (Report α),
    r.isCanceled (reports.foldl (fun p report => r.receive report p) progress) = false

section Visitor

variable {α σ : Type} {r : Receiver α σ}

theorem NeverCancels.now {progress : σ} (h : NeverCancels r progress) :
    r.isCanceled progress = false := h []

theorem NeverCancels.receive {progress : σ} (h : NeverCancels r progress) (report : Report α) :
    NeverCancels r (r.receive report progress) := fun reports => h (report :: reports)

/-- For each ancestor of the children of the innermost open node, the root apart, whether it is the
last one of its parent. -/
def innerBelow (frames : List Frame) : List Bool := (frames.head?.map Frame.below).getD []

/-- What stands in front of a node with these ancestors. -/
def drawn (last : List Bool) : String :=
  last.foldr (fun last out => out ++ if last then "    " else "│   ") ""

/-- There are `n` children of the innermost open node to come; above the root, there is the root. -/
def Awaits (n : Nat) : List Frame → Prop
  | [] => n ≤ 1
  | f :: _ => f.remaining = n

/-- The visitor is about to reach the first of `n` nodes at this depth, with these rails. -/
structure Drawing (r : Receiver α σ) (depth : Nat) (rails : String) (n : Nat) (d : Draft σ) :
    Prop where
  canceled : d.canceled = false
  quiet : NeverCancels r d.progress
  depth_eq : d.frames.length = depth
  rails_eq : drawn (innerBelow d.frames) = rails
  awaits : Awaits n d.frames

/-- The visitor has added lines, and what it knows of the nodes around is what it knew before. -/
structure Drawn (r : Receiver α σ) (d : Draft σ) (lines : List Line) (d' : Draft σ) : Prop where
  canceled : d'.canceled = false
  quiet : NeverCancels r d'.progress
  frames : d'.frames.tail = d.frames.tail
  entries : d'.entries.toList.map Entry.toLine = d.entries.toList.map Entry.toLine ++ lines

theorem length_countDown (frames : List Frame) : (countDown frames).length = frames.length := by
  cases frames <;> rfl

theorem tail_countDown (frames : List Frame) : (countDown frames).tail = frames.tail := by
  cases frames <;> rfl

theorem innerBelow_countDown (frames : List Frame) :
    innerBelow (countDown frames) = innerBelow frames := by
  cases frames <;> rfl

theorem Awaits.countDown {n : Nat} {frames : List Frame} (h : Awaits (n + 1) frames) :
    Awaits n (countDown frames) := by
  cases frames with
  | nil => exact Nat.le_of_succ_le h
  | cons f rest =>
    have hf : f.remaining = n + 1 := h
    show f.remaining - 1 = n
    omega

/-- After the count the visitor knows whether other children follow. -/
theorem Awaits.isLastChild {n : Nat} {frames : List Frame} (h : Awaits (n + 1) frames) :
    isLastChild (Outline.countDown frames) = decide (n = 0) := by
  cases frames with
  | nil =>
    have hn : n = 0 := Nat.le_zero.mp (Nat.le_of_succ_le_succ h)
    rw [hn]
    rfl
  | cons f rest =>
    have hf : f.remaining = n + 1 := h
    show decide (f.remaining - 1 = 0) = decide (n = 0)
    rw [hf, Nat.add_sub_cancel]

theorem drawn_childFrame {n : Nat} {frames : List Frame} (h : Awaits (n + 1) frames)
    (remaining : Nat) :
    drawn (childFrame (countDown frames) remaining).below =
      childRails frames.length (drawn (innerBelow frames)) (decide (n = 0)) := by
  have hlast := h.isLastChild
  cases frames with
  | nil => rfl
  | cons f rest =>
    unfold childRails
    rw [← hlast, List.length_cons, if_neg (Nat.succ_ne_zero rest.length)]
    rfl

section Steps

variable {depth : Nat} {rails : String} {n : Nat} {d : Draft σ}

/-- The entry of a node is drawn on the line of the node. -/
theorem Drawing.toLine (h : Drawing r depth rails (n + 1) d) (a : Arena) (id : NodeId)
    (hidden : Nat) :
    (entryOf a id (countDown d.frames) hidden).toLine =
      lineOf a id depth rails (decide (n = 0)) hidden := by
  have hrails : (entryOf a id (countDown d.frames) hidden).rails = rails := by
    rw [← h.rails_eq, ← innerBelow_countDown]
    rfl
  unfold Entry.toLine lineOf
  rw [hrails]
  simp only [entryOf, length_countDown, h.depth_eq, h.awaits.isLastChild]

/-- When a node has been left, the next one is drawn. -/
theorem Drawing.next (h : Drawing r depth rails (n + 1) d) {d' : Draft σ}
    (hc : d'.canceled = false) (hq : NeverCancels r d'.progress)
    (hf : d'.frames = countDown d.frames) : Drawing r depth rails n d' where
  canceled := hc
  quiet := hq
  depth_eq := by rw [hf, length_countDown, h.depth_eq]
  rails_eq := by rw [hf, innerBelow_countDown, h.rails_eq]
  awaits := hf ▸ h.awaits.countDown

theorem Drawn.refl (hc : d.canceled = false) (hq : NeverCancels r d.progress) : Drawn r d [] d where
  canceled := hc
  quiet := hq
  frames := rfl
  entries := (List.append_nil _).symm

theorem Drawn.trans {d₁ d₂ : Draft σ} {lines₁ lines₂ : List Line} (h₁ : Drawn r d lines₁ d₁)
    (h₂ : Drawn r d₁ lines₂ d₂) : Drawn r d (lines₁ ++ lines₂) d₂ where
  canceled := h₂.canceled
  quiet := h₂.quiet
  frames := h₂.frames.trans h₁.frames
  entries := by rw [h₂.entries, h₁.entries, List.append_assoc]

variable [Progress.Quantity α] {s : Settings}

/-- What the visitor remembers once it has recorded a node and opened its frame. -/
def arrive (r : Receiver α σ) (a : Arena) (id : NodeId) (hidden remaining : Nat) (d : Draft σ) :
    Draft σ :=
  (d.record r (entryOf a id (countDown d.frames) hidden)).enter (countDown d.frames) remaining

/-- What the visitor remembers once the innermost node has been left. -/
def Draft.left (d : Draft σ) : Draft σ := { d with frames := d.frames.tail }

/-- A visitor that is not asked to stop now records the node, and perhaps collapses it. -/
theorem visitor_going (hc : d.canceled = false) (hnow : r.isCanceled d.progress = false)
    (a : Arena) (id : NodeId) :
    (visitor s r).before a id d =
      if visible s a id ≠ [] ∧ s.hides (a.kind id) d.frames.length then
        (.skip, arrive r a id (visible s a id).length 0 d)
      else (.descend, arrive r a id 0 (visible s a id).length d) := by
  have hpos : 0 < (visible s a id).length ↔ visible s a id ≠ [] := List.length_pos_iff
  simp only [visitor, hc, hnow, Bool.or_false, Bool.false_eq_true, if_false, visibleChildren_eq,
    length_countDown, Bool.and_eq_true, decide_eq_true_eq, hpos, arrive]

/-- A visitor that is never asked to stop records each node, and collapses some. -/
theorem visitor_before (hc : d.canceled = false) (hq : NeverCancels r d.progress) (a : Arena)
    (id : NodeId) :
    (visitor s r).before a id d =
      if visible s a id ≠ [] ∧ s.hides (a.kind id) d.frames.length then
        (.skip, arrive r a id (visible s a id).length 0 d)
      else (.descend, arrive r a id 0 (visible s a id).length d) :=
  visitor_going hc hq.now a id

theorem Drawing.skip {m : Draft σ} {a : Arena} {id : NodeId} (h : Drawing r depth rails n d)
    (hb : (visitor s r).before a id d = (.skip, m)) :
    (visible s a id ≠ [] ∧ s.hides (a.kind id) depth) ∧
      m = Outline.arrive r a id (visible s a id).length 0 d := by
  rw [visitor_before h.canceled h.quiet, h.depth_eq] at hb
  split at hb
  · next hc => exact ⟨hc, (Prod.mk.inj hb).2.symm⟩
  · cases hb

theorem Drawing.descend {m : Draft σ} {a : Arena} {id : NodeId} (h : Drawing r depth rails n d)
    (hb : (visitor s r).before a id d = (.descend, m)) :
    ¬ (visible s a id ≠ [] ∧ s.hides (a.kind id) depth) ∧
      m = Outline.arrive r a id 0 (visible s a id).length d := by
  rw [visitor_before h.canceled h.quiet, h.depth_eq] at hb
  split at hb
  · cases hb
  · next hc => exact ⟨hc, (Prod.mk.inj hb).2.symm⟩

theorem NeverCancels.record (h : NeverCancels r d.progress) (e : Entry) :
    NeverCancels r (d.record r e).progress := by
  unfold Draft.record
  cases e.synthetic with
  | true => exact h
  | false => exact h.receive _

/-- When a node has been recorded, its children are drawn one level deeper. -/
theorem Drawing.arrive (h : Drawing r depth rails (n + 1) d) (a : Arena) (id : NodeId)
    (hidden remaining : Nat) :
    Drawing r (depth + 1) (childRails depth rails (decide (n = 0))) remaining
      (arrive r a id hidden remaining d) where
  canceled := h.canceled
  quiet := h.quiet.record _
  depth_eq := by rw [← h.depth_eq, ← length_countDown d.frames]; rfl
  rails_eq := by rw [← h.depth_eq, ← h.rails_eq, ← drawn_childFrame h.awaits remaining]; rfl
  awaits := rfl

/-- A node that has been recorded and left has added its line. -/
theorem Drawing.leave (h : Drawing r depth rails (n + 1) d) (a : Arena) (id : NodeId)
    (hidden remaining : Nat) {inner : List Line} {d' : Draft σ}
    (hd : Drawn r (Outline.arrive r a id hidden remaining d) inner d') :
    Drawing r depth rails n d'.left ∧
    Drawn r d (lineOf a id depth rails (decide (n = 0)) hidden :: inner) d'.left := by
  have hframes : d'.frames.tail = countDown d.frames := hd.frames
  refine ⟨h.next hd.canceled hd.quiet hframes, hd.canceled, hd.quiet, ?_, ?_⟩
  · show d'.frames.tail.tail = d.frames.tail
    rw [hframes, tail_countDown]
  · have hentries : (Outline.arrive r a id hidden remaining d).entries =
        d.entries.push (entryOf a id (countDown d.frames) hidden) := rfl
    show d'.entries.toList.map Entry.toLine = _
    rw [hd.entries, hentries, Array.toList_push, List.map_append, List.map_singleton, h.toLine,
      List.append_assoc, List.singleton_append]

end Steps

/-! ### Traversals and listings -/

section Listing

variable [Progress.Quantity α] {s : Settings}

theorem shownSlots_none (rest : List (Option NodeId)) :
    shownSlots s (none :: rest) =
      if s.nulls then none :: shownSlots s rest else shownSlots s rest := by
  unfold shownSlots
  cases s.nulls <;> rfl

theorem visible_congr {a b : Arena} (h : a.Alike b) (id : NodeId) :
    visible s a id = visible s b id := by
  unfold visible
  rw [h.childSlots]

theorem lineOf_congr {a b : Arena} (h : a.Alike b) (id : NodeId) :
    lineOf a id = lineOf b id := by
  funext depth rails isLast hidden
  unfold lineOf
  rw [h.kind, h.label, h.synthetic]

theorem isEmpty_eq_decide {β : Type} (l : List β) : l.isEmpty = decide (l.length = 0) := by
  cases l <;> rfl

/-- Reaching `slots` adds the lines of their listing, up to `u`. -/
def Listed (r : Receiver α σ) (s : Settings) (owner : NodeId) (depth : Nat) (rails : String)
    (b : Arena) (slots : List (Option NodeId)) (d : Draft σ) (u : Scene (Draft σ)) : Prop :=
  ∃ lines b', Lists s owner depth rails b (shownSlots s slots) lines b' ∧ b'.Alike u.arena ∧
    Drawn r d lines u.memory

section OneNode

variable {owner id : NodeId} {depth : Nat} {rails : String} {a b b₁ : Arena}
  {rest : List (Option NodeId)} {d : Draft σ} {u : Scene (Draft σ)}

/-- A collapsed node is listed by its line. -/
theorem Drawing.listed_collapsed (hd : Drawing r depth rails ((shownSlots s rest).length + 1) d)
    (hb : b.Alike a) (hc : visible s a id ≠ [] ∧ s.hides (a.kind id) depth)
    (hrest : Drawing r depth rails (shownSlots s rest).length
        (Outline.arrive r a id (visible s a id).length 0 d).left →
      Listed r s owner depth rails b rest (Outline.arrive r a id (visible s a id).length 0 d).left
        u) :
    Listed r s owner depth rails b (some id :: rest) d u := by
  obtain ⟨hnext, hdrawn⟩ := hd.leave a id (visible s a id).length 0
    (.refl hd.canceled (hd.quiet.record _))
  obtain ⟨lines, b', hl, hb', hlines⟩ := hrest hnext
  rw [← visible_congr hb, ← hb.kind] at hc
  refine ⟨_, b', .collapsed hc hl, hb', ?_⟩
  rw [lineOf_congr hb, visible_congr hb, isEmpty_eq_decide]
  exact hdrawn.trans hlines

/-- Any other node is listed by its line and what is below it. -/
theorem Drawing.listed_node (hd : Drawing r depth rails ((shownSlots s rest).length + 1) d)
    (hb : b.Alike a) (hc : ¬ (visible s a id ≠ [] ∧ s.hides (a.kind id) depth))
    {inner : List Line} {d₂ : Draft σ}
    (hinner : Lists s id (depth + 1) (childRails depth rails (shownSlots s rest).isEmpty) b
      (visible s a id) inner b₁)
    (hdrawn₂ : Drawn r (Outline.arrive r a id 0 (visible s a id).length d) inner d₂)
    (hrest : Drawing r depth rails (shownSlots s rest).length d₂.left →
      Listed r s owner depth rails b₁ rest d₂.left u) :
    Listed r s owner depth rails b (some id :: rest) d u := by
  obtain ⟨hnext, hdrawn⟩ := hd.leave a id 0 (visible s a id).length hdrawn₂
  obtain ⟨lines, b', hl, hb', hlines⟩ := hrest hnext
  rw [← visible_congr hb, ← hb.kind] at hc
  rw [← visible_congr hb] at hinner
  refine ⟨_, b', .node hc hinner hl, hb', ?_⟩
  rw [lineOf_congr hb, isEmpty_eq_decide]
  exact hdrawn.trans hlines

/-- The placeholder of an absent child is listed as a literal `null`. -/
theorem Drawing.listed_null (hn : s.nulls = true)
    (hd : Drawing r depth rails ((shownSlots s rest).length + 1) d) (hid : id = b.size)
    (hb : (b.push (.placeholder owner)).Alike a)
    (hrest : Drawing r depth rails (shownSlots s rest).length
        (Outline.arrive r a id 0 (visible s a id).length d).left →
      Listed r s owner depth rails (b.push (.placeholder owner)) rest
        (Outline.arrive r a id 0 (visible s a id).length d).left u) :
    Listed r s owner depth rails b (none :: rest) d u := by
  obtain ⟨hnext, hdrawn⟩ := hd.leave a id 0 (visible s a id).length
    (.refl hd.canceled (hd.quiet.record _))
  obtain ⟨lines, b', hl, hb', hlines⟩ := hrest hnext
  have hline : lineOf a id depth rails (decide ((shownSlots s rest).length = 0)) 0 =
      ⟨depth, .literal, some "null", rails, (shownSlots s rest).isEmpty, 0, true⟩ := by
    subst hid
    rw [← lineOf_congr hb, isEmpty_eq_decide, lineOf, Arena.kind, Arena.node_push_size]
    rfl
  rw [hline] at hdrawn
  unfold Listed
  rw [shownSlots_none, hn, if_pos rfl]
  exact ⟨_, b', .null hl, hb', hdrawn.trans hlines⟩

end OneNode

section Reach

variable {t t₁ : Scene (Draft σ)} {nulls : Bool} {parent : Option NodeId} {id : NodeId}

omit [Progress.Quantity α]

theorem reach_child {id' : NodeId} (hr : t.reach nulls parent (some id') = some (id, t₁)) :
    id = id' ∧ t₁.arena = t.arena.setParent id parent ∧ t₁.memory = t.memory := by
  cases hr
  exact ⟨rfl, rfl, rfl⟩

/-- Through an absent child a placeholder is reached, if nulls are walked. -/
theorem reach_null {owner : NodeId} (hr : t.reach nulls (some owner) none = some (id, t₁)) :
    nulls = true ∧ id = t.arena.size ∧ t₁.arena = t.arena.push (.placeholder owner) ∧
      t₁.memory = t.memory := by
  cases nulls with
  | false => cases hr
  | true =>
    cases hr
    exact ⟨rfl, rfl, rfl, rfl⟩

theorem nulls_of_reach_none {owner : NodeId} (hr : t.reach nulls (some owner) none = none) :
    nulls = false := by
  cases nulls with
  | false => rfl
  | true => cases hr

end Reach

/-- **A traversal of children adds the lines of their listing.** -/
theorem lists_of_traverses {parent : Option NodeId} {slots : List (Option NodeId)}
    {t u : Scene (Draft σ)} {calls : List Walk.Call}
    (h : Traverses (visitor s r) s.nulls parent slots t calls u) {owner : NodeId}
    (hp : none ∈ slots → parent = some owner) {b : Arena} (hb : b.Alike t.arena) {depth : Nat}
    {rails : String} (hd : Drawing r depth rails (shownSlots s slots).length t.memory) :
    Listed r s owner depth rails b slots t.memory u := by
  induction h generalizing owner b depth rails with
  | nil => exact ⟨[], b, .nil, hb, .refl hd.canceled hd.quiet⟩
  | @hole parent slot rest t u calls hr _ ih =>
    have hrest : none ∈ rest → parent = some owner :=
      fun hmem => hp (List.mem_cons_of_mem slot hmem)
    cases slot with
    | some id => cases hr
    | none =>
      obtain rfl := hp List.mem_cons_self
      have hslots : shownSlots s (none :: rest) = shownSlots s rest := by
        rw [shownSlots_none, nulls_of_reach_none hr, if_neg Bool.false_ne_true]
      unfold Listed
      rw [hslots] at hd ⊢
      exact ih hrest hb hd
  | @skip parent slot rest t t₁ u calls id m hr hbef _ ih =>
    have hrest : none ∈ rest → parent = some owner :=
      fun hmem => hp (List.mem_cons_of_mem slot hmem)
    cases slot with
    | none =>
      obtain rfl := hp List.mem_cons_self
      obtain ⟨-, rfl, harena, hmem⟩ := reach_null hr
      -- a placeholder has no children, so it is not collapsed
      rw [hmem] at hbef
      obtain ⟨⟨hv, -⟩, -⟩ := hd.skip hbef
      rw [harena] at hv
      exact absurd (visible_placeholder s t.arena owner) hv
    | some id' =>
      obtain ⟨rfl, harena, hmem⟩ := reach_child hr
      have hb₁ : b.Alike t₁.arena := harena ▸ hb.setParent id parent
      rw [hmem] at hbef
      obtain ⟨hc, rfl⟩ := hd.skip hbef
      exact hd.listed_collapsed hb₁ hc fun hnext => ih hrest hb₁ hnext
  | @unknown parent slot rest t t₁ u calls id m hr hbef hs _ ih =>
    have hrest : none ∈ rest → parent = some owner :=
      fun hmem => hp (List.mem_cons_of_mem slot hmem)
    cases slot with
    | none =>
      obtain rfl := hp List.mem_cons_self
      obtain ⟨-, rfl, harena, -⟩ := reach_null hr
      -- the kind of a placeholder is known
      rw [harena, Arena.childSlots, Arena.node_push_size] at hs
      cases hs
    | some id' =>
      obtain ⟨rfl, harena, hmem⟩ := reach_child hr
      have hb₁ : b.Alike t₁.arena := harena ▸ hb.setParent id parent
      rw [hmem] at hbef
      obtain ⟨hc, rfl⟩ := hd.descend hbef
      have hv : visible s t₁.arena id = [] := by
        rw [visible, hs]
        rfl
      have hinner : Lists s id (depth + 1) (childRails depth rails (shownSlots s rest).isEmpty) b
          (visible s t₁.arena id) [] b := hv ▸ Lists.nil
      refine hd.listed_node hb₁ hc hinner (.refl hd.canceled (hd.quiet.record _)) ?_
      exact fun hnext => ih hrest hb₁ hnext
  | @descend parent slot rest slots t t₁ t₂ u inner calls id m hr hbef hs hinner _ ih₁ ih₂ =>
    have hrest : none ∈ rest → parent = some owner :=
      fun hmem => hp (List.mem_cons_of_mem slot hmem)
    cases slot with
    | none =>
      obtain rfl := hp List.mem_cons_self
      obtain ⟨hn, rfl, harena, hmem⟩ := reach_null hr
      rw [shownSlots_none, hn, if_pos rfl] at hd
      rw [hmem] at hbef
      obtain ⟨-, rfl⟩ := hd.descend hbef
      -- there is nothing below a placeholder
      obtain rfl : slots = [] := by
        rw [harena, Arena.childSlots, Arena.node_push_size] at hs
        exact (Option.some.inj hs).symm
      cases hinner
      have hb₁ : (b.push (.placeholder owner)).Alike t₁.arena := harena ▸ hb.push _
      exact hd.listed_null hn hb.1.symm hb₁ fun hnext => ih₂ hrest hb₁ hnext
    | some id' =>
      obtain ⟨rfl, harena, hmem⟩ := reach_child hr
      have hb₁ : b.Alike t₁.arena := harena ▸ hb.setParent id parent
      rw [hmem] at hbef
      obtain ⟨hc, rfl⟩ := hd.descend hbef
      have hv : visible s t₁.arena id = shownSlots s slots := by
        rw [visible, hs]
        rfl
      rw [hv] at ih₁
      obtain ⟨lines, b₁, hl, hb₂, hdrawn⟩ := ih₁ (fun _ => rfl) hb₁ (hd.arrive t₁.arena id 0 _)
      rw [← hv, ← isEmpty_eq_decide] at hl
      rw [← hv] at hdrawn
      exact hd.listed_node hb₁ hc hl hdrawn fun hnext => ih₂ hrest hb₂ hnext

end Listing

end Visitor

end Outline

open Outline Progress in
/-- **An outline is the listing of what is below its root.** If the walk ends and is never asked to
stop, the entries are the lines of the listing, there is such a listing, and there is no other. -/
theorem Arena.outline_eq_listing {α σ : Type} [Quantity α] {a : Arena} {s : Settings}
    {r : Receiver α σ} {steps : Nat} {root : NodeId} {progress : σ} (hq : NeverCancels r progress)
    (hc : (a.outline s r steps root progress).complete) :
    (a.outline s r steps root progress).outline.canceled = false ∧
    ∀ lines, (∃ b, Lists s root 0 "" a [some root] lines b) ↔
      (a.outline s r steps root progress).outline.entries.toList.map Entry.toLine = lines := by
  obtain ⟨calls, u, h, hw⟩ := Walk.traverses_of_complete hc
  have hstart : Drawing r 0 "" (shownSlots s [some root]).length
      ⟨[], #[], false, r.receive (.total (Quantity.ofNat a.size)) progress⟩ :=
    ⟨rfl, hq.receive _, rfl, rfl, Nat.le_refl 1⟩
  have hp : none ∈ [some root] → none = some root := fun hmem =>
    nomatch List.mem_singleton.mp hmem
  obtain ⟨lines, b, hl, -, hdrawn⟩ := lists_of_traverses h hp (Alike.refl a) hstart
  have hmemory : (a.outline s r steps root progress).outline =
      ⟨u.memory.entries, u.report, u.memory.canceled⟩ := by
    simp only [outline, hw]
    rfl
  have hentries : u.memory.entries.toList.map Entry.toLine = lines := hdrawn.entries
  rw [hmemory]
  refine ⟨hdrawn.canceled, fun lines' => ?_⟩
  rw [hentries]
  exact ⟨fun ⟨_, hl'⟩ => (hl.unique hl').1, fun heq => ⟨b, heq ▸ hl⟩⟩

/-- A program in which a statement stands twice, and a condition is missing. -/
def sampleProgram : Arena :=
  ⟨#[{ kind := .program, children := [("body", .list [some 1, some 2])] },
    { kind := .ifStatement, children := [("consequent", .node 2)] },
    { kind := .emptyStatement }]⟩

/-- A receiver that ignores all reports. -/
def silent : Progress.Receiver Float Unit := .silent

open Outline in
theorem listing_sampleProgram :
    NeverCancels silent () ∧ (sampleProgram.outline { nulls := true } silent 20 0 ()).complete ∧
    ∃ b, Lists { nulls := true } 0 0 "" sampleProgram [some 0]
      [⟨0, .program, none, "", true, 0, false⟩,
        ⟨1, .ifStatement, none, "", false, 0, false⟩,
        ⟨2, .literal, some "null", "│   ", false, 0, true⟩,
        ⟨2, .emptyStatement, none, "│   ", false, 0, false⟩,
        ⟨2, .literal, some "null", "│   ", true, 0, true⟩,
        ⟨1, .emptyStatement, none, "", true, 0, false⟩] b := by
  have hq : NeverCancels silent () := fun _ => rfl
  have hc : (sampleProgram.outline { nulls := true } silent 20 0 ()).complete := rfl
  exact ⟨hq, hc, ((Arena.outline_eq_listing hq hc).2 _).mpr rfl⟩

end Estree
