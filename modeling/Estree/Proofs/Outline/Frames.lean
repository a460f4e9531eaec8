import Estree.Proofs.Outline.Accounting

/-!
# The frames of the visitor and the stack of the walk

The visitor of an outline never sees the stack. It looks up how many children a node has when the
node is shown, and from then on it counts those that are shown. The walk on its part enters slots
and does not know what the visitor counts. That the two come to the same is not checked by anyone:
a count that is too low is left at zero, and the lines of the outline would be drawn wrong.

Between two steps the stack tells which nodes are open and which of their slots have not been
entered (`Walk.toDo`). `Outline.Accounted` says that the frames have the counts that belong to
these. A step that reaches nothing, one that leaves a node and one that shows a node keep it so, and
it does not matter whether the visitor still records what it is shown.

* `Outline.frames_before`: what the visitor does to its frames;
* `Outline.Balanced.step`: one step of the walk;
* `Arena.outline_frames`: the frames at any time, and what a visit finds in them.
-/

namespace Estree

open Progress (Quantity Receiver)

namespace Walk

/-- An open node, and those of its slots that have not been entered. -/
structure Unfinished where
  /-- The node. -/
  node : NodeId
  /-- The slots. -/
  slots : List (Option NodeId)

/-- What a walk has still to do when these nodes are open, innermost first: it enters the slots of
the first one and leaves it, and goes on with the next one. -/
def toDo : List Unfinished → List Pending
  | [] => []
  | o :: around => pend (some o.node) o.slots ++ .leave o.node :: toDo around

end Walk

open Walk (Call Pending State Unfinished logging opened pend toDo told)

namespace Outline

variable {α σ : Type} [Quantity α] {s : Settings} {r : Receiver α σ} {a : Arena}
  {opens : List Unfinished} {path : List NodeId} {frames : List Frame}

/-! ### Frames -/

theorem shownSlots_cons (slot : Option NodeId) (slots : List (Option NodeId)) :
    shownSlots s (slot :: slots) =
      if slot.isSome || s.nulls then slot :: shownSlots s slots else shownSlots s slots :=
  List.filter_cons

/-- The nodes of `path` are open, and the slots that have not been entered are slots of theirs. The
frame of each node counts those through which something will be reached. -/
structure Accounted (s : Settings) (a : Arena) (opens : List Unfinished) (path : List NodeId)
    (frames : List Frame) : Prop where
  nodes : opens.map Unfinished.node = path
  slots : ∀ o ∈ opens, o.slots <:+ a.slotsOf o.node
  remaining : frames.map Frame.remaining = opens.map fun o => (shownSlots s o.slots).length

theorem Accounted.length_eq (h : Accounted s a opens path frames) :
    frames.length = path.length := by
  rw [← h.nodes, List.length_map, ← List.length_map (f := Frame.remaining), h.remaining,
    List.length_map]

/-- A node is shown, and its slots are to be entered. -/
theorem Accounted.enter (h : Accounted s a opens path frames) {id : NodeId}
    {slots : List (Option NodeId)} (hslots : slots = a.slotsOf id) {f : Frame}
    (hf : f.remaining = (shownSlots s slots).length) :
    Accounted s a (⟨id, slots⟩ :: opens) (id :: path) (f :: frames) where
  nodes := congrArg (id :: ·) h.nodes
  slots := List.forall_mem_cons.mpr ⟨hslots ▸ List.suffix_refl _, h.slots⟩
  remaining := by rw [List.map_cons, List.map_cons, hf, h.remaining]

/-- The innermost node is left. -/
theorem Accounted.leave {o : Unfinished} (h : Accounted s a (o :: opens) path frames) :
    Accounted s a opens path.tail frames.tail where
  nodes := by rw [← h.nodes, List.map_cons, List.tail_cons]
  slots := (List.forall_mem_cons.mp h.slots).2
  remaining := by rw [List.map_tail, h.remaining, List.map_cons, List.tail_cons]

section Slot

variable {node : NodeId} {slot : Option NodeId} {slots : List (Option NodeId)}

/-- Nothing is reached through a slot, and the visitor is told nothing. -/
theorem Accounted.hole (h : Accounted s a (⟨node, slot :: slots⟩ :: opens) path frames)
    (hslot : ¬ (slot.isSome || s.nulls)) :
    Accounted s a (⟨node, slots⟩ :: opens) path frames where
  nodes := h.nodes
  slots := by
    obtain ⟨hsuffix, hrest⟩ := List.forall_mem_cons.mp h.slots
    exact List.forall_mem_cons.mpr ⟨(List.suffix_cons slot slots).trans hsuffix, hrest⟩
  remaining := by
    rw [h.remaining, List.map_cons, List.map_cons, shownSlots_cons, if_neg hslot]

/-- Before a node is shown, its parent counts it among those that are to come. -/
theorem Accounted.pos (h : Accounted s a (⟨node, slot :: slots⟩ :: opens) path frames)
    (hslot : slot.isSome || s.nulls) :
    ∃ f rest, frames = f :: rest ∧ f.remaining = (shownSlots s slots).length + 1 := by
  have hremaining := h.remaining
  rw [List.map_cons, shownSlots_cons, if_pos hslot] at hremaining
  obtain ⟨f, rest, rfl, hf, -⟩ := List.map_eq_cons_iff.mp hremaining
  exact ⟨f, rest, rfl, hf⟩

/-- When it is shown, its parent no longer does. -/
theorem Accounted.countDown (h : Accounted s a (⟨node, slot :: slots⟩ :: opens) path frames)
    (hslot : slot.isSome || s.nulls) :
    Accounted s a (⟨node, slots⟩ :: opens) path (countDown frames) where
  nodes := h.nodes
  slots := by
    obtain ⟨hsuffix, hrest⟩ := List.forall_mem_cons.mp h.slots
    exact List.forall_mem_cons.mpr ⟨(List.suffix_cons slot slots).trans hsuffix, hrest⟩
  remaining := by
    obtain ⟨f, rest, rfl, hf⟩ := h.pos hslot
    have hrest := (List.cons.inj h.remaining).2
    simp only [Outline.countDown, List.map_cons, hf, Nat.add_sub_cancel]
    exact congrArg _ hrest

end Slot

/-! ### The visitor -/

/-- **What the visitor does to its frames when a node is shown**: it counts the node in the frame of
its parent, and opens a frame for it. The new frame counts the children of the node if the visitor
descends; if it has been stopped or leaves the children out, none will be shown. -/
theorem frames_before (s : Settings) (r : Receiver α σ) (b : Arena) (id : NodeId) (d : Draft σ) :
    ((visitor s r).before b id d).2.frames =
      childFrame (countDown d.frames)
        (if ((visitor s r).before b id d).1 = .descend then visibleChildren s b id else 0) ::
        countDown d.frames := by
  by_cases hstop : d.canceled = true ∨ r.isCanceled d.progress = true
  · rw [visitor_halt hstop]
    rfl
  · obtain ⟨hc, hnow⟩ := not_or.mp hstop
    rw [visitor_going (Bool.not_eq_true _ ▸ hc) (Bool.not_eq_true _ ▸ hnow), visibleChildren_eq]
    split <;> rfl

/-- There is a frame for each open node, whatever the visitor is told. -/
theorem length_frames_told (s : Settings) (r : Receiver α σ) (calls : List Call) {d : Draft σ}
    (h : d.frames.length = path.length) :
    (told (visitor s r) d calls).frames.length = (opened path calls).length := by
  induction calls generalizing d path with
  | nil => exact h
  | cons call calls ih =>
    cases call with
    | before b id =>
      refine ih ?_
      rw [Walk.tell_before, frames_before, List.length_cons, length_countDown, h]
      rfl
    | after b id =>
      refine ih ?_
      rw [Walk.turn_after, List.length_tail, ← h]
      exact List.length_tail

/-! ### A step of the walk -/

/-- How things stand between two steps: the stack tells what is to be done for the open nodes, and
the frames are accounted for. The root is on the stack before the first step. -/
structure Balanced (s : Settings) (a : Arena) (root : NodeId) (opens : List Unfinished)
    (w : State (Draft σ × List Call)) : Prop where
  grown : a.Grown w.arena
  stack : w.stack = toDo opens ∨ opens = [] ∧ w.stack = [.root root]
  accounted : Accounted s a opens (opened [] w.memory.2) w.memory.1.frames

variable {root id : NodeId} {b : Arena} {report : WalkReport} {d : Draft σ} {calls : List Call}

/-- A node is shown, which has been counted by its parent. -/
theorem Accounted.visit (h : Accounted s a opens (opened [] calls) (Outline.countDown d.frames))
    (hg : a.Grown b) (r : Receiver α σ) :
    ∃ opens', Balanced s a root opens'
      (State.visit (logging (visitor s r)) id ⟨b, toDo opens, report, (d, calls)⟩) := by
  have hframes := frames_before s r b id d
  cases hb : (visitor s r).before b id d with
  | mk answer d' =>
  rw [hb] at hframes
  -- what is left at once leaves the frames around it
  have hleft : Accounted s a opens (opened [] (calls ++ [.before b id] ++ [.after b id]))
      d'.left.frames := by
    rw [Walk.opened_append, Walk.opened_append, Draft.left, hframes]
    exact h
  simp only [State.visit, Walk.logging_before hb]
  cases answer with
  | skip => exact ⟨opens, hg, .inl rfl, hleft⟩
  | descend =>
    cases hs : b.childSlots id with
    | none => exact ⟨opens, hg, .inl rfl, hleft⟩
    | some slots =>
      have hslots : slots = a.slotsOf id := by
        rw [← hg.slotsOf id, Arena.slotsOf, hs, Option.getD_some]
      refine ⟨⟨id, slots⟩ :: opens, hg, .inl rfl, ?_⟩
      show Accounted s a _ (opened [] (calls ++ [.before b id])) d'.frames
      rw [Walk.opened_append, hframes]
      refine h.enter hslots ?_
      show (if Visit.descend = .descend then visibleChildren s b id else 0) = _
      rw [if_pos rfl, visibleChildren_eq, visible, hs, Option.getD_some]

/-- Nothing is to be done for the root before the first step, and its frame is not there yet. -/
theorem balanced_start (s : Settings) (a : Arena) (root : NodeId) (d : Draft σ)
    (h : d.frames = []) : Balanced s a root [] (.start a root (d, [])) where
  grown := .refl a
  stack := .inr ⟨rfl, rfl⟩
  accounted := ⟨rfl, List.forall_mem_nil _, congrArg _ h⟩

/-- What is found when `w` is about to show a node: it is the root, or its parent counts it among
the nodes that are to come. Afterwards the parent is accounted for without it. -/
structure Expected (s : Settings) (a : Arena) (root : NodeId)
    (w : State (Draft σ × List Call)) : Prop where
  counted : w.stack = [.root root] ∧ w.memory.1.frames = [] ∨
    ∃ f rest, w.memory.1.frames = f :: rest ∧ 1 ≤ f.remaining
  after : ∃ opens, w.stack.tail = toDo opens ∧
    Accounted s a opens (opened [] w.memory.2) (countDown w.memory.1.frames)

/-- A slot is entered. If the visitor is told something, something is reached through the slot. -/
theorem Accounted.step {node : NodeId} {slot : Option NodeId} {slots : List (Option NodeId)}
    {around : List Unfinished}
    (h : Accounted s a (⟨node, slot :: slots⟩ :: around) (opened [] calls) d.frames)
    (hg : a.Grown b) (r : Receiver α σ) (root : NodeId) (report : WalkReport) :
    let w := State.step (logging (visitor s r)) s.nulls
      ⟨b, toDo (⟨node, slots⟩ :: around), report, (d, calls)⟩ (.slot slot node)
    (∃ opens, Balanced s a root opens w) ∧
      (w.memory.2 ≠ calls → (slot.isSome || s.nulls) = true) := by
  by_cases hslot : slot.isSome || s.nulls
  · refine ⟨?_, fun _ => hslot⟩
    have hcount := h.countDown hslot
    cases slot with
    | some id => exact hcount.visit (hg.setParent id (some node)) r
    | none =>
      have hnulls : s.nulls = true := hslot
      rw [hnulls]
      exact hcount.visit (hg.push node) r
  · obtain ⟨rfl, hnulls⟩ : slot = none ∧ s.nulls = false := by simpa using hslot
    rw [hnulls]
    exact ⟨⟨_, hg, .inl rfl, h.hole hslot⟩, fun hne => absurd rfl hne⟩

/-- **A step of the walk**, and what it finds if it shows a node. -/
theorem Balanced.step {w : State (Draft σ × List Call)} (h : Balanced s a root opens w)
    {next : Pending} {rest : List Pending} (hw : w.stack = next :: rest) (r : Receiver α σ) :
    let w' := State.step (logging (visitor s r)) s.nulls { w with stack := rest } next
    (∃ opens', Balanced s a root opens' w') ∧
      ∀ b id later, w'.memory.2 = w.memory.2 ++ .before b id :: later → Expected s a root w := by
  obtain ⟨b, stack, report, d, calls⟩ := w
  obtain ⟨hg, hstack, hacc⟩ := h
  dsimp only at hg hstack hacc hw ⊢
  subst hw
  rcases hstack with hstack | ⟨rfl, hstack⟩
  · cases opens with
    | nil => cases hstack
    | cons o around =>
      obtain ⟨node, slots⟩ := o
      cases slots with
      | nil =>
        -- the node is left, and nothing is shown
        obtain ⟨rfl, rfl⟩ := List.cons.inj hstack
        refine ⟨⟨around, hg, .inl rfl, ?_⟩, fun b' id later hlater => ?_⟩
        · show Accounted s a around (opened [] (calls ++ [.after b node])) d.frames.tail
          rw [Walk.opened_append]
          exact hacc.leave
        · cases List.append_cancel_left hlater
      | cons slot slots =>
        obtain ⟨rfl, rfl⟩ : next = .slot slot node ∧ rest = toDo (⟨node, slots⟩ :: around) :=
          List.cons.inj hstack
        obtain ⟨hbalanced, hslot⟩ := hacc.step hg r root report
        refine ⟨hbalanced, fun b' id later hlater => ?_⟩
        have hshown := hslot fun heq => by simp [heq] at hlater
        obtain ⟨f, above, hframes, hf⟩ := hacc.pos hshown
        exact ⟨.inr ⟨f, above, hframes, hf ▸ Nat.succ_pos _⟩, _, rfl, hacc.countDown hshown⟩
  · -- the root is shown, and there are no frames yet
    obtain ⟨rfl, rfl⟩ := List.cons.inj hstack
    have hnone : d.frames = [] := List.map_eq_nil_iff.mp hacc.remaining
    have hcount : Accounted s a [] (opened [] calls) (countDown d.frames) := by
      rw [hnone] at hacc ⊢
      exact hacc
    exact ⟨hcount.visit (hg.setParent root none) r,
      fun _ _ _ _ => ⟨.inl ⟨rfl, hnone⟩, [], rfl, hcount⟩⟩

/-- **At any time between two steps** the frames are accounted for. -/
theorem balanced_run (s : Settings) (r : Receiver α σ) (a : Arena) (root : NodeId) {d : Draft σ}
    (h : d.frames = []) (steps : Nat) :
    ∃ opens, Balanced s a root opens
      (State.run (logging (visitor s r)) s.nulls steps (.start a root (d, []))) := by
  induction steps with
  | zero => exact ⟨[], balanced_start s a root d h⟩
  | succ steps ih =>
    obtain ⟨opens, hw⟩ := ih
    rw [Walk.run_add]
    cases hs : (State.run (logging (visitor s r)) s.nulls steps (.start a root (d, []))).stack with
    | nil =>
      rw [Walk.run_of_stack_nil hs]
      exact ⟨opens, hw⟩
    | cons next rest =>
      rw [Walk.run_succ hs]
      exact (hw.step hs r).1

end Outline

namespace Arena

open Outline (Accounted Draft Expected Settings blank childFrame countDown visibleChildren)

variable {α σ : Type} [Quantity α]

/-- **The frames of an outline and the nodes that are open**, on any arena, from any root, whatever
is shown and whenever the receiver asks to stop. `w` is the walk that makes the outline after a
number of steps, with a list of what the visitor has been told.

After each call there are as many frames as there are nodes that have been shown and not been left.
Between two steps the open nodes are those on the stack, and the frame of each counts its slots on
the stack through which something will be reached. If the next step shows a node, this is the root
or its parent counts at least one more, and when it has been shown the parent counts one less. Its
own frame then counts all its children that are shown if the visitor descends, and none otherwise.
When the walk is over there are no frames. -/
theorem outline_frames (a : Arena) (s : Settings) (r : Receiver α σ) (root : NodeId) (progress : σ)
    (steps : Nat) :
    let v := Outline.visitor s r
    let d := blank r a progress
    let walk := fun steps => State.run (logging v) s.nulls steps (.start a root (d, []))
    let w := walk steps
    Walk.forget w = State.run v s.nulls steps (.start a root d) ∧
    (∀ calls, calls <+: w.memory.2 →
      (told v d calls).frames.length = (opened [] calls).length) ∧
    (∃ opens, (w.stack = toDo opens ∨ opens = [] ∧ w.stack = [.root root]) ∧
      Accounted s a opens (opened [] w.memory.2) w.memory.1.frames) ∧
    (∀ b id later, (walk (steps + 1)).memory.2 = w.memory.2 ++ .before b id :: later →
      Expected s a root w ∧
      let (answer, d') := v.before b id w.memory.1
      d'.frames = childFrame (countDown w.memory.1.frames)
        (if answer = .descend then visibleChildren s b id else 0) ::
          countDown w.memory.1.frames) ∧
    ((a.walk v s.nulls steps root d).complete →
      (a.walk v s.nulls steps root d).memory.frames = []) := by
  intro v d walk w
  have hforget : Walk.forget w = State.run v s.nulls steps (.start a root d) :=
    Walk.run_logging steps _
  obtain ⟨opens, hw⟩ := Outline.balanced_run s r a root (show d.frames = [] from rfl) steps
  refine ⟨hforget, fun calls _ => Outline.length_frames_told s r calls rfl,
    ⟨opens, hw.stack, hw.accounted⟩, fun b id later hlater => ⟨?_, ?_⟩, fun hc => ?_⟩
  · have hone : walk (steps + 1) = State.run (logging v) s.nulls 1 w := Walk.run_add steps 1 _
    cases hs : w.stack with
    | nil =>
      rw [hone, Walk.run_of_stack_nil hs] at hlater
      cases List.self_eq_append_right.mp hlater
    | cons next rest =>
      rw [hone, Walk.run_succ hs] at hlater
      exact (hw.step hs r).2 b id later hlater
  · exact Outline.frames_before s r b id w.memory.1
  · have hend : w.stack = [] := by
      have hstack := congrArg State.stack hforget
      exact hstack.trans (List.isEmpty_iff.mp hc)
    have hframes : (a.walk v s.nulls steps root d).memory.frames = w.memory.1.frames :=
      congrArg (fun x => x.memory.frames) hforget.symm
    rw [hframes]
    rcases hw.stack with hstack | ⟨-, hstack⟩
    · cases opens with
      | nil => exact List.map_eq_nil_iff.mp hw.accounted.remaining
      | cons o around =>
        rw [hend] at hstack
        cases List.append_eq_nil_iff.mp hstack.symm |>.2
    · rw [hend] at hstack
      cases hstack

end Arena

end Estree
