import Estree.Proofs.Outline.Cancellation
import Estree.Proofs.Walk.Ending

/-!
# Outlines that are bounded

The outline of something that contains itself may go on for ever. It does not if there is a limit to
its depth, or if what it is reported to asks for a stop at some time.

A limit to the depth is looked at only where there is something to be left out, and a stop is asked
for only when something is reported, which placeholders are not. But below what is shown at the
limit, and below a placeholder, nothing can be reached. So each way down is bounded, and where each
way down is bounded the whole walk is: a node has finitely many slots.

* `Walk.Tires`: what is left of a bound, when a visitor descends and when it comes back;
* `Walk.exists_traverses_of_tires`: walks with such a visitor end;
* `Outline.tires_depth` and `Outline.tires_stop`: the two bounds;
* `Arena.outline_ends`: outlines that end, and how large they are.
-/

namespace Estree

namespace Walk

/-! ### Visitors that tire -/

variable {σ : Type} {v : Visitor σ} {nulls : Bool} {a : Arena} {R : Nat → σ → Prop}

/-- `R n m` says that a visitor who remembers `m` goes down `n` levels at most. This holds again
when a node is left, and there is a level less below a node, unless nothing can be reached there. -/
structure Tires (v : Visitor σ) (nulls : Bool) (a : Arena) (R : Nat → σ → Prop) : Prop where
  /-- The visitor declines to descend. -/
  skip : ∀ n b id m m', R n m → v.before b id m = (.skip, m') → R n (v.after b id m')
  /-- There is nothing to descend into. -/
  idle : ∀ n b id m m', R n m → v.before b id m = (.descend, m') → R n (v.after b id m')
  /-- Something is reached below. -/
  descend : ∀ n b id m m', a.Grown b → R n m → v.before b id m = (.descend, m') →
    (∃ slot ∈ a.slotsOf id, slot.isSome || nulls) → ∃ k, n = k + 1 ∧ R k m'
  /-- The visitor comes back from below. -/
  leave : ∀ k b id m m', R (k + 1) m → R k m' → R (k + 1) (v.after b id m')

/-- Nothing is reached through empty slots if nulls are not walked. -/
theorem traverses_holes (v : Visitor σ) (parent : Option NodeId) (t : Scene σ)
    {slots : List (Option NodeId)} (h : ∀ slot ∈ slots, ¬ (slot.isSome || nulls)) :
    Traverses v nulls parent slots t [] t := by
  induction slots with
  | nil => exact .nil
  | cons slot rest ih =>
    obtain ⟨hslot, hrest⟩ := List.forall_mem_cons.mp h
    obtain ⟨rfl, rfl⟩ : slot = none ∧ nulls = false := by simpa using hslot
    exact .hole (by cases parent <;> rfl) (ih hrest)

/-- A traversal ends, and leaves the bound as it is, if the traversals one level below do. -/
theorem exists_traverses_of_tires_below (h : Tires v nulls a R) {n : Nat}
    (hbelow : ∀ k, n = k + 1 → ∀ (parent : Option NodeId) (slots : List (Option NodeId))
      (t : Scene σ), a.Grown t.arena → R k t.memory →
        ∃ calls u, Traverses v nulls parent slots t calls u ∧ R k u.memory)
    (parent : Option NodeId) (slots : List (Option NodeId)) (t : Scene σ) (hg : a.Grown t.arena)
    (hR : R n t.memory) :
    ∃ calls u, Traverses v nulls parent slots t calls u ∧ R n u.memory := by
  induction slots generalizing t with
  | nil => exact ⟨[], t, .nil, hR⟩
  | cons slot rest ih =>
    cases hr : t.reach nulls parent slot with
    | none =>
      obtain ⟨calls, u, hu, hend⟩ := ih t hg hR
      exact ⟨calls, u, .hole hr hu, hend⟩
    | some reached =>
      obtain ⟨id, t₁⟩ := reached
      have hg₁ : a.Grown t₁.arena := grown_of_reach hg hr
      have hR₁ : R n t₁.memory := by
        rcases reach_cases hr with ⟨-, rfl⟩ | ⟨-, -, -, owner, -, rfl⟩ <;> exact hR
      cases hb : v.before t₁.arena id t₁.memory with
      | mk answer m =>
      cases answer with
      | skip =>
        obtain ⟨calls, u, hu, hend⟩ :=
          ih ((t₁.shown m).declined.leave v id) hg₁ (h.skip n _ id _ m hR₁ hb)
        exact ⟨_, u, .skip hr hb hu, hend⟩
      | descend =>
        cases hs : t₁.arena.childSlots id with
        | none =>
          obtain ⟨calls, u, hu, hend⟩ :=
            ih (((t₁.shown m).stuckAt id).leave v id) hg₁ (h.idle n _ id _ m hR₁ hb)
          exact ⟨_, u, .unknown hr hb hs hu, hend⟩
        | some slots =>
          have hslots : a.slotsOf id = slots := by
            rw [slotsOf_reached hg hr, hs, Option.getD_some]
          by_cases hsome : ∃ slot ∈ slots, slot.isSome || nulls
          · obtain ⟨k, rfl, hk⟩ := h.descend n _ id _ m hg₁ hR₁ hb (hslots ▸ hsome)
            obtain ⟨inner, t₂, hinner, hk₂⟩ := hbelow k rfl (some id) slots (t₁.shown m) hg₁ hk
            obtain ⟨calls, u, hu, hend⟩ :=
              ih (t₂.leave v id) (hinner.grown hg₁).1 (h.leave k _ id _ _ hR₁ hk₂)
            exact ⟨_, u, .descend hr hb hs hinner hu, hend⟩
          · have hinner := traverses_holes v (some id) (t₁.shown m)
              fun slot hslot hsm => hsome ⟨slot, hslot, hsm⟩
            obtain ⟨calls, u, hu, hend⟩ :=
              ih ((t₁.shown m).leave v id) hg₁ (h.idle n _ id _ m hR₁ hb)
            exact ⟨_, u, .descend hr hb hs hinner hu, hend⟩

/-- **Walks with a visitor that tires end**, however often they come by the same node. -/
theorem exists_traverses_of_tires (h : Tires v nulls a R) (n : Nat) :
    ∀ (parent : Option NodeId) (slots : List (Option NodeId)) (t : Scene σ), a.Grown t.arena →
      R n t.memory → ∃ calls u, Traverses v nulls parent slots t calls u ∧ R n u.memory := by
  induction n with
  | zero => exact exists_traverses_of_tires_below h fun k hk => absurd hk (Nat.succ_ne_zero k).symm
  | succ n ih =>
    refine exists_traverses_of_tires_below h fun k hk => ?_
    rw [← Nat.succ.inj hk]
    exact ih

/-- What is remembered after any number of steps is what the calls so far tell. -/
theorem walk_told (v : Visitor σ) (nulls : Bool) (a : Arena) (steps : Nat) (root : NodeId) (m : σ) :
    (a.walk v nulls steps root m).memory =
      told v m (a.walk (logging v) nulls steps root (m, [])).memory.2 := by
  have hrun : forget (State.run (logging v) nulls steps (.start a root (m, []))) =
      State.run v nulls steps (.start a root m) := run_logging steps _
  have hlisted := (listed_start a v root m).run nulls steps
  exact (congrArg State.memory hrun).symm.trans hlisted.memory

end Walk

/-! ### What stands for absent children -/

namespace Arena

/-- Whatever stands for an absent child is a literal. -/
def MarksLiterals (a : Arena) : Prop := ∀ id, (a.node id).synthetic = true → a.kind id = .literal

/-- No node of the arena stands for an absent child. -/
def Unfilled (a : Arena) : Prop := ∀ id, (a.node id).synthetic = false

variable {a : Arena}

theorem Unfilled.marksLiterals (h : a.Unfilled) : a.MarksLiterals :=
  fun id hsyn => absurd ((h id).symm.trans hsyn) Bool.false_ne_true

theorem Unfilled.add (h : a.Unfilled) (kind : Kind) : (a.add kind).Unfilled := by
  intro id
  rw [Arena.add, node_push]
  split
  · rfl
  · exact h id

theorem Unfilled.modify (h : a.Unfilled) (id : NodeId) {f : Node → Node}
    (hf : ∀ n, (f n).synthetic = n.synthetic) : (a.modify id f).Unfilled := by
  intro id'
  rcases node_modify_or a id f id' with hnode | hnode
  · rw [hnode, hf]
    exact h id'
  · rw [hnode]
    exact h id'

/-- Walks leave no placeholders behind. -/
theorem Unfilled.walk (h : a.Unfilled) {σ : Type} {v : Visitor σ} {nulls : Bool} {steps : Nat}
    {root : NodeId} {m : σ} (hc : (a.walk v nulls steps root m).complete) :
    (a.walk v nulls steps root m).arena.Unfilled := by
  obtain ⟨calls, u, ht, hw⟩ := Walk.traverses_of_complete hc
  have halike : a.Alike (a.walk v nulls steps root m).arena := by
    rw [hw]
    exact (ht.grown (.refl a)).1.truncate
  intro id
  rw [← halike.synthetic]
  exact h id

/-- **In the arenas that can be made**, nothing stands for an absent child. -/
theorem Built.unfilled (h : Built a) : a.Unfilled := by
  induction h with
  | empty => exact fun id => by rw [node_of_le (Nat.zero_le id)]
  | add _ kind ih => exact ih.add kind
  | setChild _ id field child ih => exact ih.modify id fun _ => rfl
  | setProp _ id key value ih => exact ih.modify id fun _ => rfl
  | walk _ v nulls steps root m _ hc ih => exact ih.walk hc

theorem Built.marksLiterals (h : Built a) : a.MarksLiterals := h.unfilled.marksLiterals

end Arena

namespace Outline

open Progress (Quantity Report Receiver)
open Walk (Tires Traverses told)

variable {α σ : Type} [Quantity α] {s : Settings} {r : Receiver α σ} {a : Arena}

/-! ### What the visitor answers -/

/-- All that the visitor can do when it is shown a node. -/
inductive Answers (s : Settings) (r : Receiver α σ) (b : Arena) (id : NodeId) (m : Draft σ) :
    Visit × Draft σ → Prop where
  /-- It has been asked to stop. -/
  | halt : Answers s r b id m (.skip, m.halt)
  /-- The node is recorded, and what is below it is left out. -/
  | collapse (hnow : r.isCanceled m.progress = false) (hidden : Nat) :
    Answers s r b id m (.skip, arrive r b id hidden 0 m)
  /-- The node is recorded. If something can be reached below it, it is not to be left out. -/
  | record (hnow : r.isCanceled m.progress = false) (remaining : Nat)
    (hshow : (∃ slot ∈ (b.childSlots id).getD [], slot.isSome || s.nulls) →
      s.hides (b.kind id) m.frames.length = false) :
    Answers s r b id m (.descend, arrive r b id 0 remaining m)

theorem visitor_answers {b : Arena} {id : NodeId} {m : Draft σ} {answer : Visit × Draft σ}
    (hb : (visitor s r).before b id m = answer) : Answers s r b id m answer := by
  subst hb
  by_cases hstop : m.canceled = true ∨ r.isCanceled m.progress = true
  · rw [visitor_halt hstop]
    exact .halt
  · obtain ⟨hc, hnow⟩ := not_or.mp hstop
    rw [Bool.not_eq_true] at hc hnow
    rw [visitor_going hc hnow]
    split
    · exact .collapse hnow _
    · next hnot =>
      refine .record hnow _ fun ⟨slot, hslot, hshown⟩ => ?_
      by_contra hhides
      refine hnot ⟨List.ne_nil_of_mem (List.mem_filter.mpr ⟨hslot, hshown⟩), ?_⟩
      rw [← Bool.not_eq_false]
      exact hhides

/-! ### The depth -/

/-- There are `n` levels left to the depth `d`, and no entry is deeper. -/
structure Draft.WithinDepth (d n : Nat) (m : Draft σ) : Prop where
  level : m.frames.length + n = d
  entries : ∀ e ∈ m.entries, e.depth ≤ d

variable {d n : Nat} {m : Draft σ}

theorem Draft.WithinDepth.halt (h : m.WithinDepth d n) : m.halt.left.WithinDepth d n where
  level := (congrArg (· + n) (length_countDown m.frames)).trans h.level
  entries := h.entries

theorem Draft.WithinDepth.mem_arrive (h : m.WithinDepth d n) (r : Receiver α σ) (b : Arena)
    (id : NodeId) (hidden remaining : Nat) :
    ∀ e ∈ (arrive r b id hidden remaining m).entries, e.depth ≤ d := by
  intro e he
  rw [Outline.arrive, Draft.enter, Draft.record] at he
  rcases Array.mem_push.mp he with he | rfl
  · exact h.entries e he
  · have hdepth : (countDown m.frames).length = m.frames.length := length_countDown m.frames
    have hlevel := h.level
    show (countDown m.frames).length ≤ d
    omega

theorem Draft.WithinDepth.arrive (h : m.WithinDepth d n) (r : Receiver α σ) (b : Arena)
    (id : NodeId) (hidden remaining : Nat) :
    (arrive r b id hidden remaining m).left.WithinDepth d n where
  level := (congrArg (· + n) (length_countDown m.frames)).trans h.level
  entries := h.mem_arrive r b id hidden remaining

/-- **With a limit to the depth the visitor tires.** -/
theorem tires_depth (hd : s.maxDepth = some d) (r : Receiver α σ) (a : Arena) :
    Tires (visitor s r) s.nulls a fun n m => m.WithinDepth d n where
  skip n b id m m' h hb := by
    cases visitor_answers hb with
    | halt => exact h.halt
    | collapse hnow hidden => exact h.arrive r b id hidden 0
  idle n b id m m' h hb := by
    cases visitor_answers hb with
    | record hnow remaining hshow => exact h.arrive r b id 0 remaining
  descend n b id m m' hg h hb hbelow := by
    cases visitor_answers hb with
    | record hnow remaining hshow =>
      have hslots : (b.childSlots id).getD [] = a.slotsOf id := hg.slotsOf id
      have hhides := hshow (hslots ▸ hbelow)
      have hlt : m.frames.length < d := by
        simpa [Settings.hides, hd] using (Bool.or_eq_false_iff.mp hhides).2
      have hlevel := h.level
      obtain ⟨k, hk⟩ : ∃ k, n = k + 1 := Nat.exists_eq_add_one.mpr (by omega)
      refine ⟨k, hk, ?_, h.mem_arrive r b id 0 remaining⟩
      have hframes : (Outline.arrive r b id 0 remaining m).frames.length = m.frames.length + 1 :=
        congrArg (· + 1) (length_countDown m.frames)
      omega
  leave k b id m m' h h' := by
    have hlevel := h.level
    have hlevel' := h'.level
    have hframes : ((visitor s r).after b id m').frames.length = m'.frames.length - 1 :=
      List.length_tail
    exact ⟨by omega, h'.entries⟩

/-! ### The stop -/

/-- Nothing has been reported but the ticks of the entries. There are `n` of them left to `limit`,
and not more than `limit` have been made. -/
structure Draft.WithinTicks (r : Receiver α σ) (p : σ) (limit n : Nat) (m : Draft σ) : Prop where
  progress : m.progress = ticked r p (work m.entries.toList)
  le : work m.entries.toList ≤ limit
  rest : limit ≤ work m.entries.toList + n

/-- From tick `n` on the receiver asks to stop; it need not do so before the first tick. -/
def StopsBy (r : Receiver α σ) (p : σ) (n : Nat) : Prop :=
  ∀ k, 1 ≤ k → n ≤ k → r.isCanceled (ticked r p k) = true

variable {p : σ} {limit : Nat}

theorem Draft.WithinTicks.halt (h : m.WithinTicks r p limit n) :
    m.halt.left.WithinTicks r p limit n where
  progress := h.progress
  le := h.le
  rest := h.rest

/-- As long as the receiver has not asked to stop, there is a tick left. -/
theorem Draft.WithinTicks.lt (h : m.WithinTicks r p limit n) (hstop : StopsBy r p limit)
    (hpos : 1 ≤ limit) (hnow : r.isCanceled m.progress = false) :
    work m.entries.toList < limit := by
  by_contra hle
  have hge : limit ≤ work m.entries.toList := Nat.le_of_not_lt hle
  rw [h.progress, hstop _ (Nat.le_trans hpos hge) hge] at hnow
  cases hnow

theorem Draft.WithinTicks.mono (h : m.WithinTicks r p limit n) {n' : Nat} (hle : n ≤ n') :
    m.WithinTicks r p limit n' :=
  { h with rest := Nat.le_trans h.rest (Nat.add_le_add_left hle _) }

/-- A node that is recorded takes one of the ticks, and a placeholder none. -/
theorem Draft.WithinTicks.arrive (h : m.WithinTicks r p limit n)
    (hlt : work m.entries.toList < limit) (b : Arena) (id : NodeId) (hidden remaining : Nat) :
    (Outline.arrive r b id hidden remaining m).WithinTicks r p limit
      (if (b.node id).synthetic then n else n - 1) := by
  obtain ⟨hprogress, hle, hrest⟩ := h
  have hentries : (Outline.arrive r b id hidden remaining m).entries.toList =
      m.entries.toList ++ [entryOf b id (countDown m.frames) hidden] := Array.toList_push
  have hwork := congrArg work hentries
  rw [work_append, work_singleton] at hwork
  have hsynthetic : (entryOf b id (countDown m.frames) hidden).synthetic =
      (b.node id).synthetic := rfl
  have htold : (Outline.arrive r b id hidden remaining m).progress =
      if (b.node id).synthetic then m.progress else r.receive .tick m.progress := rfl
  rw [hsynthetic] at hwork
  cases hsyn : (b.node id).synthetic with
  | true =>
    rw [hsyn, if_pos rfl] at hwork htold
    exact ⟨by rw [htold, hprogress, hwork, Nat.add_zero], by omega, by rw [if_pos rfl]; omega⟩
  | false =>
    rw [hsyn, if_neg Bool.false_ne_true] at hwork htold
    refine ⟨by rw [htold, hprogress, hwork, ticked_succ], by omega, ?_⟩
    rw [if_neg Bool.false_ne_true]
    omega

/-- A node that is left after it has been recorded. -/
theorem Draft.WithinTicks.arrive_left (h : m.WithinTicks r p limit n)
    (hlt : work m.entries.toList < limit) (b : Arena) (id : NodeId) (hidden remaining : Nat) :
    (Outline.arrive r b id hidden remaining m).left.WithinTicks r p limit n := by
  have hle : (if (b.node id).synthetic then n else n - 1) ≤ n := by
    split
    · exact Nat.le_refl n
    · exact Nat.sub_le n 1
  obtain ⟨hprogress, hwork, hrest⟩ := (h.arrive hlt b id hidden remaining).mono hle
  exact ⟨hprogress, hwork, hrest⟩

/-- Below what stands for an absent child there is nothing. -/
theorem real_of_slots (h : a.MarksLiterals) {b : Arena} (hg : a.Grown b) {id : NodeId}
    {slot : Option NodeId} (hslot : slot ∈ a.slotsOf id) : (b.node id).synthetic = false := by
  have hlt : id < a.size := by
    by_contra hle
    rw [Arena.slotsOf_of_le (Nat.le_of_not_lt hle)] at hslot
    cases hslot
  rw [Arena.synthetic_of_orphan (hg.real id hlt), Bool.eq_false_iff]
  intro hsyn
  have hnone : a.slotsOf id = [] := by
    have hkind : (a.node id).kind = .literal := h id hsyn
    rw [Arena.slotsOf, Arena.childSlots, Node.childSlots, hkind]
    rfl
  rw [hnone] at hslot
  cases hslot

/-- **Where a stop is asked for the visitor tires.** -/
theorem tires_stop (hlit : a.MarksLiterals) (hstop : StopsBy r p limit) (hpos : 1 ≤ limit)
    (s : Settings) :
    Tires (visitor s r) s.nulls a fun n m => m.WithinTicks r p limit n where
  skip n b id m m' h hb := by
    cases visitor_answers hb with
    | halt => exact h.halt
    | collapse hnow hidden => exact h.arrive_left (h.lt hstop hpos hnow) b id hidden 0
  idle n b id m m' h hb := by
    cases visitor_answers hb with
    | record hnow remaining hshow => exact h.arrive_left (h.lt hstop hpos hnow) b id 0 remaining
  descend n b id m m' hg h hb hbelow := by
    obtain ⟨slot, hslot, -⟩ := hbelow
    cases visitor_answers hb with
    | record hnow remaining hshow =>
      have hlt := h.lt hstop hpos hnow
      have hrest := h.rest
      obtain ⟨k, rfl⟩ : ∃ k, n = k + 1 := Nat.exists_eq_add_one.mpr (by omega)
      have harrive := h.arrive hlt b id 0 remaining
      rw [real_of_slots hlit hg hslot, if_neg Bool.false_ne_true] at harrive
      exact ⟨k, rfl, harrive⟩
  leave k b id m m' h h' := ⟨h'.progress, h'.le, Nat.le_succ_of_le h'.rest⟩

/-! ### Outlines -/

/-- Nothing is struck from an outline. -/
theorem entries_prefix_told (s : Settings) (r : Receiver α σ) (calls : List Walk.Call)
    (m : Draft σ) : m.entries.toList <+: (told (visitor s r) m calls).entries.toList := by
  induction calls generalizing m with
  | nil => exact List.prefix_refl _
  | cons call calls ih =>
    have hone : m.entries.toList <+: (call.tell (visitor s r) m).entries.toList := by
      cases call with
      | after b id => exact List.prefix_refl _
      | before b id =>
        rcases visitor_cases s r b id m with ⟨hsame, -⟩ | ⟨hidden, hpush, -⟩
        · rw [Walk.tell_before, hsame]
        · rw [Walk.tell_before, hpush, Array.toList_push]
          exact List.prefix_append _ _
    exact hone.trans (ih _)

end Outline

namespace Arena

open Progress (Quantity Report Receiver)
open Outline (Settings blank work ticked StopsBy)
open Walk (Scene Traverses)

variable {α σ : Type} [Quantity α] {a : Arena} {s : Settings} {r : Receiver α σ} {root : NodeId}
  {progress : σ}

/-- An outline that comes to an end has all the entries it has at any time before. -/
theorem ends_of_traverses {calls : List Walk.Call} {u : Scene (Outline.Draft σ)}
    (ht : Traverses (Outline.visitor s r) s.nulls none [some root] (.start a (blank r a progress))
      calls u) :
    (∃ steps, (a.outline s r steps root progress).complete) ∧
    ∀ steps, (a.outline s r steps root progress).outline.entries.toList <+:
      u.memory.entries.toList := by
  refine ⟨⟨_, Walk.complete_of_traverses ht (Nat.le_refl _)⟩, fun steps => ?_⟩
  obtain ⟨later, hlater⟩ := ht.calls_prefix steps
  have hmemory := Walk.walk_told (Outline.visitor s r) s.nulls a steps root (blank r a progress)
  have hentries : (a.outline s r steps root progress).outline.entries =
      (Walk.told (Outline.visitor s r) (blank r a progress)
        (a.walk (Walk.logging (Outline.visitor s r)) s.nulls steps root
          (blank r a progress, [])).memory.2).entries := congrArg Outline.Draft.entries hmemory
  have hend : u.memory = Walk.told (Outline.visitor s r) (blank r a progress) calls := ht.memory_eq
  rw [hentries, hend, ← hlater, Walk.told_append]
  exact Outline.entries_prefix_told s r later _

/-- **Outlines that end**, on any arena, from any root, and whatever is collapsed or filled in for
absent children.

With a limit to the depth the outline ends, and no entry is deeper than the limit. If the receiver
asks to stop from tick `n` on, the outline ends without a limit as well, and at most `n` of its
entries are about nodes of the arena, or one if `n` is zero. For this, nodes that look like
placeholders must have nothing below them, which is so in every arena that can be made
(`Built.marksLiterals`). -/
theorem outline_ends (a : Arena) (s : Settings) (r : Receiver α σ) (root : NodeId)
    (progress : σ) :
    (∀ d, s.maxDepth = some d →
      (∃ steps, (a.outline s r steps root progress).complete) ∧
      ∀ steps, ∀ e ∈ (a.outline s r steps root progress).outline.entries, e.depth ≤ d) ∧
    ∀ n, a.MarksLiterals → StopsBy r (r.receive (.total (Quantity.ofNat a.size)) progress) n →
      (∃ steps, (a.outline s r steps root progress).complete) ∧
      ∀ steps, (a.outline s r steps root progress).outline.entries.countP
        (fun e => !e.synthetic) ≤ max n 1 := by
  refine ⟨fun d hd => ?_, fun n hlit hstop => ?_⟩
  · have hstart : (blank r a progress).WithinDepth d d :=
      ⟨Nat.zero_add d, fun e he => absurd he (Array.not_mem_empty e)⟩
    obtain ⟨calls, u, ht, hwithin⟩ := Walk.exists_traverses_of_tires
      (Outline.tires_depth hd r a) d none [some root] (.start a (blank r a progress)) (.refl a)
      hstart
    obtain ⟨hends, hbegins⟩ := ends_of_traverses ht
    refine ⟨hends, fun steps e he => hwithin.entries e ?_⟩
    exact Array.mem_toList_iff.mp ((hbegins steps).subset (Array.mem_toList_iff.mpr he))
  · have hstop' : StopsBy r (r.receive (.total (Quantity.ofNat a.size)) progress) (max n 1) :=
      fun k hpos hk => hstop k hpos (Nat.le_trans (Nat.le_max_left n 1) hk)
    have hstart : (blank r a progress).WithinTicks r
        (r.receive (.total (Quantity.ofNat a.size)) progress) (max n 1) (max n 1) :=
      ⟨rfl, Nat.zero_le _, Nat.le_add_left _ _⟩
    obtain ⟨calls, u, ht, hwithin⟩ := Walk.exists_traverses_of_tires
      (Outline.tires_stop hlit hstop' (Nat.le_max_right n 1) s) (max n 1) none [some root]
      (.start a (blank r a progress)) (.refl a) hstart
    obtain ⟨hends, hbegins⟩ := ends_of_traverses ht
    refine ⟨hends, fun steps => ?_⟩
    rw [← Array.countP_toList]
    exact Nat.le_trans (hbegins steps).sublist.countP_le hwithin.le

end Arena

/-- A condition that is its own consequence, and lacks the rest. -/
def loopedCondition : Arena :=
  ⟨#[{ kind := .ifStatement, children := [("consequent", .node 0)] }]⟩

open Outline Progress in
theorem loopedCondition_outlines_end :
    loopedCondition.MarksLiterals ∧
    StopsBy Recording.receiver
      (Recording.receive (.total (Quantity.ofNat loopedCondition.size)) impatient) 2 ∧
    (∃ steps, (loopedCondition.outline { maxDepth := some 1, nulls := true } silent steps 0
      ()).complete) ∧
    (loopedCondition.outline { maxDepth := some 1, nulls := true } silent 20 0
      ()).outline.entries.map (fun e => (e.depth, e.hidden)) = #[(0, 0), (1, 0), (1, 3), (1, 0)] ∧
    (∃ steps, (loopedCondition.outline { nulls := true } Recording.receiver steps 0
      impatient).complete) ∧
    (loopedCondition.outline { nulls := true } Recording.receiver 20 0
      impatient).outline.entries.map (fun e => (e.depth, e.synthetic)) =
        #[(0, false), (1, true), (1, false)] := by
  have hbuilt : Arena.Built loopedCondition :=
    .setChild (.add .empty .ifStatement) 0 "consequent" (.node 0)
  have hstops : StopsAfter Recording.receiver
      (Recording.receive (.total (Quantity.ofNat loopedCondition.size)) impatient) 2 :=
    stopsAfter_recording rfl rfl rfl Nat.two_pos
  have hstop : StopsBy Recording.receiver
      (Recording.receive (.total (Quantity.ofNat loopedCondition.size)) impatient) 2 :=
    fun k _ hk => (hstops k).trans (decide_eq_true hk)
  obtain ⟨hdepth, -⟩ := Arena.outline_ends loopedCondition { maxDepth := some 1, nulls := true }
    silent 0 ()
  obtain ⟨-, hticks⟩ := Arena.outline_ends loopedCondition { nulls := true } Recording.receiver 0
    impatient
  exact ⟨hbuilt.marksLiterals, hstop, (hdepth 1 rfl).1, by decide +kernel,
    (hticks 2 hbuilt.marksLiterals hstop).1, by decide +kernel⟩

end Estree
