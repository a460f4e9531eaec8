import Estree.Proofs.Arena.Nodes
import Estree.Walk
import Mathlib.Algebra.GroupWithZero.Nat

/-!
# Walks as recursive traversals

A walk keeps what is still to be done on one flat stack, where the slots of all open nodes and the
nodes that are to be left lie one upon the other. What it does is said more simply by recursion:
reach what is in a slot, visit the children, leave, and go on with the next slot.

`Traverses` is that recursion, as a relation, for it need not end: a tree may contain itself and the
visitor may be anyone. The relation says what the visitor is told on the way, with the tree at that
moment, and how things stand at the end.

A stack denotes what is left of a traversal: `pend parent slots` on top of a stack stands for the
slots of one node, below which lies what comes after them.

* `Traverses.run`: a traversal that ends is a number of steps of the walk, whatever lies below.
* `traverses_of_run`: a walk that empties its stack has made the traversals that lay on it.
* `Traverses.grown`: meanwhile the tree has the nodes it had, and placeholders after them.
* `walk_eq_traversal`: so the two end on the same inputs, tell the visitor the same, and report the
  same.
-/

namespace Estree

namespace Walk

variable {σ : Type}

/-- What a visitor is told, with the tree at that moment. -/
inductive Call where
  /-- A node is reached. -/
  | before (a : Arena) (id : NodeId)
  /-- A node is left. -/
  | after (a : Arena) (id : NodeId)

/-- How things stand on a traversal. -/
structure Scene (σ : Type) where
  /-- The tree, with the placeholders made so far. -/
  arena : Arena
  /-- What happened so far. -/
  report : WalkReport
  /-- What the visitor remembers. -/
  memory : σ

namespace Scene

/-- A walk with this scene that has `stack` still to do. -/
def withStack (t : Scene σ) (stack : List Pending) : State σ := ⟨t.arena, stack, t.report, t.memory⟩

/-- Reach what is in a slot of `parent`. A node gets its parent recorded; for an empty slot of a
node there is a placeholder if nulls are walked. Otherwise nothing is reached. -/
def reach (nulls : Bool) (t : Scene σ) (parent : Option NodeId) :
    Option NodeId → Option (NodeId × Scene σ)
  | some id => some (id, { t with arena := t.arena.setParent id parent })
  | none =>
    match nulls, parent with
    | true, some owner =>
      some (t.arena.size,
        { t with
          arena := t.arena.push (.placeholder owner)
          report := { t.report with synthesized := t.report.synthesized + 1 } })
    | _, _ => none

/-- The visitor has been shown a node and remembers `m` now. -/
def shown (t : Scene σ) (m : σ) : Scene σ :=
  { t with report := { t.report with visited := t.report.visited + 1 }, memory := m }

/-- The visitor has declined to descend. -/
def declined (t : Scene σ) : Scene σ :=
  { t with report := { t.report with skipped := t.report.skipped + 1 } }

/-- Descending is impossible, for the kind of the node is not known. -/
def stuckAt (t : Scene σ) (id : NodeId) : Scene σ :=
  let unknown := ⟨(t.arena.kind id).name, id⟩
  { t with report := { t.report with unknownKinds := t.report.unknownKinds.push unknown } }

/-- Leave a node. -/
def leave (v : Visitor σ) (id : NodeId) (t : Scene σ) : Scene σ :=
  { t with memory := v.after t.arena id t.memory }

end Scene

/-- `Traverses v nulls parent slots t calls u`: entering `slots`, which are slots of `parent`, one
after the other leads from `t` to `u`, and `calls` is what the visitor is told meanwhile. The root
of a walk is entered as a slot that has no parent. -/
inductive Traverses (v : Visitor σ) (nulls : Bool) :
    Option NodeId → List (Option NodeId) → Scene σ → List Call → Scene σ → Prop where
  /-- There is no slot left. -/
  | nil {parent : Option NodeId} {t : Scene σ} : Traverses v nulls parent [] t [] t
  /-- Nothing is reached through the first slot. -/
  | hole {parent slot : Option NodeId} {rest : List (Option NodeId)} {t u : Scene σ}
      {calls : List Call} (hr : t.reach nulls parent slot = none) :
      Traverses v nulls parent rest t calls u →
        Traverses v nulls parent (slot :: rest) t calls u
  /-- The visitor declines to descend into what is reached. -/
  | skip {parent slot : Option NodeId} {rest : List (Option NodeId)} {t t₁ u : Scene σ}
      {calls : List Call} {id : NodeId} {m : σ}
      (hr : t.reach nulls parent slot = some (id, t₁))
      (hb : v.before t₁.arena id t₁.memory = (.skip, m)) :
      Traverses v nulls parent rest ((t₁.shown m).declined.leave v id) calls u →
        Traverses v nulls parent (slot :: rest) t
          (.before t₁.arena id :: .after t₁.arena id :: calls) u
  /-- The kind of what is reached is not known. -/
  | unknown {parent slot : Option NodeId} {rest : List (Option NodeId)} {t t₁ u : Scene σ}
      {calls : List Call} {id : NodeId} {m : σ}
      (hr : t.reach nulls parent slot = some (id, t₁))
      (hb : v.before t₁.arena id t₁.memory = (.descend, m))
      (hs : t₁.arena.childSlots id = none) :
      Traverses v nulls parent rest (((t₁.shown m).stuckAt id).leave v id) calls u →
        Traverses v nulls parent (slot :: rest) t
          (.before t₁.arena id :: .after t₁.arena id :: calls) u
  /-- The slots of what is reached are entered before it is left. -/
  | descend {parent slot : Option NodeId} {rest slots : List (Option NodeId)}
      {t t₁ t₂ u : Scene σ} {inner calls : List Call} {id : NodeId} {m : σ}
      (hr : t.reach nulls parent slot = some (id, t₁))
      (hb : v.before t₁.arena id t₁.memory = (.descend, m))
      (hs : t₁.arena.childSlots id = some slots) :
      Traverses v nulls (some id) slots (t₁.shown m) inner t₂ →
      Traverses v nulls parent rest (t₂.leave v id) calls u →
        Traverses v nulls parent (slot :: rest) t
          (.before t₁.arena id :: (inner ++ .after t₂.arena id :: calls)) u

/-! ### What a stack stands for -/

/-- The slots of `parent` on a stack. -/
def pend : Option NodeId → List (Option NodeId) → List Pending
  | some owner, slots => slots.map (.slot · owner)
  | none, slots => slots.filterMap (·.map .root)

@[simp] theorem pend_nil (parent : Option NodeId) : pend parent [] = [] := by
  cases parent <;> rfl

variable {v : Visitor σ} {nulls : Bool}

open State (run)

theorem run_succ {n : Nat} {s : State σ} {next : Pending} {rest : List Pending}
    (h : s.stack = next :: rest) :
    run v nulls (n + 1) s = run v nulls n (State.step v nulls { s with stack := rest } next) := by
  simp only [run, h]

theorem run_of_stack_nil {s : State σ} (h : s.stack = []) (n : Nat) : run v nulls n s = s := by
  cases n <;> simp [run, h]

theorem run_add (m n : Nat) (s : State σ) :
    run v nulls (m + n) s = run v nulls n (run v nulls m s) := by
  induction m generalizing s with
  | zero => rw [Nat.zero_add]; rfl
  | succ m ih =>
    cases hs : s.stack with
    | nil => rw [run_of_stack_nil hs, run_of_stack_nil hs, run_of_stack_nil hs]
    | cons next rest => rw [Nat.succ_add, run_succ hs, run_succ hs, ih]

/-- Once the stack is empty, it does not matter how many steps are left. -/
theorem run_eq_of_stack_nil {m n : Nat} {s : State σ} (hm : (run v nulls m s).stack = [])
    (hn : (run v nulls n s).stack = []) : run v nulls m s = run v nulls n s := by
  rcases Nat.le_total m n with h | h
  · obtain ⟨k, rfl⟩ := Nat.exists_eq_add_of_le h
    rw [run_add, run_of_stack_nil hm]
  · obtain ⟨k, rfl⟩ := Nat.exists_eq_add_of_le h
    rw [run_add, run_of_stack_nil hn]

/-! ### The four exits of a visit -/

/-- What is reached is the node in the slot, with its parent recorded, or a placeholder. -/
theorem reach_cases {parent slot : Option NodeId} {t t₁ : Scene σ} {id : NodeId}
    (hr : t.reach nulls parent slot = some (id, t₁)) :
    (slot = some id ∧ t₁ = { t with arena := t.arena.setParent id parent }) ∨
    (slot = none ∧ nulls = true ∧ id = t.arena.size ∧ ∃ owner, parent = some owner ∧
      t₁ = { t with
        arena := t.arena.push (.placeholder owner)
        report := { t.report with synthesized := t.report.synthesized + 1 } }) := by
  cases slot with
  | some id' =>
    cases hr
    exact .inl ⟨rfl, rfl⟩
  | none =>
    cases nulls <;> cases parent <;> cases hr
    exact .inr ⟨rfl, rfl, rfl, _, rfl, rfl⟩

section Exits

variable {parent slot : Option NodeId} {rest : List (Option NodeId)} {t t₁ : Scene σ}
  {id : NodeId} {m : σ}

/-- A slot through which nothing is reached costs a step at most, and changes nothing. -/
theorem run_hole (hr : t.reach nulls parent slot = none) (stack : List Pending) :
    ∃ d ≤ 1, (∀ n, run v nulls (d + n) (t.withStack (pend parent (slot :: rest) ++ stack)) =
        run v nulls n (t.withStack (pend parent rest ++ stack))) ∧
      ∀ n, (run v nulls n (t.withStack (pend parent (slot :: rest) ++ stack))).stack = [] →
        d ≤ n := by
  cases slot with
  | some id => simp [Scene.reach] at hr
  | none =>
    cases parent with
    | none =>
      exact ⟨0, Nat.zero_le 1, fun n => by rw [Nat.zero_add]; rfl, fun n _ => Nat.zero_le n⟩
    | some owner =>
      cases nulls with
      | true => simp [Scene.reach] at hr
      | false =>
        refine ⟨1, Nat.le_refl 1, fun n => by rw [Nat.add_comm]; rfl, fun n hend => ?_⟩
        cases n with
        | zero => exact absurd hend (List.cons_ne_nil _ _)
        | succ n => omega

/-- Reaching something is the first half of a step, and visiting it is the second. -/
theorem run_reach (hr : t.reach nulls parent slot = some (id, t₁)) (stack : List Pending)
    (n : Nat) :
    run v nulls (n + 1) (t.withStack (pend parent (slot :: rest) ++ stack)) =
      run v nulls n (State.visit v id (t₁.withStack (pend parent rest ++ stack))) := by
  cases slot with
  | some id' =>
    simp only [Scene.reach, Option.some.injEq, Prod.mk.injEq] at hr
    obtain ⟨rfl, rfl⟩ := hr
    cases parent <;> rfl
  | none =>
    cases nulls <;> cases parent <;>
      simp only [Scene.reach, Option.some.injEq, Prod.mk.injEq, reduceCtorEq] at hr
    obtain ⟨rfl, rfl⟩ := hr
    rfl

/-- It takes a step, so a walk that is over had one. -/
theorem pos_of_reach (hr : t.reach nulls parent slot = some (id, t₁)) {stack : List Pending}
    {n : Nat} (hend : (run v nulls n
      (t.withStack (pend parent (slot :: rest) ++ stack))).stack = []) : 0 < n := by
  refine Nat.pos_of_ne_zero fun hn => ?_
  subst hn
  cases slot <;> cases parent <;> simp_all [Scene.reach, run, Scene.withStack, pend]

theorem visit_skip (hb : v.before t₁.arena id t₁.memory = (.skip, m)) (stack : List Pending) :
    State.visit v id (t₁.withStack stack) =
      ((t₁.shown m).declined.leave v id).withStack stack := by
  simp only [State.visit, Scene.withStack, hb]
  rfl

theorem visit_unknown (hb : v.before t₁.arena id t₁.memory = (.descend, m))
    (hs : t₁.arena.childSlots id = none) (stack : List Pending) :
    State.visit v id (t₁.withStack stack) =
      (((t₁.shown m).stuckAt id).leave v id).withStack stack := by
  simp only [State.visit, Scene.withStack, hb, hs]
  rfl

theorem visit_descend {slots : List (Option NodeId)}
    (hb : v.before t₁.arena id t₁.memory = (.descend, m))
    (hs : t₁.arena.childSlots id = some slots) (stack : List Pending) :
    State.visit v id (t₁.withStack stack) =
      (t₁.shown m).withStack (pend (some id) slots ++ .leave id :: stack) := by
  simp only [State.visit, Scene.withStack, hb, hs]
  rfl

theorem run_leave (id : NodeId) (stack : List Pending) (n : Nat) :
    run v nulls (n + 1) (t.withStack (.leave id :: stack)) =
      run v nulls n ((t.leave v id).withStack stack) := rfl

end Exits

/-! ### From a traversal to a walk -/

variable {parent : Option NodeId} {slots : List (Option NodeId)} {t u : Scene σ}
  {calls : List Call}

/-- How many steps a call stands for at most: one in which the node is left, and one for each of
its slots. -/
def Call.effort : Call → Nat
  | before a id => 1 + ((a.childSlots id).getD []).length
  | after _ _ => 0

/-- How many steps some calls stand for at most. -/
def effort (calls : List Call) : Nat := (calls.map Call.effort).sum

/-- **A traversal that ends is a number of steps of the walk**: with the slots on top of its stack
the walk makes the traversal, and then has what lies below still to do. -/
theorem Traverses.run (h : Traverses v nulls parent slots t calls u) (stack : List Pending) :
    ∃ n ≤ slots.length + effort calls,
      ∀ k, run v nulls (n + k) (t.withStack (pend parent slots ++ stack)) =
        run v nulls k (u.withStack stack) := by
  induction h generalizing stack with
  | nil => exact ⟨0, Nat.zero_le _, fun k => by rw [Nat.zero_add, pend_nil, List.nil_append]⟩
  | hole hr _ ih =>
    obtain ⟨d, hd₁, hd, -⟩ := run_hole hr stack
    obtain ⟨n, hle, hn⟩ := ih stack
    refine ⟨d + n, ?_, fun k => by rw [Nat.add_assoc, hd, hn]⟩
    rw [List.length_cons]
    omega
  | skip hr hb _ ih =>
    obtain ⟨n, hle, hn⟩ := ih stack
    refine ⟨n + 1, ?_, fun k => by rw [Nat.add_right_comm, run_reach hr, visit_skip hb, hn]⟩
    simp only [effort, List.map_cons, List.sum_cons, List.length_cons] at hle ⊢
    omega
  | unknown hr hb hs _ ih =>
    obtain ⟨n, hle, hn⟩ := ih stack
    refine ⟨n + 1, ?_, fun k => by rw [Nat.add_right_comm, run_reach hr, visit_unknown hb hs, hn]⟩
    simp only [effort, List.map_cons, List.sum_cons, List.length_cons] at hle ⊢
    omega
  | @descend parent _ rest _ _ _ _ _ _ _ id _ hr hb hs _ _ ih₁ ih₂ =>
    obtain ⟨n₁, hle₁, hn₁⟩ := ih₁ (.leave id :: (pend parent rest ++ stack))
    obtain ⟨n₂, hle₂, hn₂⟩ := ih₂ stack
    refine ⟨n₁ + (n₂ + 1) + 1, ?_, fun k => ?_⟩
    · simp only [effort, List.map_cons, List.map_append, List.sum_cons, List.sum_append,
        List.length_cons, Call.effort, hs, Option.getD_some] at hle₁ hle₂ ⊢
      omega
    · rw [Nat.add_right_comm, run_reach hr, visit_descend hb hs, Nat.add_assoc, hn₁,
        Nat.add_right_comm, run_leave, hn₂]

/-! ### From a walk to a traversal -/

/-- **A walk that empties its stack has made the traversals that lay on it**, one after the other:
the one on top took it no more than the steps it had. -/
theorem traverses_of_run (n : Nat) : ∀ (parent : Option NodeId) (slots : List (Option NodeId))
    (t : Scene σ) (stack : List Pending),
    (run v nulls n (t.withStack (pend parent slots ++ stack))).stack = [] →
      ∃ calls u, Traverses v nulls parent slots t calls u ∧ ∃ k ≤ n,
        run v nulls n (t.withStack (pend parent slots ++ stack)) =
          run v nulls k (u.withStack stack) := by
  induction n using Nat.strongRecOn with
  | ind n ihn =>
    intro parent slots
    -- a slot of the root's list may take no step at all, so the slots are counted too
    induction slots with
    | nil => exact fun t stack _ => ⟨[], t, .nil, n, Nat.le_refl n, by rw [pend_nil]; rfl⟩
    | cons slot rest ihs =>
      intro t stack hend
      cases hr : t.reach nulls parent slot with
      | none =>
        obtain ⟨d, -, hd, hle⟩ := run_hole hr stack
        obtain ⟨n', rfl⟩ := Nat.exists_eq_add_of_le (hle n hend)
        rw [hd] at hend ⊢
        have hrest : ∃ calls u, Traverses v nulls parent rest t calls u ∧ ∃ k ≤ n',
            run v nulls n' (t.withStack (pend parent rest ++ stack)) =
              run v nulls k (u.withStack stack) := by
          rcases Nat.eq_zero_or_pos d with rfl | hpos
          · rw [Nat.zero_add] at ihs
            exact ihs t stack hend
          · exact ihn n' (by omega) parent rest t stack hend
        obtain ⟨calls, u, h, k, hk, hrun⟩ := hrest
        exact ⟨calls, u, .hole hr h, k, by omega, hrun⟩
      | some r =>
        obtain ⟨id, t₁⟩ := r
        obtain ⟨n', rfl⟩ := Nat.exists_eq_add_of_le' (pos_of_reach hr hend)
        rw [run_reach hr] at hend ⊢
        cases hb : v.before t₁.arena id t₁.memory with
        | mk answer m =>
        cases answer with
        | skip =>
          rw [visit_skip hb] at hend ⊢
          obtain ⟨calls, u, h, k, hk, hrun⟩ := ihn n' (by omega) _ _ _ _ hend
          exact ⟨_, u, .skip hr hb h, k, by omega, hrun⟩
        | descend =>
          cases hs : t₁.arena.childSlots id with
          | none =>
            rw [visit_unknown hb hs] at hend ⊢
            obtain ⟨calls, u, h, k, hk, hrun⟩ := ihn n' (by omega) _ _ _ _ hend
            exact ⟨_, u, .unknown hr hb hs h, k, by omega, hrun⟩
          | some slots =>
            rw [visit_descend hb hs] at hend ⊢
            obtain ⟨inner, t₂, h₁, k₁, hk₁, hrun₁⟩ := ihn n' (by omega) _ _ _ _ hend
            rw [hrun₁] at hend ⊢
            -- the node itself is still on the stack, so there was a step left to leave it
            cases k₁ with
            | zero => exact absurd hend (List.cons_ne_nil _ _)
            | succ k₁ =>
              rw [run_leave] at hend ⊢
              obtain ⟨calls, u, h₂, k₂, hk₂, hrun₂⟩ := ihn k₁ (by omega) _ _ _ _ hend
              exact ⟨_, u, .descend hr hb hs h₁ h₂, k₂, by omega, hrun₂⟩

/-! ### The tree on the way -/

/-- The tree that the visitor is shown in a call. -/
def Call.arena : Call → Arena
  | before a _ => a
  | after a _ => a

theorem grown_of_reach {a : Arena} {slot : Option NodeId} {id : NodeId} {t₁ : Scene σ}
    (h : a.Grown t.arena) (hr : t.reach nulls parent slot = some (id, t₁)) : a.Grown t₁.arena := by
  rcases reach_cases hr with ⟨-, rfl⟩ | ⟨-, -, -, owner, -, rfl⟩
  · exact h.setParent id parent
  · exact h.push owner

/-- What is kept when a parent is recorded and, if nulls are walked, when a placeholder is appended,
is kept by a traversal; so it is whenever the visitor is called. -/
theorem Traverses.keeps {P : Arena → Prop} (hparent : ∀ b id p, P b → P (b.setParent id p))
    (hpush : nulls = true → ∀ b owner, P b → P (b.push (.placeholder owner)))
    (ht : Traverses v nulls parent slots t calls u) (h : P t.arena) :
    P u.arena ∧ ∀ call ∈ calls, P call.arena := by
  have hreach {parent slot : Option NodeId} {t t₁ : Scene σ} {id : NodeId} (h : P t.arena)
      (hr : t.reach nulls parent slot = some (id, t₁)) : P t₁.arena := by
    rcases reach_cases hr with ⟨-, rfl⟩ | ⟨-, hnulls, -, owner, -, rfl⟩
    · exact hparent _ id parent h
    · exact hpush hnulls _ owner h
  induction ht with
  | nil => exact ⟨h, List.forall_mem_nil _⟩
  | hole hr _ ih => exact ih h
  | skip hr hb _ ih
  | unknown hr hb hs _ ih =>
    have h₁ := hreach h hr
    obtain ⟨hu, hcalls⟩ := ih h₁
    exact ⟨hu, List.forall_mem_cons.mpr ⟨h₁, List.forall_mem_cons.mpr ⟨h₁, hcalls⟩⟩⟩
  | descend hr hb hs _ _ ih₁ ih₂ =>
    have h₁ := hreach h hr
    obtain ⟨h₂, hinner⟩ := ih₁ h₁
    obtain ⟨hu, hcalls⟩ := ih₂ h₂
    refine ⟨hu, List.forall_mem_cons.mpr ⟨h₁, List.forall_mem_append.mpr ⟨hinner, ?_⟩⟩⟩
    exact List.forall_mem_cons.mpr ⟨h₂, hcalls⟩

/-- **A traversal leaves the nodes as they are**, but for their parents, and appends placeholders;
so it is whenever the visitor is called. -/
theorem Traverses.grown (ht : Traverses v nulls parent slots t calls u) {a : Arena}
    (h : a.Grown t.arena) : a.Grown u.arena ∧ ∀ call ∈ calls, a.Grown call.arena :=
  ht.keeps (fun _ id p hb => hb.setParent id p) (fun _ _ owner hb => hb.push owner) h

/-- Where nulls are not walked, nothing is appended. -/
theorem Traverses.alike (ht : Traverses v false parent slots t calls u) {a : Arena}
    (h : a.Alike t.arena) : a.Alike u.arena ∧ ∀ call ∈ calls, a.Alike call.arena :=
  ht.keeps (fun _ id p hb => hb.setParent id p) (fun hnulls => absurd hnulls Bool.false_ne_true) h

/-! ### What the visitor is told -/

/-- The visitor `v`, with a list of what it has been told. -/
def logging (v : Visitor σ) : Visitor (σ × List Call) where
  before a id s :=
    let (visit, m) := v.before a id s.1
    (visit, (m, s.2 ++ [.before a id]))
  after a id s := (v.after a id s.1, s.2 ++ [.after a id])

/-- A scene in which the visitor keeps a list as well. -/
def Scene.withLog (t : Scene σ) (log : List Call) : Scene (σ × List Call) :=
  ⟨t.arena, t.report, (t.memory, log)⟩

theorem reach_withLog {slot : Option NodeId} {id : NodeId} {t₁ : Scene σ}
    (h : t.reach nulls parent slot = some (id, t₁)) (log : List Call) :
    (t.withLog log).reach nulls parent slot = some (id, t₁.withLog log) := by
  cases slot <;> cases nulls <;> cases parent <;>
    simp only [Scene.reach, Option.some.injEq, Prod.mk.injEq, reduceCtorEq] at h ⊢ <;>
    obtain ⟨rfl, rfl⟩ := h <;> exact ⟨rfl, rfl⟩

theorem reach_withLog_none {slot : Option NodeId} (h : t.reach nulls parent slot = none)
    (log : List Call) : (t.withLog log).reach nulls parent slot = none := by
  cases slot <;> cases nulls <;> cases parent <;> simp [Scene.reach] at h ⊢

theorem logging_before {a : Arena} {id : NodeId} {s m : σ} {answer : Visit}
    (h : v.before a id s = (answer, m)) (log : List Call) :
    (logging v).before a id (s, log) = (answer, (m, log ++ [.before a id])) := by
  simp only [logging, h]

/-- The calls of a traversal are the ones that its visitor could keep a list of. -/
theorem Traverses.logging (h : Traverses v nulls parent slots t calls u) (log : List Call) :
    Traverses (logging v) nulls parent slots (t.withLog log) calls (u.withLog (log ++ calls)) := by
  induction h generalizing log with
  | nil => rw [List.append_nil]; exact .nil
  | hole hr _ ih => exact .hole (reach_withLog_none hr log) (ih log)
  | skip hr hb _ ih =>
    rw [List.append_cons, List.append_cons]
    exact .skip (reach_withLog hr log) (logging_before hb log) (ih _)
  | unknown hr hb hs _ ih =>
    rw [List.append_cons, List.append_cons]
    exact .unknown (reach_withLog hr log) (logging_before hb log) hs (ih _)
  | @descend _ _ _ _ _ t₁ t₂ _ inner calls id _ hr hb hs _ _ ih₁ ih₂ =>
    have happ : log ++ .before t₁.arena id :: (inner ++ .after t₂.arena id :: calls) =
        log ++ [.before t₁.arena id] ++ inner ++ [.after t₂.arena id] ++ calls := by simp
    rw [happ]
    exact .descend (reach_withLog hr log) (logging_before hb log) hs (ih₁ _) (ih₂ _)

/-- A walk whose visitor has forgotten the list. -/
def forget (s : State (σ × List Call)) : State σ := ⟨s.arena, s.stack, s.report, s.memory.1⟩

theorem visit_logging (id : NodeId) (s : State (σ × List Call)) :
    forget (State.visit (Walk.logging v) id s) = State.visit v id (forget s) := by
  obtain ⟨a, stack, report, m, log⟩ := s
  cases hb : v.before a id m with
  | mk answer m' =>
  cases answer with
  | skip => simp only [State.visit, forget, logging_before hb, hb]; rfl
  | descend =>
    simp only [State.visit, forget, logging_before hb, hb]
    cases a.childSlots id <;> rfl

theorem step_logging (next : Pending) (s : State (σ × List Call)) :
    forget (State.step (Walk.logging v) nulls s next) = State.step v nulls (forget s) next := by
  cases next with
  | root id => exact visit_logging id _
  | leave id => rfl
  | slot content owner =>
    cases content with
    | some id => exact visit_logging id _
    | none =>
      cases nulls with
      | true => exact visit_logging _ _
      | false => rfl

/-- Keeping a list changes nothing. -/
theorem run_logging (n : Nat) (s : State (σ × List Call)) :
    forget (run (Walk.logging v) nulls n s) = run v nulls n (forget s) := by
  induction n generalizing s with
  | zero => rfl
  | succ n ih =>
    cases hs : s.stack with
    | nil =>
      have hs' : (forget s).stack = [] := hs
      rw [run_of_stack_nil hs, run_of_stack_nil hs']
    | cons next rest =>
      have hs' : (forget s).stack = next :: rest := hs
      rw [run_succ hs, run_succ hs', ih, step_logging]
      rfl

/-! ### Walks and traversals -/

/-- The scene before the first step of a walk. -/
def Scene.start (a : Arena) (m : σ) : Scene σ := ⟨a, {}, m⟩

/-- What a walk gives when its stack is empty and `u` is the scene. -/
def Scene.walked (u : Scene σ) (size : Nat) : Walked σ :=
  ⟨u.arena.truncate size, u.report, u.memory, true⟩

variable {a : Arena} {root : NodeId} {m : σ}

/-- A walk that is over has made a traversal. -/
theorem traverses_of_complete {steps : Nat} (h : (a.walk v nulls steps root m).complete) :
    ∃ calls u, Traverses v nulls none [some root] (.start a m) calls u ∧
      a.walk v nulls steps root m = u.walked a.size := by
  have hend : (run v nulls steps (.start a root m)).stack = [] := List.isEmpty_iff.mp h
  obtain ⟨calls, u, ht, k, -, hrun⟩ :=
    traverses_of_run steps none [some root] (Scene.start a m) [] hend
  have hrun : run v nulls steps (.start a root m) = u.withStack [] := by
    have hu : run v nulls k (u.withStack []) = u.withStack [] := run_of_stack_nil rfl k
    rw [← hu]
    exact hrun
  refine ⟨calls, u, ht, ?_⟩
  simp only [Arena.walk, hrun]
  rfl

/-- A traversal from the root that ends is made by a walk with enough steps. -/
theorem complete_of_traverses (h : Traverses v nulls none [some root] (.start a m) calls u)
    {steps : Nat} (hsteps : 1 + effort calls ≤ steps) :
    (a.walk v nulls steps root m).complete := by
  obtain ⟨n, hle, hn⟩ := h.run []
  obtain ⟨k, rfl⟩ := Nat.exists_eq_add_of_le (Nat.le_trans hle hsteps)
  have hn : run v nulls (n + k) (.start a root m) = u.withStack [] :=
    (hn k).trans (run_of_stack_nil rfl k)
  simp only [Arena.walk, hn]
  rfl

/-- A walk that is over gives what a traversal from its root leads to. -/
theorem walk_of_traverses {steps : Nat} (hc : (a.walk v nulls steps root m).complete)
    (h : Traverses v nulls none [some root] (.start a m) calls u) :
    a.walk v nulls steps root m = u.walked a.size := by
  have hend : (run v nulls steps (.start a root m)).stack = [] := List.isEmpty_iff.mp hc
  obtain ⟨n, -, hn⟩ := h.run []
  have hn : run v nulls n (.start a root m) = u.withStack [] := hn 0
  have hrun := run_eq_of_stack_nil hend (n := n) (by rw [hn]; rfl)
  rw [hn] at hrun
  simp only [Arena.walk, hrun]
  rfl

/-- Keeping a list does not make a walk longer. -/
theorem complete_logging {steps : Nat} (log : List Call) :
    (a.walk (Walk.logging v) nulls steps root (m, log)).complete =
      (a.walk v nulls steps root m).complete := by
  have hrun : forget (run (Walk.logging v) nulls steps (.start a root (m, log))) =
      run v nulls steps (.start a root m) := run_logging steps _
  exact congrArg (·.stack.isEmpty) hrun

/-- On a walk that is over the visitor is told what it is told on the traversal. -/
theorem logged_of_traverses {steps : Nat} (hc : (a.walk v nulls steps root m).complete)
    (h : Traverses v nulls none [some root] (.start a m) calls u) :
    (a.walk (Walk.logging v) nulls steps root (m, [])).memory = (u.memory, calls) := by
  have hlog : Traverses (Walk.logging v) nulls none [some root] (.start a (m, [])) calls
      (u.withLog calls) := h.logging []
  rw [walk_of_traverses (by rw [complete_logging]; exact hc) hlog]
  rfl

/-- **A walk is the recursive traversal of what is below its root.** The walk ends, given enough
steps, if and only if the traversal does. Then the two tell the visitor the same, each thing with
the same tree before its eyes, the visitor remembers the same in the end, and the report is the
same; of the tree, the walk drops the placeholders. -/
theorem walk_eq_traversal (a : Arena) (v : Visitor σ) (nulls : Bool) (root : NodeId) (m : σ) :
    ((∃ steps, (a.walk v nulls steps root m).complete) ↔
      ∃ calls u, Traverses v nulls none [some root] (.start a m) calls u) ∧
    ∀ steps calls u, (a.walk v nulls steps root m).complete →
      Traverses v nulls none [some root] (.start a m) calls u →
      (a.walk (logging v) nulls steps root (m, [])).memory = (u.memory, calls) ∧
      a.walk v nulls steps root m = ⟨u.arena.truncate a.size, u.report, u.memory, true⟩ := by
  refine ⟨⟨fun ⟨steps, hc⟩ => ?_, fun ⟨calls, u, h⟩ => ?_⟩,
    fun steps calls u hc h => ⟨logged_of_traverses hc h, walk_of_traverses hc h⟩⟩
  · obtain ⟨calls, u, h, -⟩ := traverses_of_complete hc
    exact ⟨calls, u, h⟩
  · exact ⟨_, complete_of_traverses h (Nat.le_refl _)⟩

/-- A visitor that goes everywhere and remembers nothing. -/
def wanderer : Visitor Unit where
  before _ _ _ := (.descend, ())
  after _ _ _ := ()

/-- A node that is its own child. -/
def ring : Arena := ⟨#[{ kind := .awaitExpression, children := [("argument", .node 0)] }]⟩

/-- A visitor that descends as often as it remembers. -/
def descending : Visitor Nat where
  before _ _ n := (if n = 0 then .skip else .descend, n - 1)
  after _ _ n := n

theorem walk_ring_eq_traversal :
    (ring.walk descending true 5 0 2).complete ∧
    ∃ calls u, Traverses descending true none [some 0] (.start ring 2) calls u ∧
      (ring.walk (logging descending) true 5 0 (2, [])).memory = (u.memory, calls) := by
  have hc : (ring.walk descending true 5 0 2).complete := by decide
  obtain ⟨⟨hto, -⟩, heq⟩ := walk_eq_traversal ring descending true 0 2
  obtain ⟨calls, u, h⟩ := hto ⟨5, hc⟩
  exact ⟨hc, calls, u, h, (heq 5 calls u hc h).1⟩

end Walk

end Estree
