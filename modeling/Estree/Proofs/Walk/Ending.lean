import Estree.Proofs.Walk.Calls
import Estree.Proofs.Walk.Parents
import Mathlib.Data.Fintype.Card
import Mathlib.Data.Fintype.EquivFin

/-!
# Walks that end

A walk may go on for ever, for what is in the slots of a node may lie above it. There are two
reasons why it does not.

Where nothing that can be reached contains itself there is no endless way down, and so the traversal
of what is below the root has an end. A node may be shared all the same; it is then visited once for
each way that leads to it.

On any tree a walk ends with a visitor that declines to descend from some time on. Each step takes
one thing off the stack, and nothing is put there instead unless the visitor descends. So the stack
is worked off, and at most the slots that are pending on it are visited.

* `AcyclicFrom.acc`: without rings there is no endless way down;
* `step_moves`: what a step can do, for any visitor;
* `run_worksOff`: the stack once the visitor has ceased to descend;
* `Arena.walk_ends`: both reasons together.
-/

namespace Estree

open Relation

namespace Arena

/-- The root leads to `y`, and `y` leads down to `x`. -/
def LeadsDown (a : Arena) (root : NodeId) (x y : Fin a.size) : Prop :=
  ReflTransGen a.HasSlot root y.val ∧ TransGen a.HasSlot y.val x.val

variable {a : Arena} {root : NodeId}

/-- An endless way down would lead through endlessly many nodes. -/
theorem AcyclicFrom.wellFounded (h : a.AcyclicFrom root) : WellFounded (a.LeadsDown root) := by
  have htrans : IsTrans (Fin a.size) (a.LeadsDown root) :=
    ⟨fun _ _ _ hxy hyz => ⟨hyz.1, hyz.2.trans hxy.2⟩⟩
  have hirrefl : Std.Irrefl (a.LeadsDown root) := ⟨fun x hx => h x.val hx.1 hx.2⟩
  exact Finite.wellFounded_of_trans_of_irrefl (a.LeadsDown root)

/-- **Where nothing contains itself there is no endless way down.** -/
theorem AcyclicFrom.acc (h : a.AcyclicFrom root) {id : NodeId}
    (hid : ReflTransGen a.HasSlot root id) : Acc (flip a.HasSlot) id := by
  -- below an index that nothing is stored under there is nothing
  have houtside {x : NodeId} (hx : a.size ≤ x) : Acc (flip a.HasSlot) x :=
    .intro x fun y hy => absurd (lt_size_of_hasSlot hy) (Nat.not_lt_of_le hx)
  have hinside (x : Fin a.size) (hx : ReflTransGen a.HasSlot root x.val) :
      Acc (flip a.HasSlot) x.val := by
    induction h.wellFounded.apply x with
    | intro x _ ih =>
      refine .intro _ fun y hy => ?_
      rcases Nat.lt_or_ge y a.size with hlt | hge
      · exact ih ⟨y, hlt⟩ ⟨hx, .single hy⟩ (hx.tail hy)
      · exact houtside hge
  rcases Nat.lt_or_ge id a.size with hlt | hge
  · exact hinside ⟨id, hlt⟩ hid
  · exact houtside hge

end Arena

namespace Walk

variable {σ : Type} {v : Visitor σ} {nulls : Bool} {a : Arena} {root : NodeId} {m : σ}

/-- The traversal of something that does not contain itself ends, whoever is the visitor. -/
theorem exists_traversal (h : a.AcyclicFrom root) (v : Visitor σ) (nulls : Bool) (m : σ) :
    ∃ calls u, Traverses v nulls none [some root] (.start a m) calls u := by
  refine exists_traverses none (.refl a) fun id hid => ?_
  obtain rfl := Option.some.inj (List.mem_singleton.mp hid)
  exact h.acc .refl

/-! ### What a step can do -/

/-- Is this a slot that is to be entered, or the root? -/
def Pending.isSlot : Pending → Bool
  | .leave _ => false
  | .root _ | .slot _ _ => true

/-- How many slots are pending on a stack. -/
def pendingSlots (stack : List Pending) : Nat := stack.countP Pending.isSlot

/-- With `next` taken from the stack, `s` is turned into `s'`, and the visitor is told `calls`.
Either nothing is visited, or there is one visit, and nothing is put on the stack if the visitor
declines to descend. -/
structure Moves (v : Visitor σ) (next : Pending) (s s' : State (σ × List Call))
    (calls : List Call) : Prop where
  memory : s'.memory = (told v s.memory.1 calls, s.memory.2 ++ calls)
  visited : s'.report.visited = s.report.visited + (visits calls).length
  exit : visits calls = [] ∧ s'.stack = s.stack ∨
    ∃ b id later, calls = .before b id :: later ∧ visits later = [] ∧ next.isSlot = true ∧
      ((v.before b id s.memory.1).1 = .skip → s'.stack = s.stack)

theorem visit_moves (v : Visitor σ) (next : Pending) (hnext : next.isSlot = true) (id : NodeId)
    (s : State (σ × List Call)) : ∃ calls, Moves v next s (s.visit (logging v) id) calls := by
  obtain ⟨b, stack, report, x, log⟩ := s
  unfold State.visit
  cases hb : v.before b id x with
  | mk answer x' =>
  have htold (later : List Call) : told v x (.before b id :: later) = told v x' later := by
    rw [told_cons, tell_before, hb]
  -- what is not descended into is left at once
  have hleft (report' : WalkReport) (hvisited : report'.visited = report.visited + 1) :
      Moves v next ⟨b, stack, report, x, log⟩
        ⟨b, stack, report', (logging v).after b id (x', log ++ [.before b id])⟩
        [.before b id, .after b id] := by
    refine ⟨?_, hvisited, .inr ⟨b, id, _, rfl, rfl, hnext, fun _ => rfl⟩⟩
    have happ : log ++ [.before b id, .after b id] = log ++ [.before b id] ++ [.after b id] :=
      List.append_cons _ _ _
    rw [htold, happ]
    rfl
  simp only [logging_before hb]
  cases answer with
  | skip => exact ⟨_, hleft _ rfl⟩
  | descend =>
    cases b.childSlots id with
    | none => exact ⟨_, hleft _ rfl⟩
    | some slots =>
      refine ⟨[.before b id], ?_, rfl, .inr ⟨b, id, _, rfl, rfl, hnext, fun hskip => ?_⟩⟩
      · rw [htold]
        rfl
      · rw [hb] at hskip
        cases hskip

/-- To prepare a visit changes nothing that matters here. -/
theorem Moves.of_prepared {next : Pending} {s s₁ s' : State (σ × List Call)} {calls : List Call}
    (h : Moves v next s₁ s' calls) (hstack : s₁.stack = s.stack)
    (hvisited : s₁.report.visited = s.report.visited) (hmemory : s₁.memory = s.memory) :
    Moves v next s s' calls where
  memory := hmemory ▸ h.memory
  visited := hvisited ▸ h.visited
  exit := hstack ▸ hmemory ▸ h.exit

/-- **All that a step can do.** -/
theorem step_moves (next : Pending) (s : State (σ × List Call)) :
    ∃ calls, Moves v next s (State.step (logging v) nulls s next) calls := by
  cases next with
  | leave id => exact ⟨[.after s.arena id], rfl, rfl, .inl ⟨rfl, rfl⟩⟩
  | root id =>
    obtain ⟨calls, h⟩ := visit_moves v (.root id) rfl id
      { s with arena := s.arena.setParent id none }
    exact ⟨calls, h.of_prepared rfl rfl rfl⟩
  | slot content owner =>
    cases content with
    | some id =>
      obtain ⟨calls, h⟩ := visit_moves v (.slot (some id) owner) rfl id
        { s with arena := s.arena.setParent id (some owner) }
      exact ⟨calls, h.of_prepared rfl rfl rfl⟩
    | none =>
      cases nulls with
      | true =>
        obtain ⟨calls, h⟩ := visit_moves v (.slot none owner) rfl s.arena.size
          { s with
            arena := s.arena.push (.placeholder owner)
            report := { s.report with synthesized := s.report.synthesized + 1 } }
        exact ⟨calls, h.of_prepared rfl rfl rfl⟩
      | false => exact ⟨[], by simp [State.step], rfl, .inl ⟨rfl, rfl⟩⟩

section Runs

open State (run)

variable {s s' : State (σ × List Call)} {next : Pending} {rest : List Pending} {n : Nat}

theorem run_one_moves (v : Visitor σ) (nulls : Bool) (hs : s.stack = next :: rest) :
    ∃ calls, Moves v next { s with stack := rest } (run (logging v) nulls 1 s) calls := by
  rw [run_succ hs]
  exact step_moves next { s with stack := rest }

/-- What is listed is what the visitor has been told since it remembered `m`, and all visits among
it are counted. -/
structure Listed (v : Visitor σ) (m : σ) (s : State (σ × List Call)) : Prop where
  memory : s.memory.1 = told v m s.memory.2
  visited : s.report.visited = (visits s.memory.2).length

theorem Moves.listed {calls : List Call} (h : Moves v next s s' calls) (hl : Listed v m s) :
    Listed v m s' where
  memory := by rw [h.memory, told_append, ← hl.memory]
  visited := by rw [h.visited, h.memory, visits_append, List.length_append, hl.visited]

theorem Listed.run (hl : Listed v m s) (nulls : Bool) (k : Nat) :
    Listed v m (run (logging v) nulls k s) := by
  induction k with
  | zero => exact hl
  | succ k ih =>
    rw [run_add]
    cases hs : (State.run (logging v) nulls k s).stack with
    | nil =>
      rw [run_of_stack_nil hs]
      exact ih
    | cons next rest =>
      obtain ⟨calls, h⟩ := run_one_moves v nulls hs
      exact h.listed ⟨ih.memory, ih.visited⟩

/-- Nothing is struck from the list. -/
theorem list_prefix_run (v : Visitor σ) (nulls : Bool) (s : State (σ × List Call)) (k : Nat) :
    s.memory.2 <+: (run (logging v) nulls k s).memory.2 := by
  induction k with
  | zero => exact List.prefix_refl _
  | succ k ih =>
    rw [run_add]
    cases hs : (run (logging v) nulls k s).stack with
    | nil =>
      rw [run_of_stack_nil hs]
      exact ih
    | cons next rest =>
      obtain ⟨calls, h⟩ := run_one_moves v nulls hs
      rw [h.memory]
      exact ih.trans (List.prefix_append _ _)

/-! ### Visitors that cease to descend -/

/-- From visit number `n` on, counted from zero, the visitor declines to descend each time. -/
def SkipsFrom (v : Visitor σ) (m : σ) (n : Nat) (calls : List Call) : Prop :=
  ∀ earlier b id later, calls = earlier ++ .before b id :: later → n ≤ (visits earlier).length →
    (v.before b id (told v m earlier)).1 = .skip

/-- Then a step takes one thing off the stack, and puts nothing there. -/
theorem run_one_skips (hl : Listed v m s) (hs : s.stack = next :: rest)
    (hskip : SkipsFrom v m n (run (logging v) nulls 1 s).memory.2)
    (hn : n ≤ s.report.visited) :
    (run (logging v) nulls 1 s).stack = rest ∧
      (run (logging v) nulls 1 s).report.visited ≤ s.report.visited + pendingSlots [next] := by
  obtain ⟨calls, h⟩ := run_one_moves v nulls hs
  have hvisited : (run (logging v) nulls 1 s).report.visited =
      s.report.visited + (visits calls).length := h.visited
  have hlist : (run (logging v) nulls 1 s).memory.2 = s.memory.2 ++ calls :=
    congrArg Prod.snd h.memory
  rcases h.exit with ⟨hnone, hstack⟩ | ⟨b, id, later, rfl, hlater, hslot, hstack⟩
  · rw [hvisited, hnone]
    exact ⟨hstack, Nat.le_add_right _ _⟩
  · have hanswer := hskip s.memory.2 b id later hlist (hl.visited ▸ hn)
    rw [← hl.memory] at hanswer
    rw [hvisited, visits_before, hlater, pendingSlots, List.countP_singleton, if_pos hslot]
    exact ⟨hstack hanswer, Nat.le_refl _⟩

/-- **Once the visitor has ceased to descend, the stack is worked off**, and a visit is made at most
for each slot that is taken from it. -/
theorem run_worksOff (hl : Listed v m s)
    (hskip : ∀ k, SkipsFrom v m n (run (logging v) nulls k s).memory.2)
    (hn : n ≤ s.report.visited) (k : Nat) :
    (run (logging v) nulls k s).stack = s.stack.drop k ∧
      s.report.visited ≤ (run (logging v) nulls k s).report.visited ∧
      (run (logging v) nulls k s).report.visited ≤
        s.report.visited + pendingSlots (s.stack.take k) := by
  induction k with
  | zero => exact ⟨rfl, Nat.le_refl _, Nat.le_refl _⟩
  | succ k ih =>
    obtain ⟨hstack, hfrom, hto⟩ := ih
    have hnext := hskip (k + 1)
    rw [run_add] at hnext ⊢
    cases hs : (run (logging v) nulls k s).stack with
    | nil =>
      rw [hs] at hstack
      have hlength := List.drop_eq_nil_iff.mp hstack.symm
      rw [run_of_stack_nil hs, hs, List.drop_of_length_le (Nat.le_succ_of_le hlength),
        List.take_of_length_le (Nat.le_succ_of_le hlength), ← List.take_of_length_le hlength]
      exact ⟨rfl, hfrom, hto⟩
    | cons next rest =>
      rw [hs] at hstack
      obtain ⟨hrest, hvisit⟩ := run_one_skips (hl.run nulls k) hs hnext (Nat.le_trans hn hfrom)
      obtain ⟨calls, hmoves⟩ := run_one_moves v nulls hs
      have hmore : (run (logging v) nulls k s).report.visited ≤
          (run (logging v) nulls 1 (run (logging v) nulls k s)).report.visited :=
        hmoves.visited ▸ Nat.le_add_right _ _
      have htake : s.stack.take (k + 1) = s.stack.take k ++ [next] := by
        rw [List.take_add_one, ← List.head?_drop, ← hstack]
        rfl
      refine ⟨?_, Nat.le_trans hfrom hmore, ?_⟩
      · rw [hrest, ← List.tail_drop, ← hstack]
        rfl
      · have hpending : pendingSlots (s.stack.take k ++ [next]) =
            pendingSlots (s.stack.take k) + pendingSlots [next] := List.countP_append
        rw [htake, hpending, ← Nat.add_assoc]
        exact Nat.le_trans hvisit (Nat.add_le_add_right hto _)

/-- A walk makes another visit, or it ends. -/
theorem exists_visit (v : Visitor σ) (nulls : Bool) (stack : List Pending)
    (s : State (σ × List Call)) (hs : s.stack = stack) :
    ∃ k, (run (logging v) nulls k s).stack = [] ∨
      s.report.visited < (run (logging v) nulls k s).report.visited := by
  induction stack generalizing s with
  | nil => exact ⟨0, .inl hs⟩
  | cons next rest ih =>
    obtain ⟨calls, h⟩ := run_one_moves v nulls hs
    have hvisited : (run (logging v) nulls 1 s).report.visited =
      s.report.visited + (visits calls).length := h.visited
    rcases h.exit with ⟨hnone, hstack⟩ | ⟨b, id, later, rfl, -, -, -⟩
    · obtain ⟨k, hk⟩ := ih _ hstack
      rw [hvisited, hnone, List.length_nil, Nat.add_zero] at hk
      refine ⟨1 + k, ?_⟩
      rw [run_add]
      exact hk
    · refine ⟨1, .inr ?_⟩
      rw [hvisited, visits_before, List.length_cons]
      omega

/-- A walk makes any number of visits, or it ends before. -/
theorem exists_visits (v : Visitor σ) (nulls : Bool) (n : Nat) (s : State (σ × List Call)) :
    ∃ k, (run (logging v) nulls k s).stack = [] ∨
      n ≤ (run (logging v) nulls k s).report.visited := by
  induction n with
  | zero => exact ⟨0, .inr (Nat.zero_le _)⟩
  | succ n ih =>
    obtain ⟨k, hend | hn⟩ := ih
    · exact ⟨k, .inl hend⟩
    · obtain ⟨j, hj⟩ := exists_visit v nulls _ (run (logging v) nulls k s) rfl
      rw [← run_add] at hj
      exact ⟨k + j, hj.imp id fun hlt => Nat.lt_of_le_of_lt hn hlt⟩

/-- So it ends, if the visitor ceases to descend. -/
theorem exists_end (hl : Listed v m s)
    (hskip : ∀ k, SkipsFrom v m n (run (logging v) nulls k s).memory.2) :
    ∃ k, (run (logging v) nulls k s).stack = [] := by
  obtain ⟨k, hend | hn⟩ := exists_visits v nulls n s
  · exact ⟨k, hend⟩
  · -- there are as many steps left as there are things on the stack
    obtain ⟨hstack, -⟩ := run_worksOff (hl.run nulls k)
      (fun j => (run_add k j s).symm ▸ hskip (k + j)) hn (run (logging v) nulls k s).stack.length
    rw [List.drop_length, ← run_add] at hstack
    exact ⟨_, hstack⟩

/-- At any time after that there are at most as many visits yet as slots are pending. -/
theorem visited_le (hl : Listed v m s)
    (hskip : ∀ k, SkipsFrom v m n (run (logging v) nulls k s).memory.2) (k more : Nat)
    (hn : n ≤ (run (logging v) nulls k s).report.visited) :
    (run (logging v) nulls (k + more) s).report.visited ≤
      (run (logging v) nulls k s).report.visited +
        pendingSlots (run (logging v) nulls k s).stack := by
  obtain ⟨-, -, hto⟩ := run_worksOff (hl.run nulls k)
    (fun j => (run_add k j s).symm ▸ hskip (k + j)) hn more
  rw [run_add]
  refine Nat.le_trans hto (Nat.add_le_add_left ?_ _)
  exact (List.take_sublist _ _).countP_le

end Runs

/-- At the beginning nothing is listed. -/
theorem listed_start (a : Arena) (v : Visitor σ) (root : NodeId) (m : σ) :
    Listed v m (.start a root (m, [])) := ⟨rfl, rfl⟩

/-- Where the traversal ends, its calls begin with those of any number of steps. -/
theorem Traverses.calls_prefix {calls : List Call} {u : Scene σ}
    (ht : Traverses v nulls none [some root] (.start a m) calls u) (steps : Nat) :
    (a.walk (Walk.logging v) nulls steps root (m, [])).memory.2 <+: calls := by
  have hc : (a.walk v nulls (steps + (1 + effort calls)) root m).complete :=
    complete_of_traverses ht (Nat.le_add_left _ _)
  have hprefix := list_prefix_run v nulls
    (State.run (Walk.logging v) nulls steps (.start a root (m, []))) (1 + effort calls)
  rw [← run_add] at hprefix
  have hcalls : (a.walk (Walk.logging v) nulls (steps + (1 + effort calls)) root
      (m, [])).memory.2 = calls := congrArg Prod.snd (logged_of_traverses hc ht)
  rw [← hcalls]
  exact hprefix

end Walk

open Walk

/-- **Walks end.** A walk over something that does not contain itself ends, whoever is the visitor.
Any walk ends if the visitor declines to descend from some visit on; and when as many visits have
been made, at most the slots that are pending on the stack at this moment are visited yet. -/
theorem Arena.walk_ends {σ : Type} (a : Arena) (v : Visitor σ) (nulls : Bool) (root : NodeId)
    (m : σ) :
    (a.AcyclicFrom root → ∃ steps, (a.walk v nulls steps root m).complete) ∧
    ∀ n, (∀ steps, SkipsFrom v m n (a.walk (logging v) nulls steps root (m, [])).memory.2) →
      (∃ steps, (a.walk v nulls steps root m).complete) ∧
      ∀ steps more,
        let s := State.run v nulls steps (.start a root m)
        n ≤ s.report.visited →
          (State.run v nulls (steps + more) (.start a root m)).report.visited ≤
            s.report.visited + pendingSlots s.stack := by
  refine ⟨fun h => ?_, fun n hskip => ?_⟩
  · obtain ⟨calls, u, ht⟩ := exists_traversal h v nulls m
    exact ⟨_, complete_of_traverses ht (Nat.le_refl _)⟩
  · have hlisted := listed_start a v root m
    have hrun (k : Nat) : forget (State.run (logging v) nulls k (.start a root (m, []))) =
        State.run v nulls k (.start a root m) := run_logging k _
    constructor
    · obtain ⟨k, hk⟩ := exists_end hlisted hskip
      refine ⟨k, List.isEmpty_iff.mpr ?_⟩
      rw [← hrun]
      exact hk
    · intro steps more s hn
      have hs : s = forget (State.run (logging v) nulls steps (.start a root (m, []))) :=
        (hrun steps).symm
      rw [hs] at hn ⊢
      rw [← hrun]
      exact visited_le hlisted hskip steps more hn

/-- A condition that holds the same node in two places. -/
def twiceShared : Arena :=
  ⟨#[{ kind := .conditionalExpression, children := [("consequent", .node 1), ("test", .node 1)] },
    { kind := .identifier }]⟩

theorem told_descending (n : Nat) (calls : List Call) :
    told descending n calls = n - (visits calls).length := by
  induction calls generalizing n with
  | nil => rfl
  | cons call calls ih =>
    cases call with
    | before b id =>
      rw [told_cons, ih, visits_before, List.length_cons, Nat.add_comm, ← Nat.sub_sub]
      rfl
    | after b id => exact ih n

theorem skipsFrom_descending (n : Nat) (calls : List Call) :
    SkipsFrom descending n n calls := by
  intro earlier b id later _ hn
  have hnone : told descending n earlier = 0 := by rw [told_descending, Nat.sub_eq_zero_of_le hn]
  rw [hnone]
  rfl

theorem twiceShared_and_ring_end :
    twiceShared.AcyclicFrom 0 ∧
    (∃ steps, (twiceShared.walk wanderer true steps 0 ()).complete) ∧
    (∀ steps, SkipsFrom descending 2 2
      (ring.walk (logging descending) true steps 0 (2, [])).memory.2) ∧
    (∃ steps, (ring.walk descending true steps 0 2).complete) ∧
    ∀ more, (State.run descending true (2 + more) (.start ring 0 2)).report.visited ≤ 3 := by
  have hacyclic : twiceShared.AcyclicFrom 0 :=
    (Arena.walkable_of_rank id (Arena.forall_hasSlot (by decide)) (by decide)).acyclic
  have hskip (steps : Nat) : SkipsFrom descending 2 2
      (ring.walk (logging descending) true steps 0 (2, [])).memory.2 := skipsFrom_descending 2 _
  obtain ⟨hends, hfew⟩ := (Arena.walk_ends ring descending true 0 2).2 2 hskip
  refine ⟨hacyclic, (Arena.walk_ends twiceShared wanderer true 0 ()).1 hacyclic, hskip, hends, ?_⟩
  exact fun more => hfew 2 more (by decide)

end Estree
