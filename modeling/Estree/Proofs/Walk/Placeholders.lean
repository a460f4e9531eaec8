import Estree.Proofs.Walk.Calls
import Estree.Proofs.Walk.Parents

/-!
# Walks with and without placeholders

With nulls walked, an empty slot is visited as a placeholder, which is appended to the tree while
the walk is under way. For a visitor that takes no notice of placeholders this makes no difference:
it is told of the same nodes in the same order, and in between of placeholders, each of which it
leaves as soon as it has been shown it.

The two walks are compared at the moments when they have the same things to do. An empty slot is
then nothing to one of them, and two steps of the other.

* `Padded`: what a visitor is told with placeholders and what it is told without;
* `Heedless`: visitors whose answers do not depend on placeholders;
* `Abreast`: the two walks are at the same point, which `abreast_step` keeps so;
* `walk_nulls_adds_placeholders`: the walks compared.
-/

namespace Estree

open Relation

namespace Walk

variable {σ : Type}

/-! ### Taking no notice of placeholders -/

/-- A call about a node of `a`, as it is made where there are no placeholders. -/
def Call.real? (a : Arena) : Call → Option Call
  | before b id => if id < a.size then some (.before (b.truncate a.size) id) else none
  | after b id => if id < a.size then some (.after (b.truncate a.size) id) else none

/-- The first calls are the second ones, and in between there are placeholders, each of which is
left as soon as it has been shown. -/
inductive Padded (a : Arena) : List Call → List Call → Prop where
  | nil : Padded a [] []
  | before {calls bare : List Call} {b : Arena} {id : NodeId} (h : Padded a calls bare)
    (hb : a.Grown b) (hid : id < a.size) :
    Padded a (calls ++ [.before b id]) (bare ++ [.before (b.truncate a.size) id])
  | after {calls bare : List Call} {b : Arena} {id : NodeId} (h : Padded a calls bare)
    (hb : a.Grown b) (hid : id < a.size) :
    Padded a (calls ++ [.after b id]) (bare ++ [.after (b.truncate a.size) id])
  | placeholder {calls bare : List Call} {b : Arena} {id : NodeId} (h : Padded a calls bare)
    (hb : a.Grown b) (hid : a.size ≤ id) (hlt : id < b.size) :
    Padded a (calls ++ [.before b id, .after b id]) bare

/-- Whatever placeholders it has been shown, the visitor descends into placeholders, and answers at
a node of `a` as if there were none. -/
structure Heedless (a : Arena) (v : Visitor σ) (m : σ) : Prop where
  real : ∀ {calls bare}, Padded a calls bare → ∀ {b id}, a.Grown b → id < a.size →
    (v.before b id (told v m calls)).1 = (v.before (b.truncate a.size) id (told v m bare)).1
  placeholder : ∀ {calls bare}, Padded a calls bare → ∀ {b id}, a.Grown b → a.size ≤ id →
    id < b.size → (v.before b id (told v m calls)).1 = .descend

/-- On the walk over `a` without placeholders the visitor is shown nodes of `a` only, and not an
index that nothing is stored under. -/
def StaysInside (a : Arena) (v : Visitor σ) (root : NodeId) (m : σ) : Prop :=
  ∀ steps, ∀ id ∈ visits (a.walk (logging v) false steps root (m, [])).memory.2, id < a.size

/-- A placeholder is shown, and left, right below a node with an empty slot, which is recorded as
its parent. -/
def Call.Placed (a : Arena) (path : List NodeId) : Call → Prop
  | before b id => a.size ≤ id → ∃ owner above, path = owner :: above ∧
      none ∈ a.slotsOf owner ∧ b.parent id = some owner
  | after b id => a.size ≤ id → ∃ owner above, path = id :: owner :: above ∧
      none ∈ a.slotsOf owner ∧ b.parent id = some owner

/-- The second calls are the first ones without those about placeholders. -/
theorem Padded.filterMap_eq {a : Arena} {calls bare : List Call} (h : Padded a calls bare) :
    bare = calls.filterMap (Call.real? a) := by
  induction h with
  | nil => rfl
  | before _ _ hid ih => rw [List.filterMap_append, ← ih]; simp [Call.real?, hid]
  | after _ _ hid ih => rw [List.filterMap_append, ← ih]; simp [Call.real?, hid]
  | placeholder _ _ hid _ ih =>
    rw [List.filterMap_append, ← ih]
    simp [Call.real?, Nat.not_lt_of_le hid]

/-! ### What is still to be done -/

/-- What a walk has still to do when these nodes are open: to enter slots of the innermost one, to
leave it, and then the same with the others. -/
inductive Stacked (a : Arena) : List NodeId → List Pending → Prop where
  | nil : Stacked a [] []
  | root (id : NodeId) : Stacked a [] [.root id]
  | leave {path : List NodeId} {stack : List Pending} {id : NodeId} (hid : id < a.size)
    (h : Stacked a path stack) : Stacked a (id :: path) (.leave id :: stack)
  | slot {path : List NodeId} {stack : List Pending} {owner : NodeId} {slot : Option NodeId}
    (hslot : slot ∈ a.slotsOf owner) (h : Stacked a (owner :: path) stack) :
    Stacked a (owner :: path) (.slot slot owner :: stack)

/-- The slots of a node that has been reached come on top. -/
theorem Stacked.descend {a : Arena} {path : List NodeId} {stack : List Pending}
    (h : Stacked a path stack) {id : NodeId} (hid : id < a.size) {slots : List (Option NodeId)}
    (hslots : ∀ s ∈ slots, s ∈ a.slotsOf id) :
    Stacked a (id :: path) (slots.map (.slot · id) ++ .leave id :: stack) := by
  induction slots with
  | nil => exact .leave hid h
  | cons s slots ih =>
    obtain ⟨hs, hrest⟩ := List.forall_mem_cons.mp hslots
    exact .slot hs (ih hrest)

/-! ### Two walks at the same point -/

/-- What two visitors of the same kind have been told, and remember of it, is the same but for
placeholders. -/
structure Heard (a : Arena) (v : Visitor σ) (m : σ) (x y : σ × List Call) : Prop where
  calls : Padded a x.2 y.2
  memory : x.1 = told v m x.2
  memory' : y.1 = told v m y.2
  placed : Along (Call.Placed a) [] x.2

/-- What has happened is the same but for placeholders. -/
structure PaddedReport (r r' : WalkReport) : Prop where
  visited : r.visited = r'.visited + r.synthesized
  synthesized : r'.synthesized = 0
  skipped : r.skipped = r'.skipped
  unknownKinds : r.unknownKinds = r'.unknownKinds

/-- The walk with placeholders and the one without are at the same point. -/
structure Abreast (a : Arena) (v : Visitor σ) (m : σ) (s s' : State (σ × List Call)) : Prop where
  stack : s.stack = s'.stack
  grown : a.Grown s.arena
  arena : s'.arena = s.arena.truncate a.size
  heard : Heard a v m s.memory s'.memory
  stacked : Stacked a (opened [] s.memory.2) s.stack
  report : PaddedReport s.report s'.report

variable {a b : Arena} {v : Visitor σ} {m : σ} {id : NodeId}

namespace Heard

variable {x y : σ × List Call}

/-- Both are shown a node. -/
theorem before (h : Heard a v m x y) (hb : a.Grown b) (hid : id < a.size) :
    Heard a v m ((logging v).before b id x).2 ((logging v).before (b.truncate a.size) id y).2 where
  calls := h.calls.before hb hid
  memory := by
    show (v.before b id x.1).2 = told v m (x.2 ++ [.before b id])
    rw [told_append, ← h.memory]
    rfl
  memory' := by
    show (v.before (b.truncate a.size) id y.1).2 = told v m (y.2 ++ [_])
    rw [told_append, ← h.memory']
    rfl
  placed := by
    refine along_append.mpr ⟨h.placed, fun hle => ?_, trivial⟩
    exact absurd hid (Nat.not_lt_of_le hle)

/-- Both are told that a node is left. -/
theorem after (h : Heard a v m x y) (hb : a.Grown b) (hid : id < a.size) :
    Heard a v m ((logging v).after b id x) ((logging v).after (b.truncate a.size) id y) where
  calls := h.calls.after hb hid
  memory := by
    show v.after b id x.1 = told v m (x.2 ++ [.after b id])
    rw [told_append, ← h.memory]
    rfl
  memory' := by
    show v.after (b.truncate a.size) id y.1 = told v m (y.2 ++ [_])
    rw [told_append, ← h.memory']
    rfl
  placed := by
    refine along_append.mpr ⟨h.placed, fun hle => ?_, trivial⟩
    exact absurd hid (Nat.not_lt_of_le hle)

/-- One of them is told of a placeholder. -/
theorem placeholder (h : Heard a v m x y) (hb : a.Grown b) (hid : a.size ≤ id) (hlt : id < b.size)
    {owner : NodeId} {above : List NodeId} (hpath : opened [] x.2 = owner :: above)
    (hslot : none ∈ a.slotsOf owner) (hparent : b.parent id = some owner) :
    Heard a v m ((logging v).after b id ((logging v).before b id x).2) y where
  calls := by
    have hcalls := h.calls.placeholder hb hid hlt
    rw [List.append_cons] at hcalls
    exact hcalls
  memory := by
    show v.after b id (v.before b id x.1).2 = told v m (x.2 ++ [.before b id] ++ [.after b id])
    rw [told_append, told_append, ← h.memory]
    rfl
  memory' := h.memory'
  placed := by
    have hplaced : Along (Call.Placed a) (opened [] x.2) [.before b id, .after b id] := by
      rw [hpath]
      exact ⟨fun _ => ⟨owner, above, rfl, hslot, hparent⟩,
        fun _ => ⟨owner, above, rfl, hslot, hparent⟩, trivial⟩
    have halong := along_append.mpr ⟨h.placed, hplaced⟩
    rw [List.append_cons] at halong
    exact halong

end Heard

/-- Who is shown a node has it in the list. -/
theorem mem_visits_visit (id : NodeId) (s : State (σ × List Call)) :
    id ∈ visits (s.visit (logging v) id).memory.2 := by
  have hlist (later : List Call) :
      id ∈ visits (s.memory.2 ++ [.before s.arena id] ++ later) := by simp
  unfold State.visit
  cases hb : v.before s.arena id s.memory.1 with
  | mk answer m =>
  rw [logging_before hb s.memory.2]
  cases answer with
  | skip => exact hlist [_]
  | descend =>
    simp only
    cases s.arena.childSlots id with
    | none => exact hlist [_]
    | some slots =>
      have hmem := hlist []
      rw [List.append_nil] at hmem
      exact hmem

namespace Abreast

variable {s s' : State (σ × List Call)}

/-- Both visit a node. -/
theorem visit (hv : Heedless a v m) (h : Abreast a v m s s') (hid : id < a.size) :
    Abreast a v m (s.visit (logging v) id) (s'.visit (logging v) id) := by
  obtain ⟨b, stack, report, x⟩ := s
  obtain ⟨_, _, report', y⟩ := s'
  obtain ⟨rfl, hgrown, rfl, hheard, hstacked, hreport⟩ := h
  have hnode : (b.truncate a.size).node id = b.node id := Arena.node_truncate hid
  have hkind : (b.truncate a.size).kind id = b.kind id := congrArg Node.kind hnode
  have hslots : (b.truncate a.size).childSlots id = b.childSlots id :=
    congrArg Node.childSlots hnode
  have hgrown : a.Grown b := hgrown
  have hanswer : ((logging v).before b id x).1 =
      ((logging v).before (b.truncate a.size) id y).1 := by
    have hreal := hv.real hheard.calls hgrown hid
    rw [← hheard.memory, ← hheard.memory'] at hreal
    exact hreal
  have hbefore := hheard.before hgrown hid
  have hopened : opened [] ((logging v).before b id x).2.2 = id :: opened [] x.2 :=
    opened_append x.2 [.before b id]
  unfold State.visit
  simp only at hstacked hreport ⊢
  cases hb : (logging v).before b id x with
  | mk answer x₁ =>
  cases hb' : (logging v).before (b.truncate a.size) id y with
  | mk answer' y₁ =>
  rw [hb] at hopened
  rw [hb, hb'] at hanswer hbefore
  obtain rfl : answer = answer' := hanswer
  have hopened : opened [] x₁.2 = id :: opened [] x.2 := hopened
  have hleft : opened [] ((logging v).after b id x₁).2 = opened [] x.2 := by
    have happ : opened [] (x₁.2 ++ [.after b id]) = (opened [] x₁.2).tail := opened_append _ _
    rw [hopened] at happ
    exact happ
  have hvisited : report.visited + 1 = report'.visited + 1 + report.synthesized := by
    rw [hreport.visited]
    omega
  cases answer with
  | skip =>
    refine ⟨rfl, hgrown, rfl, hbefore.after hgrown hid, ?_, ⟨hvisited, hreport.synthesized, ?_,
      hreport.unknownKinds⟩⟩
    · rw [hleft]
      exact hstacked
    · exact congrArg (· + 1) hreport.skipped
  | descend =>
    simp only [hslots, hkind]
    cases hs : b.childSlots id with
    | none =>
      refine ⟨rfl, hgrown, rfl, hbefore.after hgrown hid, ?_, ⟨hvisited, hreport.synthesized,
        hreport.skipped, ?_⟩⟩
      · rw [hleft]
        exact hstacked
      · exact congrArg (Array.push · _) hreport.unknownKinds
    | some slots =>
      refine ⟨rfl, hgrown, rfl, hbefore, ?_, ⟨hvisited, hreport.synthesized, hreport.skipped,
        hreport.unknownKinds⟩⟩
      have hslotsOf : a.slotsOf id = slots := by
        rw [← hgrown.slotsOf, Arena.slotsOf, hs, Option.getD_some]
      show Stacked a (opened [] x₁.2) _
      rw [hopened]
      exact hstacked.descend hid fun s hs => hslotsOf ▸ hs

/-- Both record a parent and visit the node. -/
theorem visitUnder (hv : Heedless a v m) (h : Abreast a v m s s') (parent : Option NodeId)
    (hid : id < a.size) :
    Abreast a v m (s.visitUnder (logging v) parent id) (s'.visitUnder (logging v) parent id) := by
  have hparent : Abreast a v m { s with arena := s.arena.setParent id parent }
      { s' with arena := s'.arena.setParent id parent } := by
    refine { h with grown := h.grown.setParent id parent, arena := ?_ }
    rw [Arena.truncate_setParent, ← h.arena]
  exact visit hv hparent hid

/-- A placeholder is shown, and left at once. -/
theorem visitPlaceholder (hv : Heedless a v m) (h : Abreast a v m s s') {owner : NodeId}
    {path : List NodeId} (hpath : opened [] s.memory.2 = owner :: path)
    (hslot : none ∈ a.slotsOf owner) {rest : List Pending}
    (hstack : s.stack = .slot none owner :: rest) (hrest : Stacked a (owner :: path) rest) :
    Abreast a v m (s.run (logging v) true 2) { s' with stack := rest } := by
  obtain ⟨b, stack, report, x⟩ := s
  obtain ⟨stack', hgrown, harena, hheard, -, hreport⟩ := h
  have hgrown : a.Grown b := hgrown
  have hpath : opened [] x.2 = owner :: path := hpath
  obtain rfl : stack = .slot none owner :: rest := hstack
  have hpush : a.Grown (b.push (.placeholder owner)) := hgrown.push owner
  have hlt : b.size < (b.push (.placeholder owner)).size := by
    rw [Arena.size_push]
    exact Nat.lt_succ_self _
  have hparent : (b.push (.placeholder owner)).parent b.size = some owner := by
    rw [Arena.parent, Arena.node_push_size]
    rfl
  have hslots : (b.push (.placeholder owner)).childSlots b.size = some [] := by
    rw [Arena.childSlots, Arena.node_push_size]
    rfl
  have hdescend : (v.before (b.push (.placeholder owner)) b.size x.1).1 = .descend := by
    rw [hheard.memory]
    exact hv.placeholder hheard.calls hpush hgrown.size hlt
  have hrun : State.run (logging v) true 2 ⟨b, .slot none owner :: rest, report, x⟩ =
      ⟨b.push (.placeholder owner), rest,
        { report with visited := report.visited + 1, synthesized := report.synthesized + 1 },
        (logging v).after (b.push (.placeholder owner)) b.size
          ((logging v).before (b.push (.placeholder owner)) b.size x).2⟩ := by
    have hlogging : (logging v).before (b.push (.placeholder owner)) b.size x =
        (.descend, ((logging v).before (b.push (.placeholder owner)) b.size x).2) :=
      Prod.ext hdescend rfl
    simp only [State.run, State.step, if_pos, State.visitPlaceholder, State.visit]
    rw [hlogging]
    simp only [hslots]
    rfl
  have hheard' := hheard.placeholder hpush hgrown.size hlt hpath hslot hparent
  rw [hrun]
  refine ⟨rfl, hpush, ?_, hheard', ?_, ⟨?_, hreport.synthesized, hreport.skipped,
    hreport.unknownKinds⟩⟩
  · rw [Arena.truncate_push hgrown.size]
    exact harena
  · have hopened : opened [] ((logging v).after (b.push (.placeholder owner)) b.size
        ((logging v).before (b.push (.placeholder owner)) b.size x).2).2 = opened [] x.2 := by
      show opened [] (x.2 ++ [.before _ _] ++ [.after _ _]) = _
      rw [opened_append, opened_append]
      rfl
    rw [hopened, hpath]
    exact hrest
  · have hvisited : report.visited = s'.report.visited + report.synthesized := hreport.visited
    show report.visited + 1 = s'.report.visited + (report.synthesized + 1)
    omega

/-- **One step of the walk without placeholders is one or two steps of the other.** -/
theorem step (hv : Heedless a v m) (h : Abreast a v m s s')
    (hin : ∀ id ∈ visits (s'.run (logging v) false 1).memory.2, id < a.size) :
    ∃ k, 1 ≤ k ∧ Abreast a v m (s.run (logging v) true k) (s'.run (logging v) false 1) := by
  obtain ⟨b, stack, report, x⟩ := s
  obtain ⟨b', _, report', y⟩ := s'
  obtain ⟨rfl, hgrown, harena, hheard, hstacked, hreport⟩ := h
  have hstacked : Stacked a (opened [] x.2) stack := hstacked
  generalize hpath : opened [] x.2 = path at hstacked
  have hpop {rest : List Pending} (hrest : Stacked a path rest) :
      Abreast a v m ⟨b, rest, report, x⟩ ⟨b', rest, report', y⟩ := by
    subst hpath
    exact ⟨rfl, hgrown, harena, hheard, hrest, hreport⟩
  cases hstacked with
  | nil => exact ⟨1, Nat.le_refl 1, hpop .nil⟩
  | root id =>
    have hid := hin id (mem_visits_visit id _)
    exact ⟨1, Nat.le_refl 1, (hpop .nil).visitUnder hv none hid⟩
  | @leave path rest id hid hrest =>
    have hharena : b' = b.truncate a.size := harena
    refine ⟨1, Nat.le_refl 1, rfl, hgrown, harena, ?_, ?_, hreport⟩
    · subst hharena
      exact hheard.after hgrown hid
    · have hleft : opened [] (x.2 ++ [.after b id]) = path := by
        rw [opened_append, hpath]
        rfl
      show Stacked a (opened [] (x.2 ++ [.after b id])) rest
      rw [hleft]
      exact hrest
  | @slot path rest owner slot hslot hrest =>
    cases slot with
    | some id =>
      have hid := hin id (mem_visits_visit id _)
      exact ⟨1, Nat.le_refl 1, (hpop hrest).visitUnder hv (some owner) hid⟩
    | none =>
      refine ⟨2, Nat.le_succ 1, visitPlaceholder hv ?_ hpath hslot rfl hrest⟩
      exact hpop (.slot hslot hrest)

/-- **Whenever a step has been made without placeholders**, there is a moment on the other walk at
which the two are at the same point. -/
theorem run (hv : Heedless a v m) (h : Abreast a v m s s')
    (hin : ∀ n, ∀ id ∈ visits (s'.run (logging v) false n).memory.2, id < a.size) (n : Nat) :
    ∃ k, n ≤ k ∧ Abreast a v m (s.run (logging v) true k) (s'.run (logging v) false n) := by
  induction n with
  | zero => exact ⟨0, Nat.le_refl 0, h⟩
  | succ n ih =>
    obtain ⟨k, hk, hn⟩ := ih
    have hnext := hin (n + 1)
    rw [run_add] at hnext ⊢
    obtain ⟨j, hj, hstep⟩ := hn.step hv hnext
    refine ⟨k + j, by omega, ?_⟩
    rw [run_add]
    exact hstep

end Abreast

/-- At the beginning the two walks are at the same point. -/
theorem abreast_start (a : Arena) (v : Visitor σ) (root : NodeId) (m : σ) :
    Abreast a v m (.start a root (m, [])) (.start a root (m, [])) where
  stack := rfl
  grown := .refl a
  arena := a.truncate_size.symm
  heard := ⟨.nil, rfl, rfl, trivial⟩
  stacked := .root root
  report := ⟨rfl, rfl, rfl, rfl⟩

/-! ### Staying inside -/

/-- The node that is to be visited. -/
def Pending.target? : Pending → Option NodeId
  | .root id => some id
  | .slot content _ => content
  | .leave _ => none

/-- What is still to be visited can be reached from the root, and what has been visited could. -/
structure Reaching (a : Arena) (root : NodeId) (s : State (σ × List Call)) : Prop where
  grown : a.Grown s.arena
  pending : ∀ next ∈ s.stack, ∀ id, next.target? = some id → ReflTransGen a.HasSlot root id
  visited : ∀ id ∈ visits s.memory.2, ReflTransGen a.HasSlot root id

namespace Reaching

variable {root : NodeId} {s : State (σ × List Call)}

theorem visit (h : Reaching a root s) (hid : ReflTransGen a.HasSlot root id) :
    Reaching a root (s.visit (logging v) id) := by
  have hgrown := h.grown
  have hvisited (later : List Call) (hlater : visits later = []) :
      ∀ id' ∈ visits (s.memory.2 ++ [.before s.arena id] ++ later),
        ReflTransGen a.HasSlot root id' := by
    simp only [visits_append, visits_before, visits_nil, hlater, List.append_nil]
    exact List.forall_mem_append.mpr ⟨h.visited, List.forall_mem_singleton.mpr hid⟩
  unfold State.visit
  cases hb : v.before s.arena id s.memory.1 with
  | mk answer m =>
  rw [logging_before hb s.memory.2]
  cases answer with
  | skip => exact ⟨hgrown, h.pending, hvisited [_] rfl⟩
  | descend =>
    simp only
    cases hs : s.arena.childSlots id with
    | none => exact ⟨hgrown, h.pending, hvisited [_] rfl⟩
    | some slots =>
      have hnone := hvisited [] rfl
      rw [List.append_nil] at hnone
      refine ⟨hgrown, ?_, hnone⟩
      refine List.forall_mem_append.mpr ⟨List.forall_mem_map.mpr fun slot hslot id' hid' => ?_,
        List.forall_mem_cons.mpr ⟨fun _ hnot => (nomatch hnot), h.pending⟩⟩
      obtain rfl : slot = some id' := hid'
      refine hid.tail ?_
      rw [Arena.HasSlot, ← hgrown.slotsOf, Arena.slotsOf, hs, Option.getD_some]
      exact hslot

theorem run (h : Reaching a root s) (n : Nat) :
    Reaching a root (s.run (logging v) false n) := by
  induction n generalizing s with
  | zero => exact h
  | succ n ih =>
    cases hs : s.stack with
    | nil =>
      rw [run_of_stack_nil hs]
      exact h
    | cons next rest =>
      rw [run_succ hs]
      have hpending := h.pending
      rw [hs] at hpending
      obtain ⟨htarget, hrest⟩ := List.forall_mem_cons.mp hpending
      have hpop : Reaching a root { s with stack := rest } := ⟨h.grown, hrest, h.visited⟩
      have hunder (parent : Option NodeId) {id : NodeId}
          (hid : ReflTransGen a.HasSlot root id) :
          Reaching a root (State.visitUnder (logging v) parent id { s with stack := rest }) :=
        visit ⟨hpop.grown.setParent id parent, hrest, h.visited⟩ hid
      refine ih ?_
      cases next with
      | root id => exact hunder none (htarget id rfl)
      | leave id =>
        refine ⟨hpop.grown, hrest, ?_⟩
        show ∀ id' ∈ visits (s.memory.2 ++ [.after s.arena id]), _
        simpa using h.visited
      | slot content owner =>
        cases content with
        | some id => exact hunder (some owner) (htarget id rfl)
        | none => exact hpop

end Reaching

/-- A walk stays inside if everything that can be reached from the root is there. -/
theorem staysInside_of_reach {root : NodeId}
    (h : ∀ id, ReflTransGen a.HasSlot root id → id < a.size) (v : Visitor σ) (m : σ) :
    StaysInside a v root m := by
  have hstart : Reaching a root (State.start a root (m, ([] : List Call))) := by
    refine ⟨.refl a, List.forall_mem_singleton.mpr fun id hid => ?_, List.forall_mem_nil _⟩
    obtain rfl := Option.some.inj hid
    exact .refl
  exact fun n id hid => h id ((hstart.run n).visited id hid)

/-! ### The walks compared -/

section Walks

variable {root : NodeId}

/-- The list that a visitor keeps does not change what happens. -/
theorem run_start_logging (nulls : Bool) (n : Nat) :
    forget (State.run (logging v) nulls n (.start a root (m, []))) =
      State.run v nulls n (.start a root m) := run_logging n _

theorem complete_iff_run {nulls : Bool} {n : Nat} :
    (a.walk v nulls n root m).complete ↔
      (State.run (logging v) nulls n (.start a root (m, []))).stack = [] := by
  rw [← complete_logging (v := v) (m := m) []]
  exact List.isEmpty_iff

/-- The walk with placeholders ends if and only if the one without does, and then they are at the
same point. -/
theorem abreast_end (hin : StaysInside a v root m) (hv : Heedless a v m) :
    ((∃ steps, (a.walk v true steps root m).complete) ↔
      ∃ steps, (a.walk v false steps root m).complete) ∧
    ∀ k n, (a.walk v true k root m).complete → (a.walk v false n root m).complete →
      Abreast a v m (State.run (logging v) true k (.start a root (m, [])))
        (State.run (logging v) false n (.start a root (m, []))) := by
  have hrun := (abreast_start a v root m).run hv hin
  constructor
  · simp only [complete_iff_run]
    constructor
    · rintro ⟨k, hk⟩
      obtain ⟨j, hj, h⟩ := hrun k
      obtain ⟨i, rfl⟩ := Nat.exists_eq_add_of_le hj
      refine ⟨k, ?_⟩
      rw [← h.stack, run_add, run_of_stack_nil hk, hk]
    · rintro ⟨n, hn⟩
      obtain ⟨j, -, h⟩ := hrun n
      exact ⟨j, h.stack.trans hn⟩
  · intro k n hk hn
    rw [complete_iff_run] at hk hn
    obtain ⟨j, -, h⟩ := hrun n
    rw [run_eq_of_stack_nil hk (h.stack.trans hn)]
    exact h

theorem walk_eq_run (nulls : Bool) (n : Nat) :
    let s := State.run (logging v) nulls n (.start a root (m, []))
    a.walk v nulls n root m = ⟨s.arena.truncate a.size, s.report, s.memory.1, s.stack.isEmpty⟩ := by
  have hrun : forget (State.run (logging v) nulls n (.start a root (m, []))) =
      State.run v nulls n (.start a root m) := run_start_logging nulls n
  unfold Arena.walk
  rw [← hrun]
  rfl

/-- **Walking nulls only adds placeholders.** Take a walk whose visitor takes no notice of
placeholders. It ends with nulls walked if and only if it ends with nulls passed over. Then the
visitor is told the same, but for placeholders: each is shown and left at once, below the innermost
open node, which has an empty slot and is the placeholder's parent. There are as many of them as
there are empty slots in the nodes that the visitor descends into. Otherwise the reports are the
same, and so are the trees in the end. -/
theorem walk_nulls_adds_placeholders (hin : StaysInside a v root m) (hv : Heedless a v m) :
    ((∃ steps, (a.walk v true steps root m).complete) ↔
      ∃ steps, (a.walk v false steps root m).complete) ∧
    ∀ k n, (a.walk v true k root m).complete → (a.walk v false n root m).complete →
      let on := a.walk v true k root m
      let off := a.walk v false n root m
      let onCalls := (a.walk (logging v) true k root (m, [])).memory.2
      let offCalls := (a.walk (logging v) false n root (m, [])).memory.2
      offCalls = onCalls.filterMap (Call.real? a) ∧ Padded a onCalls offCalls ∧
      Along (Call.Placed a) [] onCalls ∧
      on.report.visited = off.report.visited + on.report.synthesized ∧
      off.report.synthesized = 0 ∧
      on.report.synthesized =
        ((descents v m onCalls).map fun p => (p.1.slotsOf p.2).count none).sum ∧
      on.report.skipped = off.report.skipped ∧
      on.report.unknownKinds = off.report.unknownKinds ∧
      on.arena = off.arena := by
  obtain ⟨hends, hend⟩ := abreast_end hin hv
  refine ⟨hends, fun k n hk hn => ?_⟩
  intro on off onCalls offCalls
  have h := hend k n hk hn
  have hsynthesized : on.report.synthesized =
      ((descents v m onCalls).map fun p => (p.1.slotsOf p.2).count none).sum := by
    obtain ⟨calls, u, ht, hwalk⟩ := traverses_of_complete hk
    have hcalls : onCalls = calls := congrArg Prod.snd (logged_of_traverses hk ht)
    obtain ⟨-, -, -, hsynthesized⟩ := ht.report_eq fun hmem => nomatch List.mem_singleton.mp hmem
    have hreport : on.report = u.report := congrArg Walked.report hwalk
    have hnone : [some root].count none = 0 := rfl
    rw [hreport, hcalls, hsynthesized, if_pos rfl, hnone, Nat.zero_add]
    exact Nat.zero_add _
  have hon : on = _ := walk_eq_run true k
  have hoff : off = _ := walk_eq_run false n
  refine ⟨h.heard.calls.filterMap_eq, h.heard.calls, h.heard.placed, ?_, ?_, hsynthesized, ?_, ?_,
    ?_⟩
  · rw [hon, hoff]
    exact h.report.visited
  · rw [hoff]
    exact h.report.synthesized
  · rw [hon, hoff]
    exact h.report.skipped
  · rw [hon, hoff]
    exact h.report.unknownKinds
  · rw [hon, hoff]
    simp only
    rw [h.arena, Arena.truncate_truncate]

end Walks

/-- A visitor that passes placeholders, and descends into as many other nodes as it remembers. -/
def frugal : Visitor Nat where
  before a id n :=
    if (a.node id).synthetic then (.descend, n) else (if n = 0 then .skip else .descend, n - 1)
  after _ _ n := n

theorem frugal_real (hid : id < a.size) (n : Nat) :
    frugal.before (b.truncate a.size) id n = frugal.before b id n := by
  simp only [frugal, Arena.node_truncate hid]

theorem frugal_placeholder (hb : a.Grown b) (hid : a.size ≤ id) (hlt : id < b.size) (n : Nat) :
    frugal.before b id n = (.descend, n) := by
  have hsynthetic : (b.node id).synthetic = true :=
    congrArg Node.synthetic (hb.added id hid hlt)
  simp only [frugal, hsynthetic, if_pos]

theorem told_frugal {calls bare : List Call} (h : Padded a calls bare) (n : Nat) :
    told frugal n calls = told frugal n bare := by
  induction h with
  | nil => rfl
  | before _ _ hid ih =>
    rw [told_append, told_append, ih, told_cons, told_cons, tell_before, tell_before,
      frugal_real hid]
  | after _ _ _ ih =>
    rw [told_append, told_append, ih]
    rfl
  | placeholder _ hb hid hlt ih =>
    rw [told_append, ih, told_cons, tell_before, frugal_placeholder hb hid hlt]
    rfl

theorem heedless_frugal (a : Arena) (n : Nat) : Heedless a frugal n where
  real h _ _ _ hid := by rw [told_frugal h, frugal_real hid]
  placeholder _ _ _ hb hid hlt := by rw [frugal_placeholder hb hid hlt]

/-- A call of a function with nothing, with itself and with nothing. -/
def gappedCall : Arena :=
  ⟨#[{ kind := .callExpression,
       children := [("arguments", .list [none, some 1, none]), ("callee", .node 1)] },
    { kind := .functionExpression }]⟩

theorem gappedCall_adds_placeholders :
    StaysInside gappedCall frugal 0 2 ∧ Heedless gappedCall frugal 2 ∧
    (gappedCall.walk frugal true 40 0 2).complete ∧
    (gappedCall.walk frugal false 40 0 2).complete ∧
    (gappedCall.walk frugal true 40 0 2).report = ⟨8, 1, 5, #[]⟩ ∧
    (gappedCall.walk frugal true 40 0 2).report.visited =
      (gappedCall.walk frugal false 40 0 2).report.visited + 5 := by
  have hslots : ∀ p id, gappedCall.HasSlot p id → id < gappedCall.size :=
    Arena.forall_hasSlot (by decide)
  have hin : StaysInside gappedCall frugal 0 2 := by
    refine staysInside_of_reach (fun id hid => ?_) frugal 2
    cases hid with
    | refl => decide
    | tail _ hlast => exact hslots _ id hlast
  have hv := heedless_frugal gappedCall 2
  have hon : (gappedCall.walk frugal true 40 0 2).complete := by decide
  have hoff : (gappedCall.walk frugal false 40 0 2).complete := by decide
  have hreport : (gappedCall.walk frugal true 40 0 2).report = ⟨8, 1, 5, #[]⟩ := by decide
  obtain ⟨-, -, -, hvisited, -⟩ := (walk_nulls_adds_placeholders hin hv).2 40 40 hon hoff
  refine ⟨hin, hv, hon, hoff, hreport, hvisited.trans ?_⟩
  rw [hreport]

end Walk

end Estree
