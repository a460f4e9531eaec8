import Estree.Proofs.Arena.Nodes
import Estree.Walk

/-!
# Walks side by side

What a walk does depends on the answers of its visitor and on nothing else the visitor does. Two
visitors that answer alike, as long as what they remember is related in some way, are therefore
taken along on the same walk: `walk_lockstep`. The relation is kept by each step of the two walks,
one beside the other.

The trees need not be the same either, as a walk does not look at parents: `walk_congr`.
-/

namespace Estree

variable {σ τ : Type}

/-- As long as what they remember is related by `R`, the two visitors answer alike. -/
structure Visitor.Alike (R : σ → τ → Prop) (v : Visitor σ) (w : Visitor τ) : Prop where
  before : ∀ a id {m m'}, R m m' →
    (v.before a id m).1 = (w.before a id m').1 ∧ R (v.before a id m).2 (w.before a id m').2
  after : ∀ a id {m m'}, R m m' → R (v.after a id m) (w.after a id m')

/-- The same of two visitors who are shown different trees, which are related by `Q`. -/
structure Visitor.AlikeOver (Q : Arena → Arena → Prop) (R : σ → τ → Prop) (v : Visitor σ)
    (w : Visitor τ) : Prop where
  before : ∀ {a b}, Q a b → ∀ id {m m'}, R m m' →
    (v.before a id m).1 = (w.before b id m').1 ∧ R (v.before a id m).2 (w.before b id m').2
  after : ∀ {a b}, Q a b → ∀ id {m m'}, R m m' → R (v.after a id m) (w.after b id m')

/-- Trees that are related by `Q` look the same to a walk, and still do after a step of it. -/
structure Arena.Lookalikes (Q : Arena → Arena → Prop) : Prop where
  size : ∀ {a b}, Q a b → a.size = b.size
  kind : ∀ {a b}, Q a b → ∀ id, a.kind id = b.kind id
  childSlots : ∀ {a b}, Q a b → ∀ id, a.childSlots id = b.childSlots id
  setParent : ∀ {a b}, Q a b → ∀ id parent, Q (a.setParent id parent) (b.setParent id parent)
  push : ∀ {a b}, Q a b → ∀ n, Q (a.push n) (b.push n)

theorem Visitor.Alike.over {R : σ → τ → Prop} {v : Visitor σ} {w : Visitor τ} (h : v.Alike R w) :
    v.AlikeOver Eq R w where
  before := by
    rintro a _ rfl
    exact h.before a
  after := by
    rintro a _ rfl
    exact h.after a

theorem Arena.lookalikes_eq : Arena.Lookalikes Eq where
  size h := congrArg Arena.size h
  kind h id := congrArg (Arena.kind · id) h
  childSlots h id := congrArg (Arena.childSlots · id) h
  setParent h id parent := congrArg (Arena.setParent · id parent) h
  push h n := congrArg (Arena.push · n) h

theorem Arena.lookalikes_alike : Arena.Lookalikes Arena.Alike where
  size h := h.1
  kind h := h.kind
  childSlots h := h.childSlots
  setParent {a _} h id parent :=
    ((Arena.Alike.refl a).setParent id parent).symm.trans (h.setParent id parent)
  push h := h.push

namespace Walk

/-- The two walks are at the same point. -/
structure State.Beside (Q : Arena → Arena → Prop) (R : σ → τ → Prop) (s : State σ) (t : State τ) :
    Prop where
  arena : Q s.arena t.arena
  stack : s.stack = t.stack
  report : s.report = t.report
  memory : R s.memory t.memory

variable {Q : Arena → Arena → Prop} {R : σ → τ → Prop} {v : Visitor σ} {w : Visitor τ}
  {nulls : Bool} {s : State σ} {t : State τ}

theorem visit_beside (hQ : Arena.Lookalikes Q) (hv : v.AlikeOver Q R w) (id : NodeId)
    (h : s.Beside Q R t) : (s.visit v id).Beside Q R (t.visit w id) := by
  obtain ⟨a, stack, report, m⟩ := s
  obtain ⟨b, _, _, m'⟩ := t
  obtain ⟨hab, rfl, rfl, hm⟩ := h
  obtain ⟨hanswer, hm₁⟩ := hv.before hab id hm
  unfold State.visit
  simp only at hab hanswer hm₁ ⊢
  cases hb : v.before a id m with
  | mk answer m₁ =>
  cases hb' : w.before b id m' with
  | mk answer' m₁' =>
  rw [hb, hb'] at hanswer hm₁
  obtain rfl : answer = answer' := hanswer
  cases answer with
  | skip => exact ⟨hab, rfl, rfl, hv.after hab id hm₁⟩
  | descend =>
    simp only [hQ.childSlots hab id, hQ.kind hab id]
    cases b.childSlots id with
    | none => exact ⟨hab, rfl, rfl, hv.after hab id hm₁⟩
    | some slots => exact ⟨hab, rfl, rfl, hm₁⟩

/-- **One step of each walk leaves the two at the same point.** -/
theorem step_beside (hQ : Arena.Lookalikes Q) (hv : v.AlikeOver Q R w) (next : Pending)
    (h : s.Beside Q R t) : (s.step v nulls next).Beside Q R (t.step w nulls next) := by
  obtain ⟨a, stack, report, m⟩ := s
  obtain ⟨b, _, _, m'⟩ := t
  obtain ⟨hab, rfl, rfl, hm⟩ := h
  cases next with
  | root id => exact visit_beside hQ hv id ⟨hQ.setParent hab id none, rfl, rfl, hm⟩
  | leave id => exact ⟨hab, rfl, rfl, hv.after hab id hm⟩
  | slot content owner =>
    cases content with
    | some id => exact visit_beside hQ hv id ⟨hQ.setParent hab id (some owner), rfl, rfl, hm⟩
    | none =>
      cases nulls with
      | false => exact ⟨hab, rfl, rfl, hm⟩
      | true =>
        have hsize : a.size = b.size := hQ.size hab
        simp only [State.step, if_pos, State.visitPlaceholder, hsize]
        exact visit_beside hQ hv _ ⟨hQ.push hab _, rfl, rfl, hm⟩

theorem run_beside (hQ : Arena.Lookalikes Q) (hv : v.AlikeOver Q R w) (nulls : Bool) (n : Nat)
    (h : s.Beside Q R t) : (s.run v nulls n).Beside Q R (t.run w nulls n) := by
  induction n generalizing s t with
  | zero => exact h
  | succ n ih =>
    cases hs : s.stack with
    | nil =>
      simp only [State.run, ← h.stack, hs]
      exact h
    | cons next rest =>
      simp only [State.run, ← h.stack, hs]
      exact ih (step_beside hQ hv next ⟨h.arena, rfl, h.report, h.memory⟩)

/-- **Walks over trees that look the same are alike**, if the visitors answer alike. -/
theorem walk_congr (hQ : Arena.Lookalikes Q) (hv : v.AlikeOver Q R w) {a b : Arena} (h : Q a b)
    (nulls : Bool) (steps : Nat) (root : NodeId) {m : σ} {m' : τ} (hm : R m m') :
    (a.walk v nulls steps root m).report = (b.walk w nulls steps root m').report ∧
    (a.walk v nulls steps root m).complete = (b.walk w nulls steps root m').complete ∧
    R (a.walk v nulls steps root m).memory (b.walk w nulls steps root m').memory := by
  have hrun := run_beside hQ hv nulls steps (s := .start a root m) (t := .start b root m')
    ⟨h, rfl, rfl, hm⟩
  exact ⟨hrun.report, congrArg List.isEmpty hrun.stack, hrun.memory⟩

/-- **Visitors that answer alike are taken along on the same walk.** -/
theorem walk_lockstep (hv : v.Alike R w) (a : Arena) (nulls : Bool) (steps : Nat) (root : NodeId)
    {m : σ} {m' : τ} (h : R m m') :
    (a.walk v nulls steps root m).report = (a.walk w nulls steps root m').report ∧
      R (a.walk v nulls steps root m).memory (a.walk w nulls steps root m').memory := by
  obtain ⟨hreport, -, hmemory⟩ :=
    walk_congr Arena.lookalikes_eq hv.over rfl nulls steps root h
  exact ⟨hreport, hmemory⟩

end Walk

end Estree
