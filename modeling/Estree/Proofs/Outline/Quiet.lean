import Estree.Proofs.Outline.Listing
import Estree.Proofs.Walk.Lockstep

/-!
# Outlines and what they are reported to

Whatever an outline is reported to gets a say in one thing only: it may ask to stop.

* `Arena.outline_quiet`: if it never asks, the outline is the one that is reported to nobody;
* `Arena.outline_stopped`: if it asks from the start, the outline is empty and says so;
* `Arena.outline_progress`: in any case it gets reports and nothing else.
-/

namespace Estree

open Progress (Quantity Report Receiver)

namespace Outline

variable {α σ β τ : Type} {r : Receiver α σ} {r' : Receiver β τ}

/-- Two drafts with the same lines, of which none has been stopped or ever will be. -/
structure Draft.Quiet (r : Receiver α σ) (r' : Receiver β τ) (d : Draft σ) (d' : Draft τ) :
    Prop where
  frames : d.frames = d'.frames
  entries : d.entries = d'.entries
  canceled : d.canceled = false
  canceled' : d'.canceled = false
  quiet : NeverCancels r d.progress
  quiet' : NeverCancels r' d'.progress

variable [Quantity α] [Quantity β] {d : Draft σ} {d' : Draft τ}

theorem Draft.Quiet.arrive (h : d.Quiet r r' d') (a : Arena) (id : NodeId)
    (hidden remaining : Nat) :
    (Outline.arrive r a id hidden remaining d).Quiet r r'
      (Outline.arrive r' a id hidden remaining d') where
  frames := by
    unfold Outline.arrive Draft.enter
    rw [h.frames]
  entries := by
    unfold Outline.arrive Draft.enter Draft.record
    rw [h.frames, h.entries]
  canceled := h.canceled
  canceled' := h.canceled'
  quiet := h.quiet.record _
  quiet' := h.quiet'.record _

theorem alike_visitor (s : Settings) (r : Receiver α σ) (r' : Receiver β τ) :
    Visitor.Alike (Draft.Quiet r r') (visitor s r) (visitor s r') where
  before a id d d' h := by
    rw [visitor_before h.canceled h.quiet, visitor_before h.canceled' h.quiet', ← h.frames]
    split
    · exact ⟨rfl, h.arrive a id _ 0⟩
    · exact ⟨rfl, h.arrive a id 0 _⟩
  after _ _ _ _ h :=
    { h with frames := congrArg List.tail h.frames }

/-- The draft has a progress with property `P`. -/
theorem alike_progress {P : σ → Prop} (hP : ∀ report progress, P progress →
    P (r.receive report progress)) (s : Settings) :
    Visitor.Alike (fun d d' : Draft σ => d = d' ∧ P d.progress) (visitor s r) (visitor s r) where
  before a id d d' := by
    rintro ⟨rfl, h⟩
    refine ⟨rfl, rfl, ?_⟩
    have hrecord (e : Entry) : P (d.record r e).progress := by
      unfold Draft.record
      split
      · exact h
      · exact hP _ _ h
    simp only [visitor]
    split
    · exact h
    · split <;> exact hrecord _
  after a id d d' := by
    rintro ⟨rfl, h⟩
    exact ⟨rfl, h⟩

end Outline

section Traversal

open Outline

variable {α σ : Type} [Quantity α] {a : Arena} {s : Settings} {r : Receiver α σ} {steps : Nat}
  {root : NodeId} {progress : σ}

/-- The draft that an outline begins with. -/
def Outline.blank (r : Receiver α σ) (a : Arena) (progress : σ) : Draft σ :=
  ⟨[], #[], false, r.receive (.total (Quantity.ofNat a.size)) progress⟩

/-- An outline that is over is what a traversal leads to. -/
theorem outline_of_traverses {calls : List Walk.Call} {u : Walk.Scene (Draft σ)}
    (hc : (a.outline s r steps root progress).complete)
    (h : Walk.Traverses (visitor s r) s.nulls none [some root] (.start a (blank r a progress)) calls
      u) :
    (a.outline s r steps root progress).outline =
      ⟨u.memory.entries, u.report, u.memory.canceled⟩ := by
  have hw := Walk.walk_of_traverses hc h
  simp only [Arena.outline, hw]
  rfl

end Traversal

namespace Arena

open Outline (NeverCancels Settings Draft)

variable {α σ β τ : Type} [Quantity α] [Quantity β] {r : Receiver α σ} {progress : σ}
  (a : Arena) (s : Settings) (steps : Nat) (root : NodeId)

/-- **A receiver that never asks to stop has no influence on the outline.** -/
theorem outline_quiet {r' : Receiver β τ} {progress' : τ} (h : NeverCancels r progress)
    (h' : NeverCancels r' progress') :
    (a.outline s r steps root progress).outline =
      (a.outline s r' steps root progress').outline := by
  have hstart : Draft.Quiet r r'
      ⟨[], #[], false, r.receive (.total (Quantity.ofNat a.size)) progress⟩
      ⟨[], #[], false, r'.receive (.total (Quantity.ofNat a.size)) progress'⟩ :=
    ⟨rfl, rfl, rfl, rfl, h.receive _, h'.receive _⟩
  obtain ⟨hreport, hmemory⟩ := Walk.walk_lockstep (Outline.alike_visitor s r r') a s.nulls steps
    root hstart
  unfold outline
  simp only [hreport, hmemory.entries, hmemory.canceled, hmemory.canceled']

/-- What the reports on an outline keep is kept by making it. -/
theorem outline_progress {P : σ → Prop} (hP : ∀ report progress, P progress →
    P (r.receive report progress)) (h : P progress) :
    P (a.outline s r steps root progress).progress := by
  obtain ⟨-, -, hmemory⟩ := Walk.walk_lockstep (Outline.alike_progress hP s) a s.nulls steps root
    (m := ⟨[], #[], false, r.receive (.total (Quantity.ofNat a.size)) progress⟩) ⟨rfl, hP _ _ h⟩
  exact hP _ _ hmemory

/-- **An outline that is stopped before it is begun** has no lines: the root is reached and left. -/
theorem outline_stopped (h : r.isCanceled (r.receive (.total (Quantity.ofNat a.size)) progress))
    (hsteps : 0 < steps) :
    (a.outline s r steps root progress).outline = ⟨#[], { visited := 1, skipped := 1 }, true⟩ := by
  obtain ⟨n, rfl⟩ := Nat.exists_eq_add_of_le' hsteps
  have hrest (m : Nat) (t : Walk.State (Draft σ)) (ht : t.stack = []) :
      t.run (Outline.visitor s r) s.nulls m = t := by
    cases m <;> simp [Walk.State.run, ht]
  have hbefore (b : Arena) : (Outline.visitor s r).before b root
      ⟨[], #[], false, r.receive (.total (Quantity.ofNat a.size)) progress⟩ =
        (.skip, ⟨[⟨0, true, []⟩], #[], true,
          r.receive (.total (Quantity.ofNat a.size)) progress⟩) := by
    simp [Outline.visitor, h, Draft.enter, Outline.childFrame, Outline.countDown,
      Outline.isLastChild]
  simp only [outline, walk, Walk.State.run, Walk.State.start, Walk.State.step,
    Walk.State.visitUnder, Walk.State.visit, hbefore]
  rw [hrest _ _ rfl]
  rfl

end Arena

end Estree
