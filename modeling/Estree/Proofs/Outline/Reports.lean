import Estree.Proofs.Outline.Quiet
import Estree.Proofs.Walk.Calls
import Estree.Proofs.Walk.Coverage

/-!
# Reports on outlines

An outline tells a receiver how much work there is, ticks as it goes along, and says when it is
over. What it tells can be put down beside it: `Receiver.noting` is a receiver with a list of what
it has been told, and nobody notices the list.

The list can be read off the outline. The total is the size of the arena and comes first, and there
is one tick for each entry that does not stand for an absent child. These are two counts of
different things, one of what is stored and one of what happens on a walk. On a tree they fit, since
a walk reaches a node once at most.

* `Arena.outline_reports`: what is reported, by the entries;
* `Outline.work_told_le`: the entries that are work, by what a visitor is shown;
* `Arena.IsTree.work_le`: on a tree there are no more of them than nodes.
-/

namespace Estree

open Progress (Quantity Receiver Report)

/-! ### Noting reports -/

namespace Progress.Receiver

variable {α σ : Type}

/-- The receiver `r`, with a list of the reports it has been given. -/
def noting (r : Receiver α σ) : Receiver α (σ × List (Report α)) where
  receive report s := (r.receive report s.1, s.2 ++ [report])
  isCanceled s := r.isCanceled s.1

@[simp] theorem noting_receive (r : Receiver α σ) (report : Report α) (s : σ × List (Report α)) :
    r.noting.receive report s = (r.receive report s.1, s.2 ++ [report]) := rfl

/-- The state after some reports. -/
def receiveAll (r : Receiver α σ) (reports : List (Report α)) (s : σ) : σ :=
  reports.foldl (fun s report => r.receive report s) s

@[simp] theorem receiveAll_nil (r : Receiver α σ) (s : σ) : r.receiveAll [] s = s := rfl

@[simp] theorem receiveAll_cons (r : Receiver α σ) (report : Report α) (reports : List (Report α))
    (s : σ) : r.receiveAll (report :: reports) s = r.receiveAll reports (r.receive report s) := rfl

@[simp] theorem receiveAll_append (r : Receiver α σ) (reports later : List (Report α)) (s : σ) :
    r.receiveAll (reports ++ later) s = r.receiveAll later (r.receiveAll reports s) := by
  simp [receiveAll]

end Progress.Receiver

namespace Outline

variable {α σ : Type} [Quantity α]

/-- How many entries are counted as work: those that do not stand for absent children. -/
def work (entries : List Entry) : Nat := entries.countP fun e => !e.synthetic

/-- What is reported on an outline with these entries, given the size of the arena. -/
def reports (size : Nat) (entries : List Entry) : List (Report α) :=
  .total (Quantity.ofNat size) :: (List.replicate (work entries) .tick ++ [.done])

@[simp] theorem work_nil : work [] = 0 := rfl

@[simp] theorem work_append (entries later : List Entry) :
    work (entries ++ later) = work entries + work later :=
  List.countP_append

@[simp] theorem work_singleton (e : Entry) : work [e] = if e.synthetic then 0 else 1 := by
  cases h : e.synthetic <;> simp [work, h]

/-- A node that is reached is recorded, or it is not as the walk has been stopped. -/
theorem visitor_cases (s : Settings) (r : Receiver α σ) (a : Arena) (id : NodeId) (d : Draft σ) :
    ((visitor s r).before a id d).2.entries = d.entries ∧
      ((visitor s r).before a id d).2.progress = d.progress ∨
    ∃ hidden, ((visitor s r).before a id d).2.entries =
        d.entries.push (entryOf a id (countDown d.frames) hidden) ∧
      ((visitor s r).before a id d).2.progress =
        (d.record r (entryOf a id (countDown d.frames) hidden)).progress := by
  simp only [visitor]
  split
  · exact .inl ⟨rfl, rfl⟩
  · split
    · exact .inr ⟨_, rfl, rfl⟩
    · exact .inr ⟨_, rfl, rfl⟩

/-- A draft whose receiver notes reports, and one whose receiver does not. The notes are the total,
which was `total`, and a tick for each entry that is work. -/
structure Draft.Noted (r : Receiver α σ) (total : α) (progress : σ)
    (d : Draft (σ × List (Report α))) (d' : Draft σ) : Prop where
  frames : d.frames = d'.frames
  entries : d.entries = d'.entries
  canceled : d.canceled = d'.canceled
  state : d.progress.1 = d'.progress
  notes : d.progress.2 = .total total :: List.replicate (work d.entries.toList) .tick
  taken : d'.progress = r.receiveAll d.progress.2 progress

variable {r : Receiver α σ} {total : α} {progress : σ} {d : Draft (σ × List (Report α))}
  {d' : Draft σ}

theorem Draft.Noted.record (h : d.Noted r total progress d') (e : Entry) :
    (d.record r.noting e).Noted r total progress (d'.record r e) where
  frames := h.frames
  entries := by simp [Draft.record, h.entries]
  canceled := h.canceled
  state := by
    cases he : e.synthetic <;> simp [Draft.record, he, h.state]
  notes := by
    cases he : e.synthetic
    · simp [Draft.record, he, h.notes, List.replicate_succ']
    · simp [Draft.record, he, h.notes]
  taken := by
    cases he : e.synthetic
    · simp [Draft.record, he, h.taken]
    · simp [Draft.record, he, h.taken]

theorem Draft.Noted.enter (h : d.Noted r total progress d') (frames : List Frame)
    (remaining : Nat) :
    (d.enter frames remaining).Noted r total progress (d'.enter frames remaining) :=
  { h with frames := rfl }

/-- Taking notes does not change the answers. -/
theorem alike_noting (s : Settings) (r : Receiver α σ) (total : α) (progress : σ) :
    Visitor.Alike (Draft.Noted r total progress) (visitor s r.noting) (visitor s r) where
  before a id d d' h := by
    have hcanceled : r.noting.isCanceled d.progress = r.isCanceled d'.progress :=
      congrArg r.isCanceled h.state
    simp only [visitor, h.frames, h.canceled, hcanceled]
    split
    · exact ⟨rfl, { h with frames := rfl, canceled := rfl }⟩
    · split
      · exact ⟨rfl, (h.record _).enter _ _⟩
      · exact ⟨rfl, (h.record _).enter _ _⟩
  after _ _ _ _ h := { h with frames := congrArg List.tail h.frames }

end Outline

namespace Arena

open Outline (Settings Entry work)

variable {α σ : Type} [Quantity α]

/-- **What is reported on an outline**, whoever it is reported to: the size of the arena, then a
tick for every entry that is work, and then that the work is over. -/
theorem outline_reports (a : Arena) (s : Settings) (r : Receiver α σ) (steps : Nat) (root : NodeId)
    (progress : σ) :
    let noted := a.outline s r.noting steps root (progress, [])
    let o := a.outline s r steps root progress
    noted.outline = o.outline ∧ noted.complete = o.complete ∧ noted.progress.1 = o.progress ∧
    noted.progress.2 = Outline.reports a.size o.outline.entries.toList ∧
    o.progress = r.receiveAll noted.progress.2 progress := by
  have hstart : Outline.Draft.Noted r (Quantity.ofNat a.size) progress
      ⟨[], #[], false, r.noting.receive (.total (Quantity.ofNat a.size)) (progress, [])⟩
      ⟨[], #[], false, r.receive (.total (Quantity.ofNat a.size)) progress⟩ :=
    ⟨rfl, rfl, rfl, rfl, rfl, rfl⟩
  obtain ⟨hreport, hcomplete, hmemory⟩ := Walk.walk_congr lookalikes_eq
    (Outline.alike_noting s r (Quantity.ofNat a.size) progress).over (Eq.refl a) s.nulls steps root
    hstart
  simp only [outline]
  generalize a.walk (Outline.visitor s r.noting) s.nulls steps root _ = w at *
  generalize a.walk (Outline.visitor s r) s.nulls steps root _ = w' at *
  refine ⟨?_, hcomplete, ?_, ?_, ?_⟩
  · rw [hreport, hmemory.entries, hmemory.canceled]
  · simp [hmemory.state]
  · simp [hmemory.notes, hmemory.entries, Outline.reports]
  · simp [hmemory.taken]

end Arena

/-! ### No more work than there are nodes -/

namespace Outline

open Walk (Call Traverses told shown visits)

variable {α σ : Type} [Quantity α]

/-- Every entry that is work is about a node that is shown and is no placeholder. -/
theorem work_told_le (s : Settings) (r : Receiver α σ) (calls : List Call) (d : Draft σ) :
    work (told (visitor s r) d calls).entries.toList ≤
      work d.entries.toList + (shown calls).countP fun p => !(p.1.node p.2).synthetic := by
  induction calls generalizing d with
  | nil => simp
  | cons call calls ih =>
    cases call with
    | after a id => exact ih _
    | before a id =>
      have hrest := ih ((visitor s r).before a id d).2
      have hone : work ((visitor s r).before a id d).2.entries.toList ≤
          work d.entries.toList + if (a.node id).synthetic then 0 else 1 := by
        rcases visitor_cases s r a id d with ⟨hsame, -⟩ | ⟨hidden, hpush, -⟩
        · simp [hsame]
        · simp [hpush, entryOf]
      rw [Walk.told_cons, Walk.tell_before, Walk.shown_before, List.countP_cons]
      cases hsyn : (a.node id).synthetic <;> simp [hsyn] at hone ⊢ <;> omega

end Outline

namespace Arena

open Walk (Scene Traverses shown visits)
open Outline (Settings Entry work)

variable {α σ : Type} [Quantity α] {a : Arena}

/-- What is shown on a walk and is no placeholder is a node of the arena. -/
theorem IsTree.countP_shown_le (h : a.IsTree) {τ : Type} {v : Visitor τ} {nulls : Bool}
    {t u : Scene τ} {calls : List Walk.Call}
    (ht : Traverses v nulls none [some root] t calls u) (hg : a.Grown t.arena) :
    (shown calls).countP (fun p => !(p.1.node p.2).synthetic) ≤ a.size := by
  have hlt := ht.lt_of_shown (fun p id hs => (h.lt_of_hasSlot p id hs).2) hg
    (by simpa using h.root_lt)
  have hreal : ∀ p ∈ shown calls, (!(p.1.node p.2).synthetic) = true → p.2 < a.size := by
    intro p hp hsyn
    obtain ⟨hgrown, -⟩ := Walk.grown_of_shown (ht.grown hg).2 hp
    by_contra hle
    have hnode := hgrown.synthetic_placeholder (Nat.le_of_not_lt hle) (hlt p hp)
    simp [hnode] at hsyn
  have hvisits : (shown calls).map Prod.snd = visits calls := Walk.map_shown calls
  calc (shown calls).countP (fun p => !(p.1.node p.2).synthetic)
      ≤ (shown calls).countP (fun p => p.2 < a.size) := by
        apply List.countP_mono_left
        simpa using hreal
    _ = (realVisits a calls).length := by
        rw [realVisits, ← hvisits, ← List.countP_eq_length_filter, List.countP_map]
        rfl
    _ ≤ a.size := by simpa using (h.subperm_realVisits ht hg).length_le

/-- **On a tree, no more work is reported than there are nodes**, whatever is shown and whenever the
outline is stopped. -/
theorem IsTree.work_le (h : a.IsTree) (s : Settings) (r : Receiver α σ) (progress : σ) {steps : Nat}
    (hsteps : a.walkSteps ≤ steps) :
    (a.outline s r steps root progress).complete ∧
    work (a.outline s r steps root progress).outline.entries.toList ≤ a.size := by
  have hc : (a.outline s r steps root progress).complete :=
    h.complete_of_le (Outline.visitor s r) s.nulls (Outline.blank r a progress) hsteps
  obtain ⟨calls, u, ht, -⟩ := Walk.traverses_of_complete hc
  refine ⟨hc, ?_⟩
  rw [outline_of_traverses hc ht, ht.memory_eq]
  have htold := Outline.work_told_le s r calls (Outline.blank r a progress)
  have hshown := h.countP_shown_le ht (.refl a)
  simp [Scene.start, Outline.blank] at htold ⊢
  omega

end Arena

end Estree
