import Estree.Progress.Recording
import Estree.Proofs.Outline.Agreement
import Estree.Proofs.Outline.Reports

/-!
# Outlines that are stopped

An outline may be stopped at any tick. The visitor descends no further then, but the walk still goes
through all slots of the nodes that are open, makes placeholders for the empty ones, and has each
node that is reached shown to the visitor. None of this adds an entry or alters one: the entries are
a beginning of those of the whole outline.

The two outlines are followed side by side through the traversal of the one that nobody stops. They
are level until the other one is asked to stop, which it notices at the next node; from there on it
is behind, however far the whole one goes below the node.

* `Outline.cut`, `Outline.IsCut`: the beginning that is left;
* `Outline.Follows.step`: what the two do at one node;
* `Outline.traverses_follows`: what they do with some slots;
* `Arena.outline_stopped_isCut`: the entries, the flag and the reports of a stopped outline.
-/

namespace Estree

open Progress (Quantity Receiver Recording Report)
open Walk (Call Scene Traverses told)

namespace Outline

/-! ### Cutting -/

/-- The shortest beginning of some entries with `n` that are work, or all of them if there are
fewer. -/
def cut : Nat → List Entry → List Entry
  | 0, _ => []
  | _ + 1, [] => []
  | n + 1, e :: rest => e :: cut (if e.synthetic then n + 1 else n) rest

@[simp] theorem cut_zero (entries : List Entry) : cut 0 entries = [] := by
  cases entries <;> rfl

@[simp] theorem cut_nil (n : Nat) : cut n [] = [] := by
  cases n <;> rfl

theorem work_cons (e : Entry) (entries : List Entry) :
    work (e :: entries) = (if e.synthetic then 0 else 1) + work entries := by
  rw [← List.singleton_append, work_append, work_singleton]

theorem cut_append (n : Nat) (entries later : List Entry) :
    cut n (entries ++ later) = cut n entries ++ cut (n - work entries) later := by
  induction entries generalizing n with
  | nil => simp
  | cons e entries ih =>
    cases n with
    | zero => simp
    | succ n =>
      rw [List.cons_append, cut, cut, ih, work_cons, List.cons_append]
      cases e.synthetic with
      | true => simp
      | false => simp [Nat.add_comm 1, Nat.add_sub_add_right]

/-- `kept` is the shortest beginning of the entries with `n` that are work, or it is all of them if
there are fewer. -/
structure IsCut (n : Nat) (entries kept : List Entry) : Prop where
  isPrefix : kept <+: entries
  work_eq : work kept = min n (work entries)
  shortest : ∀ other, other <+: entries → n ≤ work other → kept <+: other
  all : work entries < n → kept = entries

theorem isCut_cut (n : Nat) (entries : List Entry) : IsCut n entries (cut n entries) := by
  induction entries generalizing n with
  | nil =>
    refine ⟨by simp, by simp, fun other _ _ => by simp, fun _ => by simp⟩
  | cons e entries ih =>
    cases n with
    | zero =>
      exact ⟨by simp, by simp, fun other _ _ => by simp, fun h => absurd h (Nat.not_lt_zero _)⟩
    | succ n =>
      obtain ⟨hbegins, hwork, hshortest, hall⟩ := ih (if e.synthetic then n + 1 else n)
      rw [cut]
      refine ⟨List.cons_prefix_cons.mpr ⟨rfl, hbegins⟩, ?_, ?_, ?_⟩
      · rw [work_cons, work_cons, hwork]
        cases e.synthetic with
        | true => simp
        | false =>
          simp
          omega
      · intro other hother hn
        cases other with
        | nil => simp at hn
        | cons e' other =>
          obtain ⟨rfl, hrest⟩ := List.cons_prefix_cons.mp hother
          rw [work_cons] at hn
          refine List.cons_prefix_cons.mpr ⟨rfl, hshortest other hrest ?_⟩
          cases hsyn : e'.synthetic <;> simp [hsyn] at hn ⊢ <;> omega
      · intro hlt
        rw [work_cons] at hlt
        rw [hall]
        cases hsyn : e.synthetic <;> simp [hsyn] at hlt ⊢ <;> omega

/-! ### Two outlines, one of which is stopped -/

section Follows

variable {α β σ τ : Type} [Quantity α] [Quantity β] {r₀ : Receiver β τ} {r : Receiver α σ}
  {p : σ} {n : Nat} {d e : Draft τ} {d' : Draft σ}

/-- The state of a receiver after `k` ticks. -/
def ticked (r : Receiver α σ) (p : σ) (k : Nat) : σ := r.receiveAll (List.replicate k .tick) p

theorem ticked_succ (r : Receiver α σ) (p : σ) (k : Nat) :
    ticked r p (k + 1) = r.receive .tick (ticked r p k) := by
  simp [ticked, List.replicate_succ']

/-- From the `n`-th tick on the receiver asks to stop, and not before. -/
def StopsAfter (r : Receiver α σ) (p : σ) (n : Nat) : Prop :=
  ∀ k, r.isCanceled (ticked r p k) = decide (n ≤ k)

/-- The outline that may be stopped has not been; the two are the same so far. -/
structure Draft.Level (r : Receiver α σ) (p : σ) (n : Nat) (d : Draft τ) (d' : Draft σ) : Prop where
  frames : d'.frames = d.frames
  entries : d'.entries = d.entries
  canceled : d'.canceled = false
  progress : d'.progress = ticked r p (work d.entries.toList)
  kept : cut n d.entries.toList = d.entries.toList
  work_le : work d.entries.toList ≤ n

/-- The outline that may be stopped has been, and the other one has gone on. -/
structure Draft.Behind (n : Nat) (d : Draft τ) (d' : Draft σ) : Prop where
  canceled : d'.canceled = true
  entries : d'.entries.toList = cut n d.entries.toList
  work_le : n ≤ work d.entries.toList
  length_lt : d'.entries.size < d.entries.size

/-- Once an outline has been stopped, it makes no difference how far the other one goes. -/
theorem Draft.Behind.mono (h : d.Behind n d') {more : List Entry}
    (hmore : e.entries.toList = d.entries.toList ++ more) : e.Behind n d' where
  canceled := h.canceled
  entries := by
    rw [hmore, cut_append, Nat.sub_eq_zero_of_le h.work_le, cut_zero, List.append_nil, h.entries]
  work_le := by
    rw [hmore, work_append]
    have hle := h.work_le
    omega
  length_lt := by
    have hsize := congrArg List.length hmore
    have hlt := h.length_lt
    simp at hsize
    omega

/-- A visitor that has been asked to stop. -/
def Draft.halt (d : Draft σ) : Draft σ :=
  Draft.enter { d with canceled := true } (countDown d.frames) 0

theorem visitor_halt {s : Settings} (h : d'.canceled = true ∨ r.isCanceled d'.progress = true)
    (a : Arena) (id : NodeId) : (visitor s r).before a id d' = (.skip, d'.halt) := by
  have hstop : (d'.canceled || r.isCanceled d'.progress) = true := by simpa using h
  simp only [visitor, hstop, if_true, Draft.halt]

/-- The outline that is stopped falls behind at the next node. -/
theorem Draft.Level.halt (h : d.Level r p n d') (hn : work d.entries.toList = n) {e₁ : Entry}
    {more : List Entry} (hmore : e.entries.toList = d.entries.toList ++ e₁ :: more) :
    e.Behind n d'.halt.left where
  canceled := rfl
  entries := by
    have hentries : d'.halt.left.entries = d.entries := h.entries
    rw [hentries, hmore, cut_append, hn, Nat.sub_self, cut_zero, List.append_nil, h.kept]
  work_le := by
    rw [hmore, work_append]
    omega
  length_lt := by
    have hentries : d'.halt.left.entries = d.entries := h.entries
    have hsize := congrArg List.length hmore
    rw [hentries]
    simp at hsize
    omega

/-- As long as they are level, both record the same entry. -/
theorem Draft.Level.arrive (h : d.Level r p n d') (hn : work d.entries.toList < n) (a : Arena)
    (id : NodeId) (hidden remaining : Nat) :
    (Outline.arrive r₀ a id hidden remaining d).Level r p n
      (Outline.arrive r a id hidden remaining d') where
  frames := by simp [Outline.arrive, Draft.enter, h.frames]
  entries := by simp [Outline.arrive, Draft.enter, Draft.record, h.frames, h.entries]
  canceled := h.canceled
  progress := by
    cases hsyn : (entryOf a id (countDown d.frames) hidden).synthetic <;>
      simp [Outline.arrive, Draft.enter, Draft.record, h.frames, h.progress, hsyn, ticked_succ]
  kept := by
    obtain ⟨k, hk⟩ : ∃ k, n - work d.entries.toList = k + 1 :=
      Nat.exists_eq_add_of_le' (Nat.sub_pos_of_lt hn)
    simp [Outline.arrive, Draft.enter, Draft.record, cut_append, h.kept, hk, cut]
  work_le := by
    have hle : work [entryOf a id (countDown d.frames) hidden] ≤ 1 := by
      rw [work_singleton]
      split <;> omega
    simp only [Outline.arrive, Draft.enter, Draft.record, Array.toList_push, work_append]
    omega

/-- The two go through the same slots. -/
structure Follows (r₀ : Receiver β τ) (r : Receiver α σ) (p : σ) (n : Nat) (t : Scene (Draft τ))
    (t' : Scene (Draft σ)) : Prop where
  running : t.memory.Running r₀
  drafts : t'.arena = t.arena ∧ t.memory.Level r p n t'.memory ∨ t.memory.Behind n t'.memory

variable {s : Settings} {t t₁ u : Scene (Draft τ)} {t' : Scene (Draft σ)}

theorem Follows.leave (h : Follows r₀ r p n t t') (id id' : NodeId) :
    Follows r₀ r p n (t.leave (visitor s r₀) id) (t'.leave (visitor s r) id') where
  running := h.running.left
  drafts := by
    rcases h.drafts with ⟨harena, hlevel⟩ | hbehind
    · exact .inl ⟨harena, { hlevel with frames := congrArg List.tail hlevel.frames }⟩
    · exact .inr { hbehind with }

omit [Quantity β] in
/-- Either the outline that may be stopped is level and goes on, or it declines to descend and is
behind from the next entry on. -/
theorem Follows.going_or_halting (h : Follows r₀ r p n t t') (hr : StopsAfter r p n)
    (s : Settings) :
    (t'.arena = t.arena ∧ t.memory.Level r p n t'.memory ∧ work t.memory.entries.toList < n) ∨
    ((∀ a id, (visitor s r).before a id t'.memory = (.skip, t'.memory.halt)) ∧
      ∀ (e : Draft τ) (e₁ : Entry) (more : List Entry),
        e.entries.toList = t.memory.entries.toList ++ e₁ :: more →
          e.Behind n t'.memory.halt.left) := by
  rcases h.drafts with ⟨harena, hlevel⟩ | hbehind
  · by_cases hn : work t.memory.entries.toList < n
    · exact .inl ⟨harena, hlevel, hn⟩
    · have hle := hlevel.work_le
      have hstop : r.isCanceled t'.memory.progress = true := by
        rw [hlevel.progress, hr]
        simpa using hn
      exact .inr ⟨visitor_halt (.inr hstop), fun e e₁ more hmore => hlevel.halt (by omega) hmore⟩
  · refine .inr ⟨visitor_halt (.inl hbehind.canceled), fun e e₁ more hmore => ?_⟩
    have hhalt : t.memory.Behind n t'.memory.halt.left := { hbehind with canceled := rfl }
    exact hhalt.mono hmore

/-- An outline that nobody stops records each node it reaches. -/
theorem Draft.Running.records (h : d.Running r₀) (s : Settings) (a : Arena) (id : NodeId) :
    ((visitor s r₀).before a id d).2.Running r₀ ∧
    ∃ e, ((visitor s r₀).before a id d).2.entries.toList = d.entries.toList ++ [e] := by
  rw [visitor_before h.canceled h.quiet]
  split
  · exact ⟨h.arrive a id _ _, _, Array.toList_push⟩
  · exact ⟨h.arrive a id _ _, _, Array.toList_push⟩

/-- It goes on so, and takes no entry back. -/
theorem Draft.Running.told (h : d.Running r₀) (s : Settings) (calls : List Call) :
    (Walk.told (visitor s r₀) d calls).Running r₀ ∧
    ∃ more, (Walk.told (visitor s r₀) d calls).entries.toList = d.entries.toList ++ more := by
  refine Walk.told_keeps (P := fun e : Draft τ => e.Running r₀ ∧
    ∃ more, e.entries.toList = d.entries.toList ++ more) ?_ ?_ ⟨h, [], by simp⟩ calls
  · rintro a id m ⟨hm, more, hmore⟩
    obtain ⟨hrun, e, he⟩ := hm.records s a id
    exact ⟨hrun, more ++ [e], by rw [he, hmore, List.append_assoc]⟩
  · rintro a id m ⟨hm, more, hmore⟩
    exact ⟨hm.left, more, hmore⟩

/-- While they are level, both answer the same and are level after it. -/
theorem Draft.Level.before (h : d.Level r p n d') (hrun : d.Running r₀) (hr : StopsAfter r p n)
    (hn : work d.entries.toList < n) (a : Arena) (id : NodeId) {answer : Visit} {m : Draft τ}
    (hb : (visitor s r₀).before a id d = (answer, m)) :
    ∃ m', (visitor s r).before a id d' = (answer, m') ∧ m.Level r p n m' := by
  have hnow : r.isCanceled d'.progress = false := by
    rw [h.progress, hr]
    simpa using hn
  rw [visitor_before hrun.canceled hrun.quiet] at hb
  rw [visitor_going h.canceled hnow, h.frames]
  split at hb
  · next hhides =>
    obtain ⟨rfl, rfl⟩ := Prod.mk.inj hb
    exact ⟨_, if_pos hhides, h.arrive hn a id _ 0⟩
  · next hshows =>
    obtain ⟨rfl, rfl⟩ := Prod.mk.inj hb
    exact ⟨_, if_neg hshows, h.arrive hn a id 0 _⟩

/-- **One node.** Both reach it and get the same answer, or the one that may be stopped declines to
descend; then it is behind when the other one has left the node, whatever that has been told of
what is below it. -/
theorem Follows.step (hf : Follows r₀ r p n t t') (hr : StopsAfter r p n)
    {parent slot : Option NodeId} {id : NodeId} {answer : Visit} {m : Draft τ}
    (hreach : t.reach s.nulls parent slot = some (id, t₁))
    (hb : (visitor s r₀).before t₁.arena id t₁.memory = (answer, m)) :
    ∃ id' t₁' m', t'.reach s.nulls parent slot = some (id', t₁') ∧
      ((visitor s r).before t₁'.arena id' t₁'.memory = (answer, m') ∧ id' = id ∧
          t₁'.arena = t₁.arena ∧ m.Running r₀ ∧ m.Level r p n m' ∨
        (visitor s r).before t₁'.arena id' t₁'.memory = (.skip, m') ∧
          ∀ inner (w : Scene (Draft τ)), w.memory = (told (visitor s r₀) m inner).left →
            Follows r₀ r p n w ((t₁'.shown m').declined.leave (visitor s r) id')) := by
  obtain ⟨id', t₁', hreach', hmemory', hsame⟩ := Walk.reach_beside hreach t'
  obtain ⟨hmemory, -⟩ := Walk.scene_of_reach hreach
  obtain ⟨hrun, e₁, he₁⟩ := hf.running.records s t₁.arena id
  rw [hmemory] at hb
  rw [hb] at hrun he₁
  rcases hf.going_or_halting hr s with ⟨harena, hlevel, hn⟩ | ⟨hhalt, hbehind⟩
  · obtain ⟨rfl, harena₁⟩ := hsame harena
    obtain ⟨m', hb', hlevel'⟩ := hlevel.before hf.running hr hn t₁.arena id' hb
    rw [← harena₁, ← hmemory'] at hb'
    exact ⟨id', t₁', m', hreach', .inl ⟨hb', rfl, harena₁, hrun, hlevel'⟩⟩
  · refine ⟨id', t₁', _, hreach', .inr ⟨(congrArg _ hmemory').trans (hhalt _ _), ?_⟩⟩
    intro inner w hw
    obtain ⟨hrun', more, hmore⟩ := Draft.Running.told hrun s inner
    refine ⟨hw ▸ hrun'.left, .inr (hbehind _ e₁ more ?_)⟩
    rw [hw]
    show (told (visitor s r₀) m inner).entries.toList = _
    rw [hmore, he₁, List.append_assoc, List.singleton_append]

/-- **The outline that may be stopped goes through the slots that the other one goes through**, and
is level with it or behind at the end. -/
theorem traverses_follows (hr : StopsAfter r p n) {parent : Option NodeId}
    {slots : List (Option NodeId)} {calls : List Call}
    (h : Traverses (visitor s r₀) s.nulls parent slots t calls u) (hf : Follows r₀ r p n t t') :
    ∃ calls' u', Traverses (visitor s r) s.nulls parent slots t' calls' u' ∧
      Follows r₀ r p n u u' := by
  induction h generalizing t' with
  | nil => exact ⟨[], t', .nil, hf⟩
  | hole hreach _ ih =>
    obtain ⟨calls', u', h', hf'⟩ := ih hf
    exact ⟨calls', u', .hole (Walk.reach_none_beside hreach t') h', hf'⟩
  | @skip _ _ _ t t₁ _ _ id m hreach hb _ ih =>
    obtain ⟨id', t₁', m', hreach', ⟨hb', rfl, harena, hrun, hlevel⟩ | ⟨hb', hhalted⟩⟩ :=
      hf.step hr hreach hb
    · have hf₁ : Follows r₀ r p n (t₁.shown m).declined (t₁'.shown m').declined :=
        ⟨hrun, .inl ⟨harena, hlevel⟩⟩
      obtain ⟨calls', u', h', hf'⟩ := ih (hf₁.leave id' id')
      exact ⟨_, u', .skip hreach' hb' h', hf'⟩
    · obtain ⟨calls', u', h', hf'⟩ := ih (hhalted [] _ rfl)
      exact ⟨_, u', .skip hreach' hb' h', hf'⟩
  | @unknown _ _ _ t t₁ _ _ id m hreach hb hs _ ih =>
    obtain ⟨id', t₁', m', hreach', ⟨hb', rfl, harena, hrun, hlevel⟩ | ⟨hb', hhalted⟩⟩ :=
      hf.step hr hreach hb
    · have hf₁ : Follows r₀ r p n ((t₁.shown m).stuckAt id') ((t₁'.shown m').stuckAt id') :=
        ⟨hrun, .inl ⟨harena, hlevel⟩⟩
      obtain ⟨calls', u', h', hf'⟩ := ih (hf₁.leave id' id')
      exact ⟨_, u', .unknown hreach' hb' (harena ▸ hs) h', hf'⟩
    · obtain ⟨calls', u', h', hf'⟩ := ih (hhalted [] _ rfl)
      exact ⟨_, u', .skip hreach' hb' h', hf'⟩
  | @descend _ _ _ slots t t₁ t₂ _ inner _ id m hreach hb hs hinner _ ih₁ ih₂ =>
    obtain ⟨id', t₁', m', hreach', ⟨hb', rfl, harena, hrun, hlevel⟩ | ⟨hb', hhalted⟩⟩ :=
      hf.step hr hreach hb
    · have hf₁ : Follows r₀ r p n (t₁.shown m) (t₁'.shown m') :=
        ⟨hrun, .inl ⟨harena, hlevel⟩⟩
      obtain ⟨inner', t₂', hinner', hf₂⟩ := ih₁ hf₁
      obtain ⟨calls', u', h', hf'⟩ := ih₂ (hf₂.leave id' id')
      exact ⟨_, u', .descend hreach' hb' (harena ▸ hs) hinner' h', hf'⟩
    · -- nothing below the node is reached by the outline that declines to descend
      have hbelow : t₂.memory = told (visitor s r₀) m inner := hinner.memory_eq
      obtain ⟨calls', u', h', hf'⟩ := ih₂ (hhalted inner _ (congrArg Draft.left hbelow))
      exact ⟨_, u', .skip hreach' hb' h', hf'⟩

/-- Before the root is reached, the two are level. -/
theorem follows_start {a : Arena} {p₀ : τ} (hq : NeverCancels r₀ p₀) (p : σ) (n : Nat) :
    Follows r₀ r (r.receive (.total (Quantity.ofNat a.size)) p) n (.start a (blank r₀ a p₀))
      (.start a (blank r a p)) where
  running := blank_running hq
  drafts := .inl ⟨rfl, rfl, rfl, rfl, rfl, cut_nil n, Nat.zero_le n⟩

omit [Quantity β] in
/-- The one that may be stopped has a cut of the other one's entries, and has been stopped if there
are others. -/
theorem Follows.cut_eq (h : Follows r₀ r p n t t') :
    t'.memory.entries.toList = cut n t.memory.entries.toList ∧
    (t'.memory.canceled = true ↔ t'.memory.entries.toList ≠ t.memory.entries.toList) := by
  rcases h.drafts with ⟨-, hlevel⟩ | hbehind
  · constructor
    · rw [hlevel.kept, hlevel.entries]
    · simp [hlevel.canceled, hlevel.entries]
  · refine ⟨hbehind.entries, iff_of_true hbehind.canceled fun heq => ?_⟩
    have hlength := congrArg List.length heq
    have hlt := hbehind.length_lt
    simp at hlength
    omega

end Follows

end Outline

namespace Arena

open Outline

variable {α β σ τ : Type} [Quantity α] [Quantity β] {a : Arena} {s : Settings} {root : NodeId}

/-- **An outline that is stopped is a beginning of the whole one.** If the whole outline ends, so
does one that is asked to stop from the `n`-th tick on. Its entries are the shortest beginning with
`n` entries that are work, or all entries if there are fewer; it says that it was stopped if and
only if there are others; and it ticks once for each of its entries that is work, before it says
once that it is over. An outline that is stopped from the start has no entries. -/
theorem outline_stopped_isCut {r₀ : Receiver β τ} {p₀ : τ} (hq : NeverCancels r₀ p₀) {steps₀ : Nat}
    (hc : (a.outline s r₀ steps₀ root p₀).complete) (r : Receiver α σ) (p : σ) :
    let full := (a.outline s r₀ steps₀ root p₀).outline.entries.toList
    let begun := r.receive (.total (Quantity.ofNat a.size)) p
    (∀ n, StopsAfter r begun n →
      (∃ steps, (a.outline s r steps root p).complete) ∧
      ∀ steps, (a.outline s r steps root p).complete →
        let o := a.outline s r steps root p
        let noted := a.outline s r.noting steps root (p, [])
        IsCut n full o.outline.entries.toList ∧
        (o.outline.canceled = true ↔ o.outline.entries.toList ≠ full) ∧
        noted.outline = o.outline ∧ noted.progress.1 = o.progress ∧
        noted.progress.2 = .total (Quantity.ofNat a.size) ::
          (List.replicate (min n (work full)) .tick ++ [.done])) ∧
    (r.isCanceled begun = true → ∀ steps, 0 < steps →
      (a.outline s r steps root p).outline.entries = #[] ∧
      (a.outline s r steps root p).outline.canceled = true) := by
  intro full begun
  refine ⟨fun n hr => ?_, fun hstop steps hsteps => ?_⟩
  · obtain ⟨calls, u, h, -⟩ := Walk.traverses_of_complete hc
    obtain ⟨calls', u', h', hf⟩ := traverses_follows hr h (follows_start hq p n)
    refine ⟨⟨_, Walk.complete_of_traverses h' (Nat.le_refl _)⟩, fun steps hsteps => ?_⟩
    have hfull : full = u.memory.entries.toList :=
      congrArg (·.entries.toList) (outline_of_traverses hc h)
    have hout := outline_of_traverses hsteps h'
    obtain ⟨hcut, hcanceled⟩ := hf.cut_eq
    have hisCut : IsCut n full u'.memory.entries.toList := by
      rw [hfull, hcut]
      exact isCut_cut n _
    obtain ⟨hnoted, -, hstate, hnotes, -⟩ := a.outline_reports s r steps root p
    dsimp only at hnoted hstate hnotes ⊢
    rw [hnoted, hstate, hnotes, hout, ← hisCut.work_eq, hfull]
    exact ⟨hfull ▸ hisCut, hcanceled, rfl, rfl, rfl⟩
  · have hstopped := a.outline_stopped s steps root hstop hsteps
    rw [hstopped]
    exact ⟨rfl, rfl⟩

end Arena

/-- A recording that is told to ask for a stop does so, from that tick on. -/
theorem Outline.stopsAfter_recording {α : Type} [Quantity α] {p : Recording α} {n : Nat}
    (hc : p.canceled = false) (ht : p.ticks = 0) (hn : p.cancelAfter = some n) (hpos : 0 < n) :
    StopsAfter Recording.receiver p n := by
  have hticked (k : Nat) : (ticked Recording.receiver p k).ticks = k ∧
      (ticked Recording.receiver p k).cancelAfter = some n ∧
      (ticked Recording.receiver p k).canceled = decide (n ≤ k) := by
    induction k with
    | zero => exact ⟨ht, hn, hc.trans (decide_eq_false (Nat.not_le_of_lt hpos)).symm⟩
    | succ k ih =>
      obtain ⟨hticks, hafter, hcanceled⟩ := ih
      rw [ticked_succ]
      simp [Recording.receiver, Recording.receive, Report.tick] at hticks hafter hcanceled ⊢
      simp [hticks, hafter, hcanceled]
      omega
  exact fun k => (hticked k).2.2

open Outline in
/-- A recording that asks for a stop after two ticks. -/
def impatient : Recording Float := { cancelAfter := some 2 }

open Outline in
theorem sampleProgram_isCut :
    NeverCancels silent () ∧ (sampleProgram.outline { nulls := true } silent 20 0 ()).complete ∧
    (sampleProgram.outline { nulls := true } Recording.receiver 20 0 impatient).complete ∧
    IsCut 2 (sampleProgram.outline { nulls := true } silent 20 0 ()).outline.entries.toList
      (sampleProgram.outline { nulls := true } Recording.receiver 20 0
        impatient).outline.entries.toList ∧
    (sampleProgram.outline { nulls := true } Recording.receiver 20 0
      impatient).outline.entries.toList.map Entry.kind = [.program, .ifStatement] := by
  have hq : NeverCancels silent () := fun _ => rfl
  have hc : (sampleProgram.outline { nulls := true } silent 20 0 ()).complete := rfl
  have hstop : StopsAfter Recording.receiver
      (Recording.receive (.total (Quantity.ofNat sampleProgram.size)) impatient) 2 :=
    stopsAfter_recording rfl rfl rfl Nat.two_pos
  obtain ⟨hcut, -⟩ := Arena.outline_stopped_isCut hq hc Recording.receiver impatient
  obtain ⟨-, hcut⟩ := hcut 2 hstop
  have hc' : (sampleProgram.outline { nulls := true } Recording.receiver 20 0 impatient).complete :=
    rfl
  exact ⟨hq, hc, hc', (hcut 20 hc').1, rfl⟩

end Estree
